import MakeTen.Proofs.Play.Courses
import MakeTen.Proofs.Play.Lines
import MakeTen.Proofs.Text.Padding
/-!
# The form of lines

A session takes a line by what is left of it once it is trimmed.  How the line is ended and
padded in the stream leaves no trace in that: a carriage return in front of the line feed is
a blank like others, and blanks are read as blanks even where they cut a character short.

A session that hears the trimmed lines does the same things as one that hears the lines,
except that it has heard the trimmed ones.  So two streams with the same trimmed lines make
for the same game.

Main results:

- Relation `Input.Carries`: a stream that carries lines in some form.
- Theorem `Input.Carries.map_lines`: what its lines are once they are trimmed.
- Theorem `Session.hear_trimmed`: hearing a trimmed line is hearing the line.
- Theorem `Playthrough.run_trimmed`: so it is for a whole playthrough.
- Theorem `Playthrough.form_of_lines_never_matters`: the form of lines never matters.
-/

namespace MakeTen

variable {π σ : Type}

/-! ## Lines in a stream -/

namespace Input

/-- The bytes that may pad a line: spaces, tabs and carriage returns. -/
def IsPad (b : UInt8) : Prop :=
  b = 0x20 ∨ b = 0x09 ∨ b = carriageReturn

/-- A line with padding on both sides. -/
inductive Pads : List UInt8 → List UInt8 → Prop where
  | around {front line back : List UInt8} (hfront : ∀ b ∈ front, IsPad b)
      (hback : ∀ b ∈ back, IsPad b) : Pads line (front ++ line ++ back)

/-- A stream that carries lines: each of them may be padded, and it is ended by a line feed,
with or without a carriage return.  The last one need not be ended, unless nothing would be
left of it. -/
inductive Carries : List (List UInt8) → List UInt8 → Prop where
  | nil : Carries [] []
  | feed {line padded : List UInt8} {lines : List (List UInt8)} {bytes : List UInt8}
      (hpads : Pads line padded) (hrest : Carries lines bytes) :
      Carries (line :: lines) (padded ++ [lineFeed] ++ bytes)
  | returnFeed {line padded : List UInt8} {lines : List (List UInt8)} {bytes : List UInt8}
      (hpads : Pads line padded) (hrest : Carries lines bytes) :
      Carries (line :: lines) (padded ++ [carriageReturn, lineFeed] ++ bytes)
  | unended {line padded : List UInt8} (hpads : Pads line padded) (hne : padded ≠ []) :
      Carries [line] padded

theorem IsPad.lt {b : UInt8} (h : IsPad b) : b < 0x80 := by
  rcases h with rfl | rfl | rfl <;> decide

theorem IsPad.ne_lineFeed {b : UInt8} (h : IsPad b) : b ≠ lineFeed := by
  rcases h with rfl | rfl | rfl <;> decide

/-- Padding is read as blanks. -/
theorem IsPad.isBlank {b : UInt8} (h : IsPad b) : Blank.isBlank (Char.ofNat b.toNat) = true := by
  rcases h with rfl | rfl | rfl <;> decide

/-- Padding does not change what is left of a line. -/
theorem Pads.trimmed_eq {line padded : List UInt8} (h : Pads line padded) :
    Blank.trimmed (restText padded) = Blank.trimmed (restText line) := by
  cases h with
  | @around front _ back hfront hback =>
    have hblank : ∀ pads : List UInt8, (∀ b ∈ pads, IsPad b) →
        ∀ c ∈ pads.map (fun b => Char.ofNat b.toNat), Blank.isBlank c = true := by
      intro pads hpads c hc
      obtain ⟨b, hb, rfl⟩ := List.mem_map.1 hc
      exact (hpads b hb).isBlank
    simp only [Blank.trimmed, restText, String.toList_ofList]
    rw [Utf8.decodeLossy_padded (fun b hb => (hfront b hb).lt) fun b hb => (hback b hb).lt,
      Blank.trim_padded (hblank front hfront) (hblank back hback)]

theorem Pads.not_mem {line padded : List UInt8} (h : Pads line padded) (hline : lineFeed ∉ line) :
    lineFeed ∉ padded := by
  cases h with
  | around hfront hback =>
    simp only [List.mem_append, not_or]
    exact ⟨⟨fun hmem => (hfront _ hmem).ne_lineFeed rfl, hline⟩,
      fun hmem => (hback _ hmem).ne_lineFeed rfl⟩

/-- A carriage return at the end is padding. -/
theorem Pads.append_return {line padded : List UInt8} (h : Pads line padded) :
    Pads line (padded ++ [carriageReturn]) := by
  cases h with
  | @around front _ back hfront hback =>
    rw [List.append_assoc _ back]
    refine .around hfront fun b hb => ?_
    rcases List.mem_append.1 hb with hb | hb
    · exact hback b hb
    · exact .inr (.inr (List.mem_singleton.1 hb))

theorem pads_dropReturn (segment : List UInt8) : Pads (dropReturn segment) segment := by
  have hrefl : ∀ line, Pads line line := fun line => by
    have hnone : ∀ b ∈ ([] : List UInt8), IsPad b := by simp
    simpa using Pads.around hnone hnone
  unfold dropReturn
  split
  · rename_i hlast
    have hreturn := (hrefl segment.dropLast).append_return
    rwa [List.dropLast_append_getLast? carriageReturn hlast] at hreturn
  · exact hrefl segment

/-- What is left of a line is the same, whether it is ended or not. -/
theorem trimmed_lineText (segment : List UInt8) :
    Blank.trimmed (lineText segment) = Blank.trimmed (restText segment) :=
  (pads_dropReturn segment).trimmed_eq.symm

/-- The lines that a stream carries are its lines, once they are trimmed. -/
theorem Carries.map_lines {carried : List (List UInt8)} {bytes : List UInt8}
    (h : Carries carried bytes) (hcarried : ∀ line ∈ carried, lineFeed ∉ line) :
    (lines ⟨bytes, .exhausted⟩).map Blank.trimmed =
      carried.map fun line => Blank.trimmed (restText line) := by
  -- The padded line is the first of the stream, and the others are carried by the rest.
  have hended : ∀ {line padded : List UInt8} {carried : List (List UInt8)} {bytes : List UInt8},
      Pads line padded → lineFeed ∉ line →
      (lines ⟨bytes, .exhausted⟩).map Blank.trimmed =
        carried.map (fun line => Blank.trimmed (restText line)) →
      (lines ⟨padded ++ [lineFeed] ++ bytes, .exhausted⟩).map Blank.trimmed =
        (line :: carried).map fun line => Blank.trimmed (restText line) := by
    intro line padded carried bytes hpads hline hrest
    have hsplit : splitLine (padded ++ [lineFeed] ++ bytes) = (padded, some bytes) := by
      rw [List.append_assoc]
      exact splitLine_append (hpads.not_mem hline) bytes
    have hfirst : lines ⟨padded ++ [lineFeed] ++ bytes, .exhausted⟩ =
        lineText padded :: lines ⟨bytes, .exhausted⟩ := lines_of_some hsplit
    rw [hfirst, List.map_cons, List.map_cons, hrest,
      trimmed_lineText, hpads.trimmed_eq]
  induction h with
  | nil => rfl
  | feed hpads hrest ih =>
    rw [List.forall_mem_cons] at hcarried
    exact hended hpads hcarried.1 (ih hcarried.2)
  | @returnFeed line padded carried bytes hpads hrest ih =>
    rw [List.forall_mem_cons] at hcarried
    have hreturn := hended hpads.append_return hcarried.1 (ih hcarried.2)
    rwa [List.append_assoc padded] at hreturn
  | @unended line padded hpads hne =>
    have hline := hcarried line (List.mem_singleton.2 rfl)
    have hsplit : splitLine (Input.mk padded .exhausted).bytes = (padded, none) :=
      splitLine_of_not_mem (hpads.not_mem hline)
    have hlast : lines ⟨padded, .exhausted⟩ = [restText padded] := by
      rw [lines_of_none hsplit]
      simp [hne]
    rw [hlast, List.map_singleton, List.map_singleton, hpads.trimmed_eq]

end Input

/-! ## Hearing trimmed lines -/

/-- The event as it is if the line that is heard is trimmed. -/
def Event.trimmed : Event → Event
  | .heard line use => .heard (Blank.trimmed line) use
  | e => e

@[simp]
theorem Event.output_trimmed (colored : Bool) (e : Event) :
    e.trimmed.output colored = e.output colored := by
  cases e <;> rfl

@[simp]
theorem Event.isFlushed_trimmed (e : Event) : e.trimmed.isFlushed = e.isFlushed := by
  cases e <;> rfl

@[simp]
theorem answer?_trimmed (line : String) : answer? (Blank.trimmed line) = answer? line := by
  simp only [answer?, Blank.toList_trimmed, Blank.trim_trim]

namespace Session

theorem map_trimmed_beginRound (g : Game π σ) (s : Session π σ) :
    (s.beginRound g).1.map Event.trimmed = (s.beginRound g).1 := by
  unfold beginRound
  split <;> rfl

theorem map_trimmed_nextPuzzle (g : Game π σ) (s : Session π σ) :
    (s.nextPuzzle g).1.map Event.trimmed = (s.nextPuzzle g).1 := by
  simp only [nextPuzzle, List.map_cons, map_trimmed_beginRound]
  rfl

theorem map_trimmed_conclude (g : Game π σ) (s : Session π σ) (a : Attempt) :
    (s.conclude g a).1.map Event.trimmed = (s.conclude g a).1 := by
  unfold conclude
  repeat' split
  all_goals rfl

theorem map_trimmed_leave (s : Session π σ) : s.leave.1.map Event.trimmed = s.leave.1 := by
  unfold leave
  split <;> rfl

theorem map_trimmed_start (g : Game π σ) (picker : π) (judge : σ) :
    (start g picker judge).1.map Event.trimmed = (start g picker judge).1 := by
  simp only [start, List.map_cons, map_trimmed_beginRound]
  rfl

/-- Hearing a trimmed line is hearing the line, except for what is heard. -/
theorem hear_trimmed (g : Game π σ) (s : Session π σ) (line : String) :
    s.hear g (Blank.trimmed line) =
      ((s.hear g line).1.map Event.trimmed, (s.hear g line).2) := by
  unfold hear
  split
  · rename_i attempt _
    simp only [hearSolution, Blank.trimmed_trimmed]
    split
    · rfl
    · rfl
    · rename_i submitted _
      simp only [List.map_append, map_trimmed_conclude]
      cases submitted.stage <;> rfl
  · rename_i outcome _
    simp only [hearAnswer, answer?_trimmed]
    split
    · rfl
    · rfl
    · cases outcome with
      | solved => simp only [List.map_cons, map_trimmed_nextPuzzle]; rfl
      | rejected => simp only [List.map_cons, map_trimmed_beginRound]; rfl
  · rfl

end Session

/-! ## Playthroughs with trimmed lines -/

namespace Terminal

theorem display_trimmed (t : Terminal) (e : Event) : t.display e.trimmed = t.display e := by
  simp only [display, Event.output_trimmed, Event.isFlushed_trimmed]

/-- What goes through does not depend on the form of the lines. -/
theorem deliver_trimmed (t : Terminal) (events : List Event) :
    t.deliver (events.map Event.trimmed) =
      ⟨(t.deliver events).events.map Event.trimmed, (t.deliver events).output,
        (t.deliver events).rest⟩ := by
  induction events generalizing t with
  | nil => rfl
  | cons e events ih =>
    rw [List.map_cons, deliver, deliver, display_trimmed]
    cases t.display e with
    | mk sent rest =>
      cases rest with
      | error reason => rfl
      | ok t => simp only [ih, List.map_cons]

end Terminal

namespace Playthrough

/-- The playthrough as it is if the lines that are heard are trimmed. -/
def trimmed (p : Playthrough σ) : Playthrough σ :=
  { p with events := p.events.map Event.trimmed }

theorem showThen_trimmed (t : Terminal) (events : List Event) (s : Session π σ)
    {next next' : Terminal → Playthrough σ} (hnext : ∀ t, next' t = (next t).trimmed) :
    showThen t (events.map Event.trimmed) s next' = (showThen t events s next).trimmed := by
  simp only [showThen, Terminal.deliver_trimmed]
  cases (t.deliver events).rest with
  | error reason => rfl
  | ok t => simp only [hnext, after, trimmed, List.map_append]

/-- Going on with trimmed lines is going on with the lines, except for what is heard. -/
theorem continueWith_trimmed (g : Game π σ) (ending : Ending) (s : Session π σ) (t : Terminal)
    (lines : List String) :
    continueWith g ending s t (lines.map Blank.trimmed) =
      (continueWith g ending s t lines).trimmed := by
  induction lines generalizing s t with
  | nil =>
    simp only [List.map_nil, continueWith]
    cases result? s with
    | some result => rfl
    | none =>
      cases ending with
      | broken reason => rfl
      | exhausted =>
        have hlast : ∀ _ : Terminal, ofSession s.leave.2 (.ok s.leave.2.score) =
            (ofSession s.leave.2 (.ok s.leave.2.score)).trimmed := fun _ => rfl
        have hleave := showThen_trimmed t s.leave.1 s.leave.2 hlast
        rw [Session.map_trimmed_leave] at hleave
        exact hleave
  | cons line lines ih =>
    simp only [List.map_cons, continueWith]
    cases result? s with
    | some result => rfl
    | none =>
      simp only [Session.hear_trimmed]
      exact showThen_trimmed t _ _ fun rest => ih _ rest

/-- A playthrough follows from the trimmed lines, except for what is heard. -/
theorem run_trimmed (g : Game π σ) (picker : π) (judge : σ) (input : Input) (t : Terminal) :
    let opening := Session.start g picker judge
    (run g picker judge input t).trimmed =
      showThen t opening.1 opening.2 fun rest =>
        continueWith g input.ending opening.2 rest (input.lines.map Blank.trimmed) := by
  intro opening
  have hnext : ∀ rest,
      continueWith g input.ending opening.2 rest (input.lines.map Blank.trimmed) =
        (continueWith g input.ending opening.2 rest input.lines).trimmed :=
    fun rest => continueWith_trimmed g input.ending opening.2 rest input.lines
  have hshow := showThen_trimmed t opening.1 opening.2 hnext
  rw [Session.map_trimmed_start] at hshow
  exact hshow.symm

/-! ## Main theorem -/

variable {lines : List (List UInt8)} {bytes bytes' : List UInt8}

/-- The form of lines never matters.

Take some lines, whatever bytes other than line feeds they are made of, and two streams that
carry them: in each stream every line is ended by a line feed or by a carriage return and a
line feed, except perhaps the last one, and has spaces, tabs and carriage returns on either
side as it comes.  Then, for every game, on every terminal, the two playthroughs have the
same result and the same output, they leave the judge in the same state, with the same code
judged to the same verdicts, and the same happened in both, down to how each line was taken;
only the padding of what was heard may differ. -/
theorem form_of_lines_never_matters (hlines : ∀ line ∈ lines, Input.lineFeed ∉ line)
    (h : Input.Carries lines bytes) (h' : Input.Carries lines bytes') (g : Game π σ) (picker : π)
    (judge : σ) (t : Terminal) :
    let p := run g.recorded picker (judge, []) ⟨bytes, .exhausted⟩ t
    let p' := run g.recorded picker (judge, []) ⟨bytes', .exhausted⟩ t
    p.result = p'.result ∧ p.judge = p'.judge ∧ p.output = p'.output ∧
      p.events.map Event.trimmed = p'.events.map Event.trimmed := by
  intro p p'
  have hsame : p.trimmed = p'.trimmed := by
    simp only [p, p', run_trimmed, h.map_lines hlines, h'.map_lines hlines]
  have hresult : p.trimmed.result = p'.trimmed.result := by rw [hsame]
  have hjudge : p.trimmed.judge = p'.trimmed.judge := by rw [hsame]
  have houtput : p.trimmed.output = p'.trimmed.output := by rw [hsame]
  have hevents : p.trimmed.events = p'.trimmed.events := by rw [hsame]
  exact ⟨hresult, hjudge, houtput, hevents⟩

/-- A solution, a yes, bytes that begin a character and do not end it, another solution and
a no: once each line is ended by a line feed, and once they are padded, a blank follows the
character that is cut short, and nothing ends the last line. -/
theorem form_of_lines_never_matters_of_two_streams :
    let lines := [Utf8.encodeString "040404", [], [0xF0, 0x9F], Utf8.encodeString "010203",
      Utf8.encodeString "n"]
    let bytes := Utf8.encodeString "040404\n\n" ++ [0xF0, 0x9F] ++
      Utf8.encodeString "\n010203\nn\n"
    let bytes' := Utf8.encodeString "\t040404 \r\n \r\n" ++ [0xF0, 0x9F] ++
      Utf8.encodeString "\t\n 010203\r\nn\r"
    let p := run Game.sample.recorded 0 ([.ok false, .ok true], []) ⟨bytes, .exhausted⟩
      ⟨true, none, none⟩
    let p' := run Game.sample.recorded 0 ([.ok false, .ok true], []) ⟨bytes', .exhausted⟩
      ⟨true, none, none⟩
    (∀ line ∈ lines, Input.lineFeed ∉ line) ∧ Input.Carries lines bytes ∧
      Input.Carries lines bytes' ∧ p.result = .ok ⟨1, 0, 2, 2, 1, 1⟩ ∧
      p'.result = .ok ⟨1, 0, 2, 2, 1, 1⟩ ∧
      p'.judge.2 = [([4, 4, 4], .ok false), ([1, 2, 3], .ok true)] ∧ p.output = p'.output := by
  intro lines bytes bytes' p p'
  have hfeed : ∀ line ∈ lines, Input.lineFeed ∉ line := by decide +kernel
  have hnone : ∀ b ∈ ([] : List UInt8), Input.IsPad b := by simp
  have hspace : ∀ b ∈ [0x20], Input.IsPad b := by simp [Input.IsPad]
  have htab : ∀ b ∈ [0x09], Input.IsPad b := by simp [Input.IsPad]
  have hreturn : ∀ b ∈ [Input.carriageReturn], Input.IsPad b := by simp [Input.IsPad]
  have hcarries : Input.Carries lines bytes := by
    have hparts : bytes = ([] ++ Utf8.encodeString "040404" ++ []) ++ [Input.lineFeed] ++
        (([] ++ [] ++ []) ++ [Input.lineFeed] ++ (([] ++ [0xF0, 0x9F] ++ []) ++ [Input.lineFeed] ++
          (([] ++ Utf8.encodeString "010203" ++ []) ++ [Input.lineFeed] ++
            (([] ++ Utf8.encodeString "n" ++ []) ++ [Input.lineFeed] ++ [])))) := by
      decide +kernel
    rw [hparts]
    exact .feed (.around hnone hnone) (.feed (.around hnone hnone) (.feed (.around hnone hnone)
      (.feed (.around hnone hnone) (.feed (.around hnone hnone) .nil))))
  have hcarries' : Input.Carries lines bytes' := by
    have hparts : bytes' = ([0x09] ++ Utf8.encodeString "040404" ++ [0x20]) ++
        [Input.carriageReturn, Input.lineFeed] ++
        (([0x20] ++ [] ++ []) ++ [Input.carriageReturn, Input.lineFeed] ++
          (([] ++ [0xF0, 0x9F] ++ [0x09]) ++ [Input.lineFeed] ++
            (([0x20] ++ Utf8.encodeString "010203" ++ []) ++
              [Input.carriageReturn, Input.lineFeed] ++
              ([] ++ Utf8.encodeString "n" ++ [Input.carriageReturn])))) := by
      decide +kernel
    rw [hparts]
    exact .returnFeed (.around htab hspace) (.returnFeed (.around hspace hnone)
      (.feed (.around hnone htab) (.returnFeed (.around hspace hnone)
        (.unended (.around hnone hreturn) (by decide +kernel)))))
  have hok : p.result = .ok ⟨1, 0, 2, 2, 1, 1⟩ := by decide +kernel
  have hruns : p.judge.2 = [([4, 4, 4], .ok false), ([1, 2, 3], .ok true)] := by decide +kernel
  obtain ⟨hresult, hjudge, houtput, _⟩ := form_of_lines_never_matters hfeed hcarries hcarries'
    Game.sample 0 [.ok false, .ok true] ⟨true, none, none⟩
  exact ⟨hfeed, hcarries, hcarries', hok, hresult.symm.trans hok,
    (congrArg Prod.snd hjudge.symm).trans hruns, houtput⟩

end Playthrough
end MakeTen
