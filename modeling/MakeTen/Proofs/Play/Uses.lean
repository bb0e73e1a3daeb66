import MakeTen.Proofs.Play.Hearings
import MakeTen.Proofs.Play.Lines
import MakeTen.Proofs.Text.Padding
/-!
# What becomes of the lines

A session asks before it listens: each line that it hears answers the prompt before it, and
is taken in the one way that the prompt and the line allow.  It stops listening after a no
and when there are no lines any more, and it takes its leave once, as the last thing that it
does.

So a session cannot go on for longer than there are lines, whatever they are, and all that
it reads of its stream is one reading for each prompt.

Main results:

- Theorems `answer?_eq_true_iff`, `answer?_eq_false_iff`, `answer?_eq_none_iff`: the words that
  answer a question.
- Function `Prompt.use`: how a line is taken at a prompt.
- Theorem `Session.Played.uses_eq`: every line is taken in this way.
- Theorem `Session.Played.countP_isPrompt`: every line answers one prompt.
- Theorem `Session.Played.open_or_left`: a session is left after a no and not before.
- Structures `Playthrough.EndsWithNo`, `Playthrough.RunsOut`: the two ways to end.
- Theorem `Playthrough.every_line_is_asked_for_once`: the same of whole playthroughs.
-/

namespace MakeTen

variable {π σ : Type}

/-! ## Answers -/

/-- The line is one of some words, in any letter case and with any blanks around it. -/
def Says (line : String) (words : List String) : Prop :=
  ∃ before word after, line.toList = before ++ word ++ after ∧
    (∀ c ∈ before, Blank.isBlank c = true) ∧ (∀ c ∈ after, Blank.isBlank c = true) ∧
    String.ofList (word.map Char.toLower) ∈ words

/-- Blanks have one letter case. -/
theorem Blank.toLower_eq_self {c : Char} (h : isBlank c = true) : c.toLower = c := by
  unfold Char.toLower
  split
  · rename_i hletter
    have hrange : 65 ≤ c.toNat ∧ c.toNat ≤ 90 := hletter
    simp only [isBlank, Bool.or_eq_true, Bool.and_eq_true, decide_eq_true_eq, beq_iff_eq] at h
    omega
  · rfl

/-- Words without blanks are said by what is left of a line when it is trimmed. -/
theorem says_iff {line : String} {words : List String}
    (hwords : ∀ w ∈ words, ∀ c ∈ w.toList, Blank.isBlank c = false) :
    Says line words ↔ String.ofList ((Blank.trim line.toList).map Char.toLower) ∈ words := by
  constructor
  · rintro ⟨before, word, after, hline, hbefore, hafter, hword⟩
    have hinner : ∀ c ∈ word, Blank.isBlank c = false := by
      intro c hc
      by_contra hblank
      rw [Bool.not_eq_false] at hblank
      have hmem := List.mem_map_of_mem (f := Char.toLower) hc
      rw [Blank.toLower_eq_self hblank, ← String.toList_ofList (l := word.map Char.toLower)] at hmem
      exact Bool.false_ne_true ((hwords _ hword c hmem).symm.trans hblank)
    rwa [hline, Blank.trim_append hbefore hinner hafter]
  · intro hword
    obtain ⟨before, after, hline, hbefore, hafter⟩ := Blank.exists_eq_append_trim line.toList
    exact ⟨before, _, after, hline, hbefore, hafter, hword⟩

/-- A line means yes if it says so, or nothing at all. -/
theorem answer?_eq_true_iff {line : String} :
    answer? line = some true ↔ Says line ["", "y", "yes"] := by
  rw [says_iff (by simp [Blank.isBlank])]
  unfold answer?
  split <;> simp_all

theorem answer?_eq_false_iff {line : String} :
    answer? line = some false ↔ Says line ["n", "no"] := by
  rw [says_iff (by simp [Blank.isBlank])]
  unfold answer?
  split <;> simp_all

/-- Nothing else is an answer. -/
theorem answer?_eq_none_iff {line : String} :
    answer? line = none ↔ ¬ Says line ["", "y", "yes"] ∧ ¬ Says line ["n", "no"] := by
  rw [← answer?_eq_true_iff, ← answer?_eq_false_iff]
  rcases answer? line with _ | _ | _ <;> simp

example : answer? " YES\t" = some true ∧ answer? "" = some true ∧ answer? "nope" = none := by decide

/-! ## Ways to take a line -/

/-- How a line is taken at a prompt. -/
def Prompt.use : Prompt → String → Use
  | .solution, line =>
    match Solution.ofText? (Blank.trimmed line) with
    | none => .turnedAway
    | some s => .taken s
  | .goOn _, line =>
    match answer? line with
    | none => .unclear
    | some true => .yes
    | some false => .no

/-- How the line of an exchange is taken, if there was a prompt before it. -/
def Exchange.use? (x : Exchange) : Option Use :=
  x.prompt.map fun p => p.use x.line

/-- The line is taken as a solution. -/
def Use.isTaken : Use → Bool
  | .taken _ => true
  | _ => false

/-- How the line that is heard is taken. -/
def Event.use? : Event → Option Use
  | .heard _ use => some use
  | _ => none

/-- How the lines that are heard are taken. -/
def uses (events : List Event) : List Use :=
  events.filterMap Event.use?

theorem uses_append (events more : List Event) : uses (events ++ more) = uses events ++ uses more :=
  List.filterMap_append

namespace Session

variable {g : Game π σ} {picker : π} {judge : σ} {lines : List String} {events more : List Event}
  {s s' : Session π σ} {line : String}

/-! ## One line -/

/-- A line is taken as the prompt and the line say. -/
theorem Heard.uses_eq (h : Heard g s line more s') :
    ∃ p, s.phase.prompt? = some p ∧ uses more = [p.use line] := by
  cases h with
  | turnedAway hphase ht hline =>
    refine ⟨.solution, by rw [hphase]; rfl, ?_⟩
    simp [uses, Event.use?, Prompt.use, hline]
  | taken hphase ht hline hreport =>
    refine ⟨.solution, by rw [hphase]; rfl, ?_⟩
    simp [uses, Event.use?, Prompt.use, hline, reportEvents]
  | @unclear outcome hphase hline =>
    refine ⟨.goOn outcome, by rw [hphase]; rfl, ?_⟩
    simp [uses, Event.use?, Prompt.use, hline]
  | @no outcome hphase hline =>
    refine ⟨.goOn outcome, by rw [hphase]; rfl, ?_⟩
    simp [uses, Event.use?, Prompt.use, hline]
  | again hphase hline ht =>
    refine ⟨.goOn .rejected, by rw [hphase]; rfl, ?_⟩
    simp [uses, Event.use?, Prompt.use, hline, roundEvents]
  | next hphase hline hpick ht =>
    refine ⟨.goOn .solved, by rw [hphase]; rfl, ?_⟩
    simp [uses, Event.use?, Prompt.use, hline, roundEvents]

/-- An attempt is recorded for a line that is taken as a solution, and for no other. -/
theorem Heard.totalAttempts_eq (h : Heard g s line more s') :
    s'.score.totalAttempts = s.score.totalAttempts + (uses more).countP Use.isTaken := by
  cases h <;> rfl

/-- The session goes on after a line without a farewell, or the line is a no and the
farewell comes last. -/
theorem Heard.leaves_cases (h : Heard g s line more s') :
    (s'.phase.isOver = false ∧ .no ∉ uses more ∧ .shown .farewell ∉ more) ∨
      (s'.phase.isOver = true ∧ more = [.heard line .no, .shown .blankLine, .shown .farewell]) := by
  cases h with
  | turnedAway => exact .inl ⟨rfl, by simp [uses, Event.use?], by simp⟩
  | taken => exact .inl ⟨rfl, by simp [uses, Event.use?, reportEvents], by simp [reportEvents]⟩
  | unclear hphase hline =>
    refine .inl ⟨?_, by simp [uses, Event.use?], by simp⟩
    rw [hphase]
    rfl
  | no => exact .inr ⟨rfl, rfl⟩
  | again => exact .inl ⟨rfl, by simp [uses, Event.use?, roundEvents], by simp [roundEvents]⟩
  | next => exact .inl ⟨rfl, by simp [uses, Event.use?, roundEvents], by simp [roundEvents]⟩

/-! ## All lines -/

/-- Every line is taken as its prompt and the line say. -/
theorem Played.uses_eq (h : Played g picker judge lines events s) :
    (uses events).map some = (exchanges none events).map Exchange.use? := by
  induction h with
  | start => rfl
  | hear hplayed hheard ih =>
    obtain ⟨p, hprompt, huses⟩ := hheard.uses_eq
    rw [uses_append, huses, hplayed.exchanges_hear hheard, List.map_append, List.map_append, ih,
      hprompt]
    rfl

/-- As many attempts are recorded as lines have been taken as solutions. -/
theorem Played.countP_isTaken (h : Played g picker judge lines events s) :
    (uses events).countP Use.isTaken = s.score.totalAttempts := by
  induction h with
  | start => rfl
  | hear hplayed hheard ih => rw [uses_append, List.countP_append, ih, hheard.totalAttempts_eq]

/-- There is one prompt for every line, and one more if the session waits. -/
theorem Played.countP_isPrompt (h : Played g picker judge lines events s) :
    events.countP Event.isPrompt = lines.length + if s.phase.isOver then 0 else 1 := by
  induction h with
  | start => rfl
  | hear hplayed hheard ih =>
    rw [hheard.isOver_eq_false] at ih
    rw [List.countP_append, ih, List.length_append]
    rcases hheard.asks with ⟨hwaits, hone, _⟩ | ⟨hover, hnone⟩
    · rw [hone, hwaits]
      rfl
    · rw [hnone, hover]
      rfl

/-- A session goes on until it hears a no, and then shows the farewell, which it has not
shown before. -/
theorem Played.open_or_left (h : Played g picker judge lines events s) :
    (s.phase.isOver = false ∧ .no ∉ uses events ∧ .shown .farewell ∉ events) ∨
      (s.phase.isOver = true ∧ (∃ earlier, uses events = earlier ++ [.no] ∧ .no ∉ earlier) ∧
        ∃ shown, events = shown ++ [.shown .farewell] ∧ .shown .farewell ∉ shown) := by
  induction h with
  | start => exact .inl ⟨rfl, by simp [uses, Event.use?, roundEvents], by simp [roundEvents]⟩
  | @hear lines events more s s' line hplayed hheard ih =>
    -- A session that hears a line has not been left yet.
    rcases ih with ⟨_, hno, hfarewell⟩ | ⟨hover, _⟩
    · rcases hheard.leaves_cases with ⟨hwaits, hno', hfarewell'⟩ | ⟨hleft, rfl⟩
      · refine .inl ⟨hwaits, ?_, ?_⟩
        · rw [uses_append, List.mem_append, not_or]
          exact ⟨hno, hno'⟩
        · rw [List.mem_append, not_or]
          exact ⟨hfarewell, hfarewell'⟩
      · refine .inr ⟨hleft, ⟨uses events, uses_append _ _, hno⟩,
          events ++ [.heard line .no, .shown .blankLine], by simp, ?_⟩
        simpa using hfarewell
    · rw [hheard.isOver_eq_false] at hover
      simp at hover

end Session

/-! ## Whole playthroughs -/

namespace Playthrough

/-- The lines that are heard in a playthrough. -/
def heard (p : Playthrough σ) : List String :=
  (exchanges none p.events).map Exchange.line

/-- The playthrough ends with a no: it is the last line, and the only no; every prompt has
been answered, and the stream has been read once for each of them. -/
structure EndsWithNo (input : Input) (p : Playthrough σ) : Prop where
  last_use : ∃ earlier, uses p.events = earlier ++ [.no] ∧ .no ∉ earlier
  prompts_eq : p.events.countP Event.isPrompt = p.heard.length
  /-- Reading once for each prompt gives the lines. -/
  readings_eq : input.readLines (p.events.countP Event.isPrompt) =
    p.heard.map fun line => .ok (some line)

/-- The playthrough ends because the lines run out: no line is a no, all lines have been
heard, one more has been asked for, and the reading for it found the end of the stream. -/
structure RunsOut (input : Input) (p : Playthrough σ) : Prop where
  ending_eq : input.ending = .exhausted
  no_not_mem : .no ∉ uses p.events
  heard_eq : p.heard = input.lines
  /-- There is one prompt more than lines. -/
  prompts_eq : p.events.countP Event.isPrompt = p.heard.length + 1
  /-- Reading once for each prompt gives the lines and then nothing. -/
  readings_eq : input.readLines (p.events.countP Event.isPrompt) =
    (p.heard.map fun line => .ok (some line)) ++ [.ok none]

/-- The farewell is plain on every terminal. -/
theorem output_farewell (colored : Bool) :
    Event.output colored (.shown .farewell) = Utf8.encodeString "Thanks for playing!\n" := by
  cases colored <;> decide +kernel

section Ended

variable {g : Game π σ} {picker : π} {judge : σ} {lines unheard : List String}
  {events : List Event} {s : Session π σ} {input : Input} {colored : Bool} {p : Playthrough σ}

/-- The end of the stream shows the farewell and nothing else. -/
theorem Concludes.events_cases (hends : Concludes input.ending colored unheard events s p) :
    (s.phase.isOver = true ∧ p.events = events) ∨
      (s.phase.isOver = false ∧ p.events = events ++ [.shown .farewell]) := by
  rw [hends.events_eq]
  cases hover : s.phase.isOver with
  | true => exact .inl ⟨rfl, by rw [Session.leave_of_isOver hover, List.append_nil]⟩
  | false => exact .inr ⟨rfl, by rw [Session.leave_of_not_isOver hover]⟩

theorem Concludes.uses_eq (hends : Concludes input.ending colored unheard events s p) :
    uses p.events = uses events :=
  hends.filterMap_eq rfl

theorem Concludes.countP_isPrompt (hends : Concludes input.ending colored unheard events s p) :
    p.events.countP Event.isPrompt = events.countP Event.isPrompt := by
  rcases hends.events_cases with ⟨_, hevents⟩ | ⟨_, hevents⟩
  · rw [hevents]
  · rw [hevents, List.countP_append]
    rfl

theorem Concludes.heard_eq (hends : Concludes input.ending colored unheard events s p)
    (hplayed : Session.Played g picker judge lines events s) : p.heard = lines := by
  rw [heard, hends.exchanges_eq, hplayed.lines_eq]

/-- A playthrough shows the farewell once, as the last thing. -/
theorem Concludes.exists_farewell (hends : Concludes input.ending colored unheard events s p)
    (hplayed : Session.Played g picker judge lines events s) :
    ∃ shown, p.events = shown ++ [.shown .farewell] ∧ .shown .farewell ∉ shown := by
  rcases hends.events_cases with ⟨hover, hevents⟩ | ⟨hover, hevents⟩
  · rw [hevents]
    rcases hplayed.open_or_left with ⟨hopen, _⟩ | ⟨_, _, hshown⟩
    · simp [hover] at hopen
    · exact hshown
  · rcases hplayed.open_or_left with ⟨_, _, hfarewell⟩ | ⟨hleft, _⟩
    · exact ⟨events, hevents, hfarewell⟩
    · simp [hover] at hleft

/-- A session that is over has ended its playthrough with a no. -/
theorem Concludes.endsWithNo (hends : Concludes input.ending colored unheard events s p)
    (hplayed : Session.Played g picker judge lines events s) (hlines : input.lines = lines ++ unheard)
    (hover : s.phase.isOver = true) : EndsWithNo input p := by
  have hheard := hends.heard_eq hplayed
  have hprompts : p.events.countP Event.isPrompt = lines.length := by
    rw [hends.countP_isPrompt, hplayed.countP_isPrompt, hover]
    rfl
  refine ⟨?_, by rw [hprompts, hheard], ?_⟩
  · rw [hends.uses_eq]
    rcases hplayed.open_or_left with ⟨hopen, _⟩ | ⟨_, hlast, _⟩
    · simp [hover] at hopen
    · exact hlast
  · have hle : lines.length ≤ input.lines.length := by
      rw [hlines, List.length_append]
      exact Nat.le_add_right _ _
    rw [hprompts, Input.readLines_of_le hle, hlines, List.take_left, hheard]

/-- A session that waits has ended its playthrough because the lines have run out. -/
theorem Concludes.runsOut (hends : Concludes input.ending colored unheard events s p)
    (hplayed : Session.Played g picker judge lines events s) (hlines : input.lines = lines ++ unheard)
    (hover : s.phase.isOver = false) : RunsOut input p := by
  have hheard := hends.heard_eq hplayed
  obtain ⟨hnone, hending⟩ : unheard = [] ∧ input.ending = .exhausted := by
    rcases hends.ended with hclosed | hout
    · simp [hclosed, Phase.isOver] at hover
    · exact hout
  have hall : input.lines = lines := by rw [hlines, hnone, List.append_nil]
  have hprompts : p.events.countP Event.isPrompt = lines.length + 1 := by
    rw [hends.countP_isPrompt, hplayed.countP_isPrompt, hover]
    rfl
  refine ⟨hending, ?_, by rw [hheard, hall], by rw [hprompts, hheard], ?_⟩
  · rw [hends.uses_eq]
    rcases hplayed.open_or_left with ⟨_, hno, _⟩ | ⟨hleft, _⟩
    · exact hno
    · simp [hover] at hleft
  · rw [hprompts, Input.readLines_of_exhausted hending, hall, hheard,
      List.take_of_length_le (Nat.le_succ _), Nat.add_sub_cancel_left]
    rfl

end Ended

/-! ## Main theorem -/

variable {texts : List String} {g : Game π σ} {picker : π} {judge : σ} {input : Input}
  {t : Terminal}

/-- Every line is asked for once.

For every corpus that was read and every picker that stays within bounds, whatever the
judge answers: if neither the terminal nor the stream fails, a playthrough comes to its
end, with at most one prompt more than the stream has lines.  The lines that are heard are
the first ones of the stream, each is taken in the one way that its prompt and the line say,
and those that are taken as solutions are counted as attempts.

The playthrough ends with a no, as many prompts as lines, and as many readings; what comes
after that line in the stream makes no difference.  Or it ends because the lines run out,
with one prompt and one reading more.  The farewell is the last thing that is shown, and it
is shown once.  The bytes that are sent are those of the events, one by one. -/
theorem every_line_is_asked_for_once (hcorpus : Corpus.ofTexts texts = .ok g.corpus)
    (hpick : ∀ picker n, 1 ≤ n → (g.pick picker n).1 < n)
    (hio : ∀ reason, (run g picker judge input t).result ≠ .error (.terminal reason)) :
    let p := run g picker judge input t
    ∃ score, p.result = .ok score ∧
      p.events.countP Event.isPrompt ≤ input.lines.length + 1 ∧
      p.heard <+: input.lines ∧
      (uses p.events).map some = (exchanges none p.events).map Exchange.use? ∧
      (uses p.events).countP Use.isTaken = score.totalAttempts ∧
      ((EndsWithNo input p ∧
          ∀ input' : Input, p.heard <+: input'.lines → run g picker judge input' t = p) ∨
        RunsOut input p) ∧
      (∃ shown, p.events = shown ++ [.shown .farewell] ∧ .shown .farewell ∉ shown) ∧
      p.output = p.events.flatMap (Event.output t.colored) ∧
      ∃ sent, p.output = sent ++ Utf8.encodeString "Thanks for playing!\n" := by
  intro p
  have hg := Game.fair_of_ofTexts hcorpus hpick
  obtain ⟨score, hok⟩ : ∃ score, p.result = .ok score := by
    rcases run_goesThrough hg picker judge input t with hscore | ⟨reason, hresult, _⟩
    · exact hscore
    · exact absurd hresult (hio reason)
  obtain ⟨lines, unheard, events, s, hlines, hplayed, rfl, hends⟩ :=
    exists_played_of_ok hg.playable hok
  have hheard : p.heard = lines := hends.heard_eq hplayed
  have hprefix : p.heard <+: input.lines := by
    rw [hheard, hlines]
    exact List.prefix_append lines unheard
  have hle : lines.length ≤ input.lines.length := by
    rw [← hheard]
    exact hprefix.length_le
  obtain ⟨shown, hshown, hfarewell⟩ := hends.exists_farewell hplayed
  refine ⟨s.score, hok, ?_, hprefix, ?_, ?_, ?_, ⟨shown, hshown, hfarewell⟩, hends.output_eq, ?_⟩
  · rw [hends.countP_isPrompt, hplayed.countP_isPrompt]
    split <;> omega
  · rw [hends.uses_eq, hends.exchanges_eq, hplayed.uses_eq]
  · rw [hends.uses_eq, hplayed.countP_isTaken]
  · cases hover : s.phase.isOver with
    | true =>
      refine .inl ⟨hends.endsWithNo hplayed hlines hover, ?_⟩
      rintro input' ⟨more, hmore⟩
      rw [hheard] at hmore
      rw [← (hplayed.hearAll_eq hg.playable).2] at hover
      exact run_of_over hover hmore.symm hlines t
    | false => exact .inr (hends.runsOut hplayed hlines hover)
  · rw [hends.output_eq, hshown, List.flatMap_append, List.flatMap_singleton, output_farewell]
    exact ⟨_, rfl⟩

/-- A text turned away, a solution, an unclear answer and a no, with a line behind it that
is never heard; and a solution, a yes and a solution whose line is not ended, after which
the lines run out. -/
theorem every_line_is_asked_for_once_of_two_runs :
    let play := run Game.sample 0 [.ok false, .ok true]
    let input : Input := ⟨Utf8.encodeString "zz\n040404\nwhat\nn\n010203\n", .exhausted⟩
    let input' : Input := ⟨Utf8.encodeString "040404\n\n010203", .exhausted⟩
    let shorter : Input := ⟨Utf8.encodeString "zz\n040404\nwhat\nn\n", .broken "gone"⟩
    let p := play input ⟨false, none, none⟩
    let p' := play input' ⟨true, none, none⟩
    Corpus.ofTexts ["0xXXXXXX"] = .ok Game.sample.corpus ∧
      p.result = .ok ⟨1, 0, 1, 1, 0, 1⟩ ∧ p'.result = .ok ⟨1, 0, 2, 2, 1, 0⟩ ∧
      uses p.events = [.turnedAway, .taken ⟨.div, .div, .div⟩, .unclear, .no] ∧
      uses p'.events = [.taken ⟨.div, .div, .div⟩, .yes, .taken ⟨.add, .mul, .sub⟩] ∧
      EndsWithNo input p ∧ RunsOut input' p' ∧ play shorter ⟨false, none, none⟩ = p ∧
      p.output = p.events.flatMap (Event.output false) ∧
      ∃ sent, p.output = sent ++ Utf8.encodeString "Thanks for playing!\n" := by
  intro play input input' shorter p p'
  have hok : p.result = .ok ⟨1, 0, 1, 1, 0, 1⟩ := by decide +kernel
  have hok' : p'.result = .ok ⟨1, 0, 2, 2, 1, 0⟩ := by decide +kernel
  have huses : uses p.events = [.turnedAway, .taken ⟨.div, .div, .div⟩, .unclear, .no] := by
    decide +kernel
  have huses' : uses p'.events = [.taken ⟨.div, .div, .div⟩, .yes, .taken ⟨.add, .mul, .sub⟩] := by
    decide +kernel
  have hno : .no ∈ uses p.events := by decide +kernel
  have hno' : .no ∉ uses p'.events := by decide +kernel
  have hheard : p.heard <+: shorter.lines := by decide +kernel
  have hpick : ∀ picks n, 1 ≤ n → (Game.sample.pick picks n).1 < n :=
    fun picks n hn => Nat.mod_lt picks hn
  have hio : ∀ reason, p.result ≠ .error (.terminal reason) := by simp [hok]
  have hio' : ∀ reason, p'.result ≠ .error (.terminal reason) := by simp [hok']
  obtain ⟨_, _, _, _, _, _, hend, _, hbytes, hsent⟩ :=
    every_line_is_asked_for_once Game.ofTexts_sample hpick hio
  obtain ⟨_, _, _, _, _, _, hend', _⟩ :=
    every_line_is_asked_for_once Game.ofTexts_sample hpick hio'
  have hleft := hend.resolve_right fun hout => hout.no_not_mem hno
  have hdrained : RunsOut input' p' := by
    rcases hend' with ⟨hleft', _⟩ | hout
    · obtain ⟨earlier, hlast, _⟩ := hleft'.last_use
      refine absurd ?_ hno'
      rw [hlast]
      exact List.mem_append_right earlier (List.mem_singleton.2 rfl)
    · exact hout
  exact ⟨Game.ofTexts_sample, hok, hok', huses, huses', hleft.1, hdrained, hleft.2 shorter hheard,
    hbytes, hsent⟩

end Playthrough
end MakeTen
