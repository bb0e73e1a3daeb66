import MakeTen.Proofs.Play.Rooms
/-!
# Interruptions

A terminal that has no room any more and a stream of input that breaks cut a
playthrough short, and they alter nothing that happened before.

With a stream that breaks, a playthrough goes along with the one that has the whole
stream until a line is asked for that has not come to its end.  Each line that is heard
answers a prompt, so this is the prompt after as many lines as there are line feeds.

Main results:

- Theorem `Input.prefix_lines_broken`: the lines of a stream that breaks.
- Function `Session.hearAll`: hearing some lines.
- Structure `Session.Asked`: how prompts and lines go together.
- Structure `Playthrough.BrokenOff`: a playthrough broken off after so many lines.
- Theorem `Playthrough.brokenOff_run`: a stream that breaks breaks a playthrough off,
  and does nothing else.
- Theorem `Playthrough.interruption_cuts_short`: the same of both interruptions.
-/

namespace MakeTen

variable {π σ : Type}

/-! ## Streams that break off -/

namespace Input

/-- The lines that a part of a stream ends are the first ones of the stream. -/
theorem segments_append (bytes more : List UInt8) :
    (segments bytes).1 <+: (segments (bytes ++ more)).1 := by
  induction bytes with
  | nil => exact List.nil_prefix
  | cons b bytes ih =>
    obtain ⟨later, hlater⟩ := ih
    simp only [List.cons_append, segments]
    split
    · exact ⟨later, by rw [List.cons_append, hlater]⟩
    · rw [← hlater]
      cases (segments bytes).1 with
      | nil => exact List.nil_prefix
      | cons segment others => exact ⟨later, rfl⟩

/-- A line ends with each line feed. -/
theorem length_segments (bytes : List UInt8) :
    (segments bytes).1.length = bytes.count lineFeed := by
  induction bytes with
  | nil => rfl
  | cons b bytes ih =>
    simp only [segments]
    split
    · rename_i hb
      rw [hb, List.count_cons_self, List.length_cons, ih]
    · rename_i hb
      rw [List.count_cons_of_ne hb, ← ih]
      cases (segments bytes).1 <;> rfl

/-- A stream that breaks has the lines that have ended. -/
theorem lines_broken (bytes : List UInt8) (reason : String) :
    lines ⟨bytes, .broken reason⟩ = (segments bytes).1.map lineText := by
  simp [lines]

/-- If a stream breaks after some of its bytes, the lines that have ended are the
first ones of the whole stream. -/
theorem prefix_lines_broken {input : Input} {bytes : List UInt8} (h : bytes <+: input.bytes)
    (reason : String) : lines ⟨bytes, .broken reason⟩ <+: input.lines := by
  obtain ⟨more, hmore⟩ := h
  have hended := (segments_append bytes more).map lineText
  rw [hmore] at hended
  rw [lines_broken]
  exact hended.trans (List.prefix_append _ _)

end Input

/-! ## Sessions that hear some lines -/

/-- Whether an event is that something is asked. -/
def Event.isPrompt : Event → Bool
  | .shown (.prompt _) => true
  | _ => false

namespace Session

variable {g : Game π σ} {s s' : Session π σ} {line : String} {events more : List Event} {n : Nat}

/-- Hear some lines, one after the other. -/
def hearAll (g : Game π σ) (s : Session π σ) : List String → List Event × Session π σ
  | [] => ([], s)
  | line :: lines =>
    let (events, s) := s.hear g line
    let (more, s) := hearAll g s lines
    (events ++ more, s)

theorem hearAll_of_isOver (g : Game π σ) (h : s.phase.isOver = true) (lines : List String) :
    s.hearAll g lines = ([], s) := by
  induction lines with
  | nil => rfl
  | cons line lines ih => simp only [hearAll, hear_of_isOver g h, ih, List.append_nil]

/-- The session has heard `n` lines, and each of them answered a prompt: if it waits
for something, there is one prompt more, and that is the last event. -/
structure Asked (events : List Event) (s : Session π σ) (n : Nat) : Prop where
  /-- A session that waits has shown a prompt last, the first one without an answer. -/
  waits : s.phase.isOver = false → events.countP Event.isHeard = n ∧
    events.countP Event.isPrompt = n + 1 ∧ ∃ p, events.getLast? = some (.shown (.prompt p))
  /-- A session that is over has shown no prompt without an answer. -/
  over_le : s.phase.isOver = true → events.countP Event.isPrompt ≤ n

/-- After a line there is one prompt, the last thing shown, unless the session is
over. -/
theorem Heard.asks (h : Heard g s line more s') :
    (s'.phase.isOver = false ∧ more.countP Event.isPrompt = 1 ∧
        ∃ p, more.getLast? = some (.shown (.prompt p))) ∨
      (s'.phase.isOver = true ∧ more.countP Event.isPrompt = 0) := by
  cases h with
  | turnedAway => exact .inl ⟨rfl, rfl, _, rfl⟩
  | taken => exact .inl ⟨rfl, rfl, _, rfl⟩
  | unclear hphase =>
    rw [hphase]
    exact .inl ⟨rfl, rfl, _, rfl⟩
  | no => exact .inr ⟨rfl, rfl⟩
  | again => exact .inl ⟨rfl, rfl, _, rfl⟩
  | next => exact .inl ⟨rfl, rfl, _, rfl⟩

theorem Lost.asks (h : Lost g s line more s') :
    s'.phase.isOver = true ∧ more.countP Event.isPrompt = 0 := by
  cases h with
  | next => exact ⟨rfl, rfl⟩

/-- Before the first line one prompt has been shown, unless the first puzzle is not in
the corpus. -/
theorem asked_start (g : Game π σ) (picker : π) (judge : σ) :
    Asked (start g picker judge).1 (start g picker judge).2 0 := by
  rcases start_cases g picker judge with ⟨index, next, t, _, hstart⟩ | ⟨index, next, hstart⟩
  · rw [hstart]
    exact ⟨fun _ => ⟨rfl, rfl, _, rfl⟩, fun h => by simp [Phase.isOver] at h⟩
  · rw [hstart]
    exact ⟨fun h => by simp [Phase.isOver] at h, fun _ => Nat.le_refl 0⟩

/-- A line answers the prompt that was waiting. -/
theorem Asked.hear (hg : ∀ t ∈ g.corpus.templates, t.Playable) (hs : Steady g s)
    (h : Asked events s n) (line : String) :
    Asked (events ++ (s.hear g line).1) (s.hear g line).2 (n + 1) := by
  -- If the session is over then, all prompts have been answered.
  have hended : s.phase.isOver = false → (s.hear g line).2.phase.isOver = true →
      (s.hear g line).1.countP Event.isPrompt = 0 →
      Asked (events ++ (s.hear g line).1) (s.hear g line).2 (n + 1) := by
    intro hover hend hnone
    refine ⟨fun hwaits => by simp [hend] at hwaits, fun _ => ?_⟩
    rw [List.countP_append, (h.waits hover).2.1, hnone]
  rcases hs.hear_cases hg line with ⟨hover, hstays⟩ | ⟨hover, hheard | hlost⟩
  · rw [hstays, List.append_nil]
    refine ⟨fun hwaits => by simp [hover] at hwaits, fun _ => ?_⟩
    exact Nat.le_succ_of_le (h.over_le hover)
  · obtain ⟨hlines, hprompts, _⟩ := h.waits hover
    rcases hheard.asks with ⟨hwaits, hone, p, hlast⟩ | ⟨hend, hnone⟩
    · refine ⟨fun _ => ⟨?_, ?_, p, ?_⟩, fun hend => by simp [hwaits] at hend⟩
      · rw [List.countP_append, hlines, hheard.countP_isHeard]
      · rw [List.countP_append, hprompts, hone]
      · rw [List.getLast?_append, hlast, Option.some_or]
    · exact hended hover hend hnone
  · exact hended hover hlost.asks.1 hlost.asks.2

/-- So do several lines, one after the other. -/
theorem Asked.hearAll (hg : ∀ t ∈ g.corpus.templates, t.Playable) (hs : Steady g s)
    (h : Asked events s n) (lines : List String) :
    Asked (events ++ (s.hearAll g lines).1) (s.hearAll g lines).2 (n + lines.length) := by
  induction lines generalizing s events n with
  | nil =>
    rw [Session.hearAll, List.append_nil]
    exact h
  | cons line lines ih =>
    have hnext := ih (hs.hear hg line) (h.hear hg hs line)
    rw [List.append_assoc, Nat.add_assoc, Nat.add_comm 1] at hnext
    exact hnext

theorem Steady.hearAll (hg : ∀ t ∈ g.corpus.templates, t.Playable) (hs : Steady g s)
    (lines : List String) : Steady g (s.hearAll g lines).2 := by
  induction lines generalizing s with
  | nil => exact hs
  | cons line lines ih => exact ih (hs.hear hg line)

end Session

/-! ## Playthroughs of streams that break off -/

namespace Playthrough

variable {g : Game π σ}

theorem exists_result_of_isOver {s : Session π σ} (h : s.phase.isOver = true) :
    ∃ result, result? s = some result := by
  cases hphase : s.phase with
  | closed => exact ⟨.ok s.score, by simp only [result?, hphase]⟩
  | failed fault => exact ⟨.error fault, by simp only [result?, hphase]⟩
  | _ =>
    rw [hphase] at h
    simp [Phase.isOver] at h

/-- Going on with a session that is over is the same for all lines and terminals. -/
theorem continueWith_of_isOver {s : Session π σ} (h : s.phase.isOver = true) :
    ∃ result, ∀ ending t lines, continueWith g ending s t lines = ofSession s result := by
  obtain ⟨result, hresult⟩ := exists_result_of_isOver h
  refine ⟨result, fun ending t lines => ?_⟩
  cases lines <;> simp only [continueWith, hresult]

/-- Without a limit on the terminal, going on with some lines is hearing them first and
going on with those that are left. -/
theorem continueWith_append (ending : Ending) (s : Session π σ) (colored : Bool)
    (lines more : List String) :
    continueWith g ending s ⟨colored, none, none⟩ (lines ++ more) =
      after (s.hearAll g lines).1 ((s.hearAll g lines).1.flatMap (Event.output colored))
        (continueWith g ending (s.hearAll g lines).2 ⟨colored, none, none⟩ more) := by
  induction lines generalizing s with
  | nil => rfl
  | cons line lines ih =>
    cases hover : s.phase.isOver with
    | true =>
      obtain ⟨result, hresult⟩ := continueWith_of_isOver (g := g) hover
      rw [Session.hearAll_of_isOver g hover, hresult, hresult]
      rfl
    | false =>
      simp only [List.cons_append, continueWith, result?_eq_none hover, showThen_unlimited, ih,
        Session.hearAll]
      simp only [after, List.flatMap_append, List.append_assoc]

/-- So is playing from the beginning. -/
theorem run_eq_after (picker : π) (judge : σ) (colored : Bool) {input : Input}
    {lines more : List String} (hlines : input.lines = lines ++ more) :
    let opening := Session.start g picker judge
    let heard := opening.2.hearAll g lines
    run g picker judge input ⟨colored, none, none⟩ =
      after (opening.1 ++ heard.1) ((opening.1 ++ heard.1).flatMap (Event.output colored))
        (continueWith g input.ending heard.2 ⟨colored, none, none⟩ more) := by
  intro opening heard
  have hrun : run g picker judge input ⟨colored, none, none⟩ =
      showThen ⟨colored, none, none⟩ opening.1 opening.2 fun t =>
        continueWith g input.ending opening.2 t input.lines := rfl
  rw [hrun, showThen_unlimited, hlines, continueWith_append, List.flatMap_append]
  simp only [after, List.append_assoc, heard]

/-- A terminal without limits is sent all that is shown. -/
theorem output_run (picker : π) (judge : σ) (colored : Bool) (input : Input) :
    let p := run g picker judge input ⟨colored, none, none⟩
    p.output = p.events.flatMap (Event.output colored) := by
  intro p
  have hlast : ∀ s : Session π σ,
      (continueWith g input.ending s ⟨colored, none, none⟩ []).output =
        (continueWith g input.ending s ⟨colored, none, none⟩ []).events.flatMap
          (Event.output colored) := by
    intro s
    simp only [continueWith]
    cases result? s with
    | some result => rfl
    | none =>
      cases input.ending with
      | broken reason => rfl
      | exhausted => simp only [showThen_unlimited, after, ofSession, List.append_nil]
  have hrun := run_eq_after (g := g) picker judge colored (List.append_nil input.lines).symm
  simp only [p, hrun, after, List.flatMap_append, hlast]

/-- The one playthrough is the other one, broken off when it waits for the line after
the first `lines`: it ends with the prompt for that line, has shown what was shown, and
has had judged what was judged until then. -/
structure BrokenOff (colored : Bool) (lines : Nat) (reason : String)
    (whole part : Playthrough (σ × List (List UInt8 × Verdict))) : Prop where
  result_eq : part.result = .error (.terminal reason)
  heard_eq : part.events.countP Event.isHeard = lines
  /-- There is one prompt more than lines. -/
  prompts_eq : part.events.countP Event.isPrompt = lines + 1
  last_prompt : ∃ p, part.events.getLast? = some (.shown (.prompt p))
  events_first : part.events <+: whole.events
  output_eq : part.output = part.events.flatMap (Event.output colored)
  runs_first : part.judge.2 <+: whole.judge.2

/-- Once the lines of the broken stream have been heard, the playthrough has ended or
breaks off. -/
theorem brokenOff_of_asked (hg : ∀ t ∈ g.corpus.templates, t.Playable)
    {s : Session π (σ × List (List UInt8 × Verdict))} (hs : s.Steady g.recorded)
    {events : List Event} {n : Nat} (hasked : s.Asked events n) (ending : Ending)
    (more : List String) (colored : Bool) (reason : String) :
    let sent := events.flatMap (Event.output colored)
    let whole := after events sent (continueWith g.recorded ending s ⟨colored, none, none⟩ more)
    let part := after events sent
      (continueWith g.recorded (.broken reason) s ⟨colored, none, none⟩ [])
    (whole.events.countP Event.isPrompt ≤ n → part = whole) ∧
      (n < whole.events.countP Event.isPrompt → BrokenOff colored n reason whole part) := by
  intro sent whole part
  cases hover : s.phase.isOver with
  | true =>
    -- Nothing more is read: both playthroughs have ended.
    obtain ⟨result, hresult⟩ := continueWith_of_isOver (g := g.recorded) hover
    have hsame : part = whole := by simp only [part, whole, hresult]
    have hprompts : whole.events.countP Event.isPrompt ≤ n := by
      simpa [whole, hresult, after, ofSession] using hasked.over_le hover
    exact ⟨fun _ => hsame, fun h => absurd h (Nat.not_lt_of_le hprompts)⟩
  | false =>
    obtain ⟨hheard, hprompts, hlast⟩ := hasked.waits hover
    have hpart : part = ⟨events, sent, s.judge, .error (.terminal reason)⟩ := by
      simp only [part, continueWith, result?_eq_none hover, after, ofSession, List.append_nil]
    have hmore : events.countP Event.isPrompt ≤ whole.events.countP Event.isPrompt := by
      simp only [whole, after, List.countP_append]
      exact Nat.le_add_right _ _
    obtain ⟨runs, hjudge, _⟩ := onRecord_continueWith hg ending hs ⟨colored, none, none⟩ more
    rw [hpart]
    refine ⟨fun h => by omega, fun _ => ⟨rfl, hheard, hprompts, hlast, ?_, rfl, ?_⟩⟩
    · exact List.prefix_append _ _
    · exact ⟨runs, hjudge.symm⟩

/-- A stream that breaks breaks a playthrough off at the first prompt for which it has
no line, and does nothing else. -/
theorem brokenOff_run (hg : ∀ t ∈ g.corpus.templates, t.Playable) (picker : π) (judge : σ)
    (colored : Bool) {input : Input} {bytes : List UInt8} (hbytes : bytes <+: input.bytes)
    (reason : String) :
    let whole := run g.recorded picker (judge, []) input ⟨colored, none, none⟩
    let part := run g.recorded picker (judge, []) ⟨bytes, .broken reason⟩ ⟨colored, none, none⟩
    (whole.events.countP Event.isPrompt ≤ bytes.count Input.lineFeed → part = whole) ∧
      (bytes.count Input.lineFeed < whole.events.countP Event.isPrompt →
        BrokenOff colored (bytes.count Input.lineFeed) reason whole part) := by
  intro whole part
  obtain ⟨more, hmore⟩ := Input.prefix_lines_broken hbytes reason
  have hcount : (Input.lines ⟨bytes, .broken reason⟩).length = bytes.count Input.lineFeed := by
    rw [Input.lines_broken, List.length_map, Input.length_segments]
  have hsteady := Session.steady_start g.recorded picker (judge, [])
  have hasked := (Session.asked_start g.recorded picker (judge, [])).hearAll (g := g.recorded) hg
    hsteady (Input.lines ⟨bytes, .broken reason⟩)
  rw [Nat.zero_add, hcount] at hasked
  have hwhole := run_eq_after (g := g.recorded) picker (judge, []) colored hmore.symm
  have hpart := run_eq_after (g := g.recorded) picker (judge, []) colored
    (List.append_nil (Input.lines ⟨bytes, .broken reason⟩)).symm
  simp only [whole, part, hwhole, hpart]
  exact brokenOff_of_asked hg (hsteady.hearAll (g := g.recorded) hg _) hasked input.ending more
    colored reason

/-! ## Main theorem -/

/-- An interruption only cuts a session short.

For every corpus that was read, whatever the picker, the judge and the input, compare
the playthrough on a terminal without limits with one that is interrupted.

On a terminal with room for `n` bytes: if they are not enough, the session breaks off
with the fault of the terminal, the first `n` bytes have been sent, and the code that
was judged is the code that was judged before the event in which the next byte is due;
if they are enough, nothing is different.

With a stream that delivers some of the first bytes and then breaks: if the session
asks for a line after those that have ended, it breaks off with the fault of the stream
at that prompt, and what has been shown and judged is what had been shown and judged
when the other session came to that prompt; if it asks for no such line, nothing is
different. -/
theorem interruption_cuts_short {texts : List String}
    (hcorpus : Corpus.ofTexts texts = .ok g.corpus) (picker : π) (judge : σ) (input : Input)
    (colored : Bool) (reason : String) :
    let whole := run g.recorded picker (judge, []) input ⟨colored, none, none⟩
    whole.output = whole.events.flatMap (Event.output colored) ∧
      (∀ n,
        let part := run g.recorded picker (judge, []) input ⟨colored, some ⟨n, reason⟩, none⟩
        part.events.filterMap Event.judgement? = judgements part.judge.2 ∧
          (n < whole.output.length → CutShort colored n reason whole part) ∧
          (whole.output.length ≤ n → part = whole)) ∧
      ∀ bytes, bytes <+: input.bytes →
        let part := run g.recorded picker (judge, []) ⟨bytes, .broken reason⟩
          ⟨colored, none, none⟩
        let lines := bytes.count Input.lineFeed
        part.events.filterMap Event.judgement? = judgements part.judge.2 ∧
          (lines < whole.events.countP Event.isPrompt →
            BrokenOff colored lines reason whole part) ∧
          (whole.events.countP Event.isPrompt ≤ lines → part = whole) := by
  have hg := Corpus.playable_of_ofTexts hcorpus
  intro whole
  refine ⟨output_run picker (judge, []) colored input, ?_, ?_⟩
  · intro n
    have hrecord := onRecord_run hg picker judge input ⟨colored, some ⟨n, reason⟩, none⟩
    have hroom : Bounded colored n reason _ _ := bounded_run hg picker judge input
    exact ⟨hrecord, hroom.2, hroom.1⟩
  · intro bytes hbytes
    have hrecord := onRecord_run hg picker judge ⟨bytes, .broken reason⟩ ⟨colored, none, none⟩
    obtain ⟨hsame, hbroken⟩ := brokenOff_run hg picker judge colored hbytes reason
    exact ⟨hrecord, hbroken, hsame⟩

/-- A wrong solution, a second attempt, a right solution and a no: once the terminal has
room up to the report on the first run and no more, and once the stream breaks after
the first line. -/
theorem interruption_cuts_short_of_two_runs :
    let play := run Game.sample.recorded 0 ([.ok false, .ok true], [])
    let input : Input := ⟨Utf8.encodeString "040404\n\n010203\nn\n", .exhausted⟩
    let whole := play input ⟨false, none, none⟩
    let sent := (whole.events.take 8).flatMap (Event.output false)
    let full := play input ⟨false, some ⟨sent.length, "gone"⟩, none⟩
    let broken := play ⟨Utf8.encodeString "040404\n", .broken "gone"⟩ ⟨false, none, none⟩
    Corpus.ofTexts ["0xXXXXXX"] = .ok Game.sample.corpus ∧
      whole.result = .ok ⟨1, 0, 2, 2, 1, 0⟩ ∧
      full.result = .error (.terminal "gone") ∧ full.output = sent ∧
      full.judge.2 <+: [([4, 4, 4], .ok false), ([1, 2, 3], .ok true)] ∧
      broken.result = .error (.terminal "gone") ∧ broken.events <+: whole.events ∧
      broken.events.getLast? = some (.shown (.prompt (.goOn .rejected))) ∧
      broken.judge.2 = [([4, 4, 4], .ok false)] := by
  intro play input whole sent full broken
  obtain ⟨houtput, hroom, hstream⟩ := interruption_cuts_short Game.ofTexts_sample 0
    [.ok false, .ok true] input false "gone"
  have hwhole : run Game.sample.recorded 0 ([.ok false, .ok true], []) input
      ⟨false, none, none⟩ = whole := rfl
  have hfull : run Game.sample.recorded 0 ([.ok false, .ok true], []) input
      ⟨false, some ⟨sent.length, "gone"⟩, none⟩ = full := rfl
  have hbroken : run Game.sample.recorded 0 ([.ok false, .ok true], [])
      ⟨Utf8.encodeString "040404\n", .broken "gone"⟩ ⟨false, none, none⟩ = broken := rfl
  have hresult : whole.result = .ok ⟨1, 0, 2, 2, 1, 0⟩ := by decide +kernel
  have hruns : whole.judge.2 = [([4, 4, 4], .ok false), ([1, 2, 3], .ok true)] := by
    decide +kernel
  have hnext : whole.events[8]? = some (.shown .blankLine) := by decide +kernel
  have hasks : (Utf8.encodeString "040404\n").count Input.lineFeed <
      whole.events.countP Event.isPrompt := by
    decide +kernel
  have hlast : broken.events.getLast? = some (.shown (.prompt (.goOn .rejected))) := by
    decide +kernel
  have hfirst : broken.judge.2 = [([4, 4, 4], .ok false)] := by decide +kernel
  have hline : Utf8.encodeString "040404\n" <+: input.bytes := by decide +kernel
  obtain ⟨_, hcut, _⟩ := hroom sent.length
  obtain ⟨_, hoff, _⟩ := hstream _ hline
  rw [hwhole] at houtput hcut hoff
  rw [hfull] at hcut
  rw [hbroken] at hoff
  clear_value whole full broken
  obtain ⟨h8, hevent⟩ := List.getElem?_eq_some_iff.1 hnext
  have hbytes : whole.output = sent ++ (whole.events.drop 8).flatMap (Event.output false) := by
    rw [houtput, ← List.flatMap_append, List.take_append_drop]
  have hblank : (Event.output false (.shown .blankLine)).length = 1 := by decide +kernel
  have hdue : sent.length < whole.output.length := by
    rw [hbytes, List.drop_eq_getElem_cons h8, hevent, List.flatMap_cons, List.length_append,
      List.length_append, hblank]
    omega
  refine ⟨Game.ofTexts_sample, hresult, (hcut hdue).result_eq, ?_, ?_, (hoff hasks).result_eq,
    (hoff hasks).events_first, hlast, hfirst⟩
  · rw [(hcut hdue).output_eq, hbytes, List.take_left]
  · rw [← hruns]
    exact (hcut hdue).runs_first

end Playthrough
end MakeTen
