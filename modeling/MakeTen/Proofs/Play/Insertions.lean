import MakeTen.Proofs.Play.Uses
/-!
# Lines that are refused

A line that is neither a solution where one is asked for nor an answer to a question has no
effect but that the prompt is repeated.  At a question the session stays as it is.  At a
solution prompt it remembers that one more text has been turned away, and from then on it is
one ahead of the session that has not heard the line: in the attempt that is open, and, once
a solution is taken, in the counter that the attempt is recorded in.  Nothing that a session
does depends on either of them, so that the two sessions do the same for all later lines.

Main results:

- Predicate `Prompt.Refuses`: a line that is no good at a prompt.
- Relation `Session.Ahead`: one text more has been turned away.
- Theorem `Session.Ahead.hear`: the two sessions do the same, and one stays ahead.
- Theorem `Session.hear_of_refuses`: what a line does that is refused.
- Theorem `Playthrough.refused_line_is_inert`: a line that is refused changes nothing else.
-/

namespace MakeTen

variable {π σ : Type}

/-- The line is no good at the prompt: no solution, or no answer. -/
def Prompt.Refuses : Prompt → String → Prop
  | .solution, line => Solution.ofText? (Blank.trimmed line) = none
  | .goOn _, line => answer? line = none

/-- The counters with some more texts turned away. -/
def Score.reprompted (s : Score) (n : Nat) : Score :=
  { s with reprompts := s.reprompts + n }

theorem Score.record_reprompted (s : Score) (outcome : Outcome) (n more : Nat) :
    (s.reprompted more).record outcome n = (s.record outcome n).reprompted more := by
  simp only [record, reprompted, Nat.add_right_comm]

/-- How many more texts count as turned away if one more is turned away at the prompt and
`late` is what happens then: those of an attempt count once a solution has been taken. -/
def Prompt.owed : Prompt → List Event → Nat
  | .solution, late => if late.filterMap Event.judgement? = [] then 0 else 1
  | .goOn _, _ => 0

theorem Phase.isOver_eq_false_of_prompt? {phase : Phase} {q : Prompt}
    (h : phase.prompt? = some q) : phase.isOver = false := by
  cases phase <;> simp_all [Phase.prompt?, Phase.isOver]

namespace Session

variable {g : Game π σ} {s s' : Session π σ} {line : String} {late more : List Event}

/-- The prompt at which a session waits once it has heard some lines. -/
def promptAfter? (g : Game π σ) (picker : π) (judge : σ) (lines : List String) : Option Prompt :=
  ((start g picker judge).2.hearAll g lines).2.phase.prompt?

/-! ## One text more in the counters -/

/-- The session with some more texts turned away in the attempts that are over. -/
def reprompted (s : Session π σ) (n : Nat) : Session π σ :=
  { s with score := s.score.reprompted n }

theorem beginRound_reprompted (g : Game π σ) (s : Session π σ) (n : Nat) :
    (s.reprompted n).beginRound g = ((s.beginRound g).1, (s.beginRound g).2.reprompted n) := by
  simp only [beginRound, reprompted, Score.reprompted]
  split <;> rfl

theorem nextPuzzle_reprompted (g : Game π σ) (s : Session π σ) (n : Nat) :
    (s.reprompted n).nextPuzzle g = ((s.nextPuzzle g).1, (s.nextPuzzle g).2.reprompted n) := by
  obtain ⟨⟨index, picker⟩, hpick⟩ : ∃ picked, g.pick s.picker g.corpus.size = picked := ⟨_, rfl⟩
  have hround := beginRound_reprompted g { s with picker, score := s.score.advance index } n
  simp only [reprompted, Score.reprompted, Score.advance] at hround
  simp only [nextPuzzle, reprompted, Score.reprompted, Score.advance, hpick, hround]

theorem conclude_reprompted (g : Game π σ) (s : Session π σ) (a : Attempt) (n : Nat) :
    (s.reprompted n).conclude g a = ((s.conclude g a).1, (s.conclude g a).2.reprompted n) := by
  simp only [conclude, reprompted]
  split
  · rfl
  · split
    · rfl
    · simp only [Score.record_reprompted]

/-- What a session does does not depend on how many texts have been turned away in the
attempts that are over. -/
theorem hear_reprompted (g : Game π σ) (s : Session π σ) (n : Nat) (line : String) :
    (s.reprompted n).hear g line = ((s.hear g line).1, (s.hear g line).2.reprompted n) := by
  have hphase : (s.reprompted n).phase = s.phase := rfl
  simp only [hear, hphase]
  split
  · simp only [hearSolution]
    split
    · rfl
    · rfl
    · simp only [conclude_reprompted]
  · simp only [hearAnswer]
    split
    · rfl
    · rfl
    · split
      · simp only [nextPuzzle_reprompted]
      · simp only [beginRound_reprompted]
  · rfl

theorem leave_reprompted (s : Session π σ) (n : Nat) :
    (s.reprompted n).leave = (s.leave.1, s.leave.2.reprompted n) := by
  have hphase : (s.reprompted n).phase = s.phase := rfl
  simp only [leave, hphase]
  split <;> rfl

/-! ## One text more in an attempt -/

/-- The second session has turned away one text more than the first, before `late` happened
in both: in the attempt that is open, or in one that is over by now. -/
inductive Ahead (late : List Event) (s : Session π σ) : Session π σ → Prop where
  | inAttempt {t : Template} {n : Nat} (hphase : s.phase = .solving ⟨t, .awaiting, n⟩)
      (hnone : late.filterMap Event.judgement? = []) :
      Ahead late s { s with phase := .solving ⟨t, .awaiting, n + 1⟩ }
  | recorded (hsome : late.filterMap Event.judgement? ≠ []) : Ahead late s (s.reprompted 1)

/-- Taking a line at an attempt does not depend on how many texts it has turned away. -/
theorem Heard.ahead {t : Template} {n : Nat} (h : Heard g s line more s')
    (hphase : s.phase = .solving ⟨t, .awaiting, n⟩) (hnone : late.filterMap Event.judgement? = []) :
    ∃ s'', Heard g { s with phase := .solving ⟨t, .awaiting, n + 1⟩ } line more s'' ∧
      Ahead (late ++ more) s' s'' := by
  have hsame : ∀ {t' : Template} {n' : Nat}, s.phase = .solving ⟨t', .awaiting, n'⟩ →
      t' = t ∧ n' = n := fun hphase' => by simpa [hphase, eq_comm] using hphase'
  have hsolving : ∀ {outcome : Outcome}, s.phase ≠ .asking outcome := by simp [hphase]
  cases h with
  | turnedAway hphase' ht hline =>
    obtain ⟨rfl, rfl⟩ := hsame hphase'
    refine ⟨_, .turnedAway rfl ht hline, .inAttempt rfl ?_⟩
    simp [hnone, Event.judgement?]
  | @taken t n solution report hphase' ht hline hreport =>
    obtain ⟨rfl, rfl⟩ := hsame hphase'
    subst hreport
    -- The reports differ in the number of texts alone, which is not shown.
    have htaken : Heard g { s with phase := .solving ⟨t, .awaiting, n + 1⟩ } line _ _ :=
      .taken rfl ht hline rfl
    refine ⟨_, htaken, .recorded ?_⟩
    simp [reportEvents, Event.judgement?]
  | unclear hphase' => exact absurd hphase' hsolving
  | no hphase' => exact absurd hphase' hsolving
  | again hphase' => exact absurd hphase' hsolving
  | next hphase' => exact absurd hphase' hsolving

/-- A session that has turned away one text more does the same with a line, and stays
ahead. -/
theorem Ahead.hear (hg : ∀ t ∈ g.corpus.templates, t.Playable) (hs : Steady g s)
    (h : Ahead late s s') (line : String) :
    (s'.hear g line).1 = (s.hear g line).1 ∧
      Ahead (late ++ (s.hear g line).1) (s.hear g line).2 (s'.hear g line).2 := by
  cases h with
  | recorded hsome =>
    rw [hear_reprompted]
    refine ⟨rfl, .recorded ?_⟩
    rw [List.filterMap_append]
    exact List.append_ne_nil_of_left_ne_nil hsome _
  | inAttempt hphase hnone =>
    rcases hs.hear_cases hg line with ⟨hover, _⟩ | ⟨_, hheard | hlost⟩
    · simp [hphase, Phase.isOver] at hover
    · obtain ⟨s'', hheard', hahead⟩ := hheard.ahead hphase hnone
      rw [hheard'.hear_eq hg]
      exact ⟨rfl, hahead⟩
    · have hasking : ∀ {events s''}, ¬ Lost g s line events s'' := by
        rintro _ _ ⟨hphase', _⟩
        simp [hphase] at hphase'
      exact absurd hlost hasking

/-- So it does with several lines. -/
theorem Ahead.hearAll (hg : ∀ t ∈ g.corpus.templates, t.Playable) (hs : Steady g s)
    (h : Ahead late s s') (lines : List String) :
    (s'.hearAll g lines).1 = (s.hearAll g lines).1 ∧
      Ahead (late ++ (s.hearAll g lines).1) (s.hearAll g lines).2 (s'.hearAll g lines).2 := by
  induction lines generalizing s s' late with
  | nil =>
    rw [Session.hearAll, Session.hearAll, List.append_nil]
    exact ⟨rfl, h⟩
  | cons line lines ih =>
    obtain ⟨hevents, hahead⟩ := h.hear hg hs line
    obtain ⟨hmore, hlast⟩ := ih (hs.hear hg line) hahead
    rw [List.append_assoc] at hlast
    simp only [Session.hearAll, hevents, hmore]
    exact ⟨trivial, hlast⟩

/-! ## A line that is refused -/

/-- A line that is refused is heard and the prompt is repeated.  At a question nothing else
changes; at a solution prompt one text more has been turned away. -/
theorem hear_of_refuses (hs : Steady g s) {q : Prompt} (hwaits : s.phase.prompt? = some q)
    (hline : q.Refuses line) :
    (s.hear g line).1 = [.heard line (q.use line), .shown (.prompt q)] ∧
      ((q ≠ .solution ∧ (s.hear g line).2 = s) ∨
        (q = .solution ∧ Ahead [] s (s.hear g line).2)) := by
  have hover := Phase.isOver_eq_false_of_prompt? hwaits
  rcases (hs hover).cases hover with ⟨t, n, hphase, _⟩ | ⟨outcome, hphase⟩
  · obtain rfl : Prompt.solution = q := by simpa [hphase, Phase.prompt?] using hwaits
    have hnone : Solution.ofText? (Blank.trimmed line) = none := hline
    simp only [hear, hphase, hearSolution, Attempt.submit, hnone, Prompt.use]
    exact ⟨trivial, .inr ⟨trivial, .inAttempt hphase rfl⟩⟩
  · obtain rfl : Prompt.goOn outcome = q := by simpa [hphase, Phase.prompt?] using hwaits
    have hnone : answer? line = none := hline
    simp only [hear, hphase, hearAnswer, hnone, Prompt.use]
    exact ⟨trivial, .inl ⟨by simp, trivial⟩⟩

end Session

/-! ## Playthroughs with one line more -/

namespace Playthrough

variable {g : Game π σ}

theorem result?_reprompted (s : Session π σ) (n : Nat) :
    result? (s.reprompted n) = (result? s).map (Except.map fun score => score.reprompted n) := by
  have hphase : (s.reprompted n).phase = s.phase := rfl
  simp only [result?, hphase]
  cases s.phase <;> rfl

/-- The playthrough with some more texts turned away. -/
def reprompted (p : Playthrough σ) (n : Nat) : Playthrough σ :=
  { p with result := p.result.map fun score => score.reprompted n }

@[simp]
theorem reprompted_zero (p : Playthrough σ) : p.reprompted 0 = p := by
  obtain ⟨events, output, judge, result⟩ := p
  cases result <;> rfl

/-- Going on is hearing all lines, and coming to the end after them. -/
theorem continueWith_eq_after (ending : Ending) (s : Session π σ) (colored : Bool)
    (lines : List String) :
    continueWith g ending s ⟨colored, none, none⟩ lines =
      after (s.hearAll g lines).1 ((s.hearAll g lines).1.flatMap (Event.output colored))
        (continueWith g ending (s.hearAll g lines).2 ⟨colored, none, none⟩ []) := by
  have happend := continueWith_append (g := g) ending s colored lines []
  rwa [List.append_nil] at happend

/-- Without lines, a session that has turned away one text more comes to the same end, up to
the counter. -/
theorem continueWith_nil_of_ahead {late : List Event} {s s' : Session π σ} (h : s.Ahead late s')
    (ending : Ending) (colored : Bool) :
    continueWith g ending s' ⟨colored, none, none⟩ [] =
      (continueWith g ending s ⟨colored, none, none⟩ []).reprompted
        (Prompt.owed .solution late) := by
  cases h with
  | recorded hsome =>
    simp only [continueWith, Prompt.owed, hsome, if_false, result?_reprompted]
    cases result? s with
    | some result => rfl
    | none =>
      cases ending with
      | broken reason => rfl
      | exhausted =>
        simp only [Option.map_none, Session.leave_reprompted, showThen_unlimited]
        rfl
  | inAttempt hphase hnone =>
    simp only [continueWith, Prompt.owed, hnone, if_true, result?, hphase, reprompted_zero]
    cases ending with
    | broken reason => rfl
    | exhausted =>
      simp only [Session.leave, hphase, Phase.isOver, showThen_unlimited]
      rfl

/-- Nothing is judged at the end of the lines. -/
theorem judgements_continueWith_nil (s : Session π σ) (ending : Ending) (colored : Bool) :
    (continueWith g ending s ⟨colored, none, none⟩ []).events.filterMap Event.judgement? = [] := by
  simp only [continueWith]
  cases result? s with
  | some result => rfl
  | none =>
    cases ending with
    | broken reason => rfl
    | exhausted =>
      simp only [showThen_unlimited, after, ofSession, List.append_nil, Session.leave]
      split <;> rfl

/-- After a line that is refused, a session goes on as it would have gone on without it, up
to the counter. -/
theorem continueWith_of_refuses (hg : ∀ t ∈ g.corpus.templates, t.Playable) {s : Session π σ}
    (hs : s.Steady g) {q : Prompt} (hwaits : s.phase.prompt? = some q) {line : String}
    (hline : q.Refuses line) (ending : Ending) (colored : Bool) (later : List String) :
    continueWith g ending (s.hear g line).2 ⟨colored, none, none⟩ later =
      (continueWith g ending s ⟨colored, none, none⟩ later).reprompted
        (q.owed (continueWith g ending s ⟨colored, none, none⟩ later).events) := by
  rcases (Session.hear_of_refuses hs hwaits hline).2 with ⟨hquestion, hsame⟩ | ⟨rfl, hahead⟩
  · have howed : ∀ late, q.owed late = 0 := by
      cases q with
      | solution => exact absurd rfl hquestion
      | goOn outcome => exact fun _ => rfl
    rw [hsame, howed, reprompted_zero]
  · obtain ⟨hevents, hlast⟩ := hahead.hearAll hg hs later
    rw [List.nil_append] at hlast
    -- Hear all the lines first: then the end is all that is left.
    have hsplit := fun s : Session π σ => continueWith_eq_after (g := g) ending s colored later
    have howed : Prompt.owed .solution (continueWith g ending s ⟨colored, none, none⟩ later).events =
        Prompt.owed .solution (s.hearAll g later).1 := by
      simp only [hsplit, after, Prompt.owed, List.filterMap_append, judgements_continueWith_nil,
        List.append_nil]
    rw [howed, hsplit, hsplit s, hevents, continueWith_nil_of_ahead hlast]
    rfl

/-- A session that hears a line that is refused repeats the prompt, and goes on as it would
have gone on without the line. -/
theorem continueWith_cons_of_refuses (hg : ∀ t ∈ g.corpus.templates, t.Playable)
    {s : Session π σ} (hs : s.Steady g) {q : Prompt} (hwaits : s.phase.prompt? = some q)
    {line : String} (hline : q.Refuses line) (ending : Ending) (colored : Bool)
    (later : List String) :
    let idle : List Event := [.heard line (q.use line), .shown (.prompt q)]
    let rest := continueWith g ending s ⟨colored, none, none⟩ later
    continueWith g ending s ⟨colored, none, none⟩ (line :: later) =
      after idle (idle.flatMap (Event.output colored)) (rest.reprompted (q.owed rest.events)) := by
  simp only [continueWith, result?_eq_none (Phase.isOver_eq_false_of_prompt? hwaits),
    showThen_unlimited, (Session.hear_of_refuses hs hwaits hline).1,
    continueWith_of_refuses hg hs hwaits hline]

/-- The second playthrough is the first one with a line more, which is refused at the prompt
after `before`: the line is heard and the prompt is repeated, and everything else is the same
but for the counter of the texts that were turned away. -/
structure RefusesOneMore (colored : Bool) (before : List String) (q : Prompt) (line : String)
    (p p' : Playthrough (σ × List (List UInt8 × Verdict))) (early late : List Event) : Prop where
  heard_early : (exchanges none early).map Exchange.line = before
  prompt_early : lastPrompt none early = some q
  events_eq : p.events = early ++ late
  /-- With the line the prompt is repeated in between. -/
  events_eq' : p'.events = early ++ [.heard line (q.use line), .shown (.prompt q)] ++ late
  output_eq : p.output =
    early.flatMap (Event.output colored) ++ late.flatMap (Event.output colored)
  /-- With the line there is one more copy of the prompt in between. -/
  output_eq' : p'.output = early.flatMap (Event.output colored) ++
    (Event.shown (.prompt q)).output colored ++ late.flatMap (Event.output colored)
  judge_eq : p'.judge = p.judge
  /-- The result is the same, except that one text more may count as turned away. -/
  result_eq : p'.result = p.result.map fun score => score.reprompted (q.owed late)

/-! ## Main theorem -/

variable {texts : List String} {input input' : Input} {before later : List String} {line : String}
  {q : Prompt}

/-- A line that is refused is inert.

For every corpus that was read, whatever the picker, the judge and the input: let a session
wait at a prompt once it has heard some of its lines, and put one more line there that is no
good at this prompt, whatever bytes it comes from.  Then the session hears the line and
repeats the prompt, and goes on as it would have gone on without the line: it shows the same
puzzles and has the same code judged to the same verdicts, it leaves the judge in the same
state, and it comes to the same result.

Only the counter of the texts that were turned away goes up by one, if it is a solution that
was asked for and one is taken later on. -/
theorem refused_line_is_inert (hcorpus : Corpus.ofTexts texts = .ok g.corpus) {picker : π}
    {judge : σ} (hending : input'.ending = input.ending) (hlines : input.lines = before ++ later)
    (hlines' : input'.lines = before ++ line :: later)
    (hwaits : Session.promptAfter? g.recorded picker (judge, []) before = some q)
    (hline : q.Refuses line) (colored : Bool) :
    ∃ early late, RefusesOneMore colored before q line
      (run g.recorded picker (judge, []) input ⟨colored, none, none⟩)
      (run g.recorded picker (judge, []) input' ⟨colored, none, none⟩) early late := by
  have hg : ∀ t ∈ g.recorded.corpus.templates, t.Playable := Corpus.playable_of_ofTexts hcorpus
  let opening := Session.start g.recorded picker (judge, [])
  let heard := opening.2.hearAll g.recorded before
  let early := opening.1 ++ heard.1
  let idle : List Event := [.heard line (q.use line), .shown (.prompt q)]
  let rest := continueWith g.recorded input.ending heard.2 ⟨colored, none, none⟩ later
  have hsteady : heard.2.Steady g.recorded :=
    (Session.steady_start g.recorded picker (judge, [])).hearAll hg before
  have hover : heard.2.phase.isOver = false := Phase.isOver_eq_false_of_prompt? hwaits
  have hplayed := Session.played_of_hearAll hg hover
  have hwhole : run g.recorded picker (judge, []) input ⟨colored, none, none⟩ =
      after early (early.flatMap (Event.output colored)) rest :=
    run_eq_after picker (judge, []) colored hlines
  have hlonger : run g.recorded picker (judge, []) input' ⟨colored, none, none⟩ =
      after early (early.flatMap (Event.output colored))
        (after idle (idle.flatMap (Event.output colored))
          (rest.reprompted (q.owed rest.events))) := by
    rw [run_eq_after picker (judge, []) colored hlines', hending]
    exact congrArg (after early (early.flatMap (Event.output colored)))
      (continueWith_cons_of_refuses hg hsteady hwaits hline input.ending colored later)
  have hevents : (run g.recorded picker (judge, []) input ⟨colored, none, none⟩).events =
      early ++ rest.events := by
    rw [hwhole]
    rfl
  have hevents' : (run g.recorded picker (judge, []) input' ⟨colored, none, none⟩).events =
      early ++ idle ++ rest.events := by
    rw [hlonger, List.append_assoc]
    rfl
  refine ⟨early, rest.events, hplayed.lines_eq, ?_, hevents, hevents', ?_, ?_, ?_, ?_⟩
  · exact (hplayed.lastPrompt_eq hover).trans hwaits
  · rw [output_run, hevents, List.flatMap_append]
  · have hidle : idle.flatMap (Event.output colored) = (Event.shown (.prompt q)).output colored :=
      List.append_nil _
    rw [output_run, hevents', List.flatMap_append, List.flatMap_append, hidle]
  · rw [hwhole, hlonger]
    rfl
  · rw [hwhole, hlonger]
    rfl

/-- A byte that begins no character at the second solution prompt, which counts as turned
away before the right solution is taken; and a line that is no answer at the question after
the wrong one, which is not counted. -/
theorem refused_line_is_inert_of_two_lines :
    let play := fun input => run Game.sample.recorded 0 ([.ok false, .ok true], []) input
      ⟨false, none, none⟩
    let input : Input := ⟨Utf8.encodeString "040404\n\n010203\nn\n", .exhausted⟩
    let garbled : Input := ⟨Utf8.encodeString "040404\n\n" ++ [0xFF] ++
      Utf8.encodeString "\n010203\nn\n", .exhausted⟩
    let unclear : Input := ⟨Utf8.encodeString "040404\nwhat\n\n010203\nn\n", .exhausted⟩
    Corpus.ofTexts ["0xXXXXXX"] = .ok Game.sample.corpus ∧
      (play input).result = .ok ⟨1, 0, 2, 2, 1, 0⟩ ∧
      (play garbled).result = .ok ⟨1, 0, 2, 2, 1, 1⟩ ∧
      (play unclear).result = .ok ⟨1, 0, 2, 2, 1, 0⟩ ∧
      (∃ early late, RefusesOneMore false ["040404", ""] .solution
        (String.ofList [Utf8.replacement]) (play input) (play garbled) early late) ∧
      ∃ early late, RefusesOneMore false ["040404"] (.goOn .rejected) "what" (play input)
        (play unclear) early late := by
  intro play input garbled unclear
  have hlines : input.lines = ["040404"] ++ ["", "010203", "n"] := by decide +kernel
  have hlines' : input.lines = ["040404", ""] ++ ["010203", "n"] := hlines
  have hgarbled : garbled.lines =
      ["040404", ""] ++ String.ofList [Utf8.replacement] :: ["010203", "n"] := by decide +kernel
  have hunclear : unclear.lines = ["040404"] ++ "what" :: ["", "010203", "n"] := by decide +kernel
  have hending : garbled.ending = input.ending := rfl
  have hending' : unclear.ending = input.ending := rfl
  have hwaits : Session.promptAfter? Game.sample.recorded 0 ([.ok false, .ok true], [])
      ["040404", ""] = some .solution := by decide +kernel
  have hwaits' : Session.promptAfter? Game.sample.recorded 0 ([.ok false, .ok true], [])
      ["040404"] = some (.goOn .rejected) := by decide +kernel
  have hsolution : Prompt.Refuses .solution (String.ofList [Utf8.replacement]) :=
    show Solution.ofText? _ = none by decide +kernel
  have hanswer : Prompt.Refuses (.goOn .rejected) "what" :=
    show answer? _ = none by decide +kernel
  exact ⟨Game.ofTexts_sample, by decide +kernel, by decide +kernel, by decide +kernel,
    refused_line_is_inert Game.ofTexts_sample hending hlines' hgarbled hwaits hsolution false,
    refused_line_is_inert Game.ofTexts_sample hending' hlines hunclear hwaits' hanswer false⟩

end Playthrough
end MakeTen
