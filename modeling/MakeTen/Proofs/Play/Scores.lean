import MakeTen.Proofs.Play.Exchanges
/-!
# The counters of a session and its record

The counters that a playthrough ends with are held against its record: the code
that the judge was asked for, the puzzles that were picked, and the lines that
were heard with the prompts that they answered.

All counters agree with the record but one.  The count of rejected lines is kept
by the attempt and handed over when the attempt is judged, so that it misses the
rejected lines of an attempt during which the input ran out.

Main results:

- Theorem `Session.Played.countP_isRejected`: which rejected lines are counted.
- Theorem `Session.Played.runs_eq`: what the counters say of the judge's runs.
- Theorem `Session.Played.picks_eq`: what they say of the picks.
- Theorem `Session.Played.open_or_solved`: how many puzzles have been solved.
- Theorem `Playthrough.reprompts_omits_last_rejected`: the count of rejected
  lines, for whole playthroughs.
- Theorem `Playthrough.score_agrees_with_record`: the other counters, for whole
  playthroughs.
-/

namespace MakeTen

variable {π σ : Type}

/-! ## Rejected lines -/

/-- How many lines the attempt that a session waits for has turned away. -/
def Phase.turnedAway : Phase → Nat
  | .solving a => a.invalidInputs
  | _ => 0

/-- How many exchanges at the end are rejected solutions, one after the other. -/
def rejectedLast (xs : List Exchange) : Nat :=
  (xs.reverse.takeWhile Exchange.isRejected).length

theorem rejectedLast_concat_of_isRejected (xs : List Exchange) {x : Exchange}
    (h : x.isRejected = true) : rejectedLast (xs ++ [x]) = rejectedLast xs + 1 := by
  simp [rejectedLast, h]

theorem rejectedLast_concat_of_not_isRejected (xs : List Exchange) {x : Exchange}
    (h : x.isRejected = false) : rejectedLast (xs ++ [x]) = 0 := by
  simp [rejectedLast, h]

/-- There are none exactly if the last exchange is no rejected solution. -/
theorem rejectedLast_eq_zero_iff {xs : List Exchange} :
    rejectedLast xs = 0 ↔ ∀ x ∈ xs.getLast?, x.isRejected = false := by
  induction xs using List.reverseRecOn with
  | nil => simp [rejectedLast]
  | append_singleton xs x ih =>
    cases hx : x.isRejected with
    | true => simp [rejectedLast_concat_of_isRejected xs hx, hx]
    | false => simp [rejectedLast_concat_of_not_isRejected xs hx, hx]

/-! ## What the events tell -/

/-- The outcome to which a verdict leads. -/
def Verdict.outcome (v : Verdict) : Outcome :=
  if v.passed then .solved else .rejected

@[simp]
theorem Score.point_outcome (v : Verdict) : Score.point v.outcome = if v.passed then 1 else 0 := by
  unfold Verdict.outcome
  split <;> rfl

/-- The code that is judged, and the outcome. -/
def Event.judgement? : Event → Option (List UInt8 × Outcome)
  | .judged code outcome => some (code, outcome)
  | _ => none

/-- The index that is drawn. -/
def Event.drawn? : Event → Option Nat
  | .drew index => some index
  | _ => none

namespace Session

section Rejected

variable {g : Game π σ} {picker : π} {judge : σ} {lines : List String} {events more : List Event}
  {s s' : Session π σ} {line : String}

/-- An answer to the question after an attempt is no rejected solution. -/
theorem isRejected_of_asking {outcome : Outcome} (hphase : s.phase = .asking outcome)
    (line : String) : (⟨s.phase.prompt?, line⟩ : Exchange).isRejected = false := by
  simp [Exchange.isRejected, Phase.prompt?, hphase]

/-- A rejected line is counted by the attempt, and the attempt hands its count
over once it is judged. -/
theorem Heard.rejected_cases (h : Heard g s line more s') :
    ((⟨s.phase.prompt?, line⟩ : Exchange).isRejected = true ∧
        s'.score.reprompts = s.score.reprompts ∧
        s'.phase.turnedAway = s.phase.turnedAway + 1) ∨
      ((⟨s.phase.prompt?, line⟩ : Exchange).isRejected = false ∧
        s'.score.reprompts = s.score.reprompts + s.phase.turnedAway ∧
        s'.phase.turnedAway = 0) := by
  cases h with
  | turnedAway hphase ht hline =>
    refine .inl ⟨?_, rfl, ?_⟩
    · simp [Exchange.isRejected, Phase.prompt?, hphase, hline]
    · rw [hphase]
      rfl
  | taken hphase ht hline hreport =>
    refine .inr ⟨?_, ?_, rfl⟩
    · simp [Exchange.isRejected, hline]
    · rw [hphase, hreport]
      rfl
  | unclear hphase hline =>
    refine .inr ⟨isRejected_of_asking hphase line, ?_, ?_⟩ <;> rw [hphase] <;> rfl
  | no hphase hline =>
    refine .inr ⟨isRejected_of_asking hphase line, ?_, rfl⟩
    rw [hphase]
    rfl
  | again hphase hline ht =>
    refine .inr ⟨isRejected_of_asking hphase line, ?_, rfl⟩
    rw [hphase]
    rfl
  | next hphase hline hpick ht =>
    refine .inr ⟨isRejected_of_asking hphase line, ?_, rfl⟩
    rw [hphase]
    rfl

/-- The rejected lines of a session are those in its counter and those that the
present attempt has turned away; the latter are the last lines heard. -/
theorem Played.countP_isRejected (h : Played g picker judge lines events s) :
    (exchanges none events).countP Exchange.isRejected =
        s.score.reprompts + s.phase.turnedAway ∧
      rejectedLast (exchanges none events) = s.phase.turnedAway := by
  induction h with
  | start => exact ⟨rfl, rfl⟩
  | hear hplayed hheard ih =>
    obtain ⟨hcount, hlast⟩ := ih
    rw [hplayed.exchanges_hear hheard, List.countP_append, List.countP_singleton, hcount]
    rcases hheard.rejected_cases with ⟨hx, hscore, haway⟩ | ⟨hx, hscore, haway⟩
    · rw [rejectedLast_concat_of_isRejected _ hx, if_pos hx, hlast, hscore, haway]
      exact ⟨Nat.add_assoc _ _ _, rfl⟩
    · rw [rejectedLast_concat_of_not_isRejected _ hx, if_neg (by simp [hx]), hscore, haway]
      exact ⟨rfl, rfl⟩

end Rejected

/-! ## Runs of the judge -/

section Runs

variable {g : Game π σ} {picker : π} {judge : σ} {lines : List String} {events more : List Event}
  {s s' : Session π (σ × List (List UInt8 × Verdict))} {line : String}

/-- A line either has one run judged, which is written down and recorded with its
outcome, or it has none judged and recorded. -/
theorem Heard.runs_cases (h : Heard g.recorded s line more s') :
    (∃ code verdict reprompts, s'.judge.2 = s.judge.2 ++ [(code, verdict)] ∧
        more.filterMap Event.judgement? = [(code, verdict.outcome)] ∧
        s.phase.prompt? = some .solution ∧ s'.phase = .asking verdict.outcome ∧
        s'.score = s.score.record verdict.outcome reprompts) ∨
      (s'.judge = s.judge ∧ more.filterMap Event.judgement? = [] ∧
        s'.score.totalAttempts = s.score.totalAttempts ∧ s'.score.solved = s.score.solved) := by
  cases h with
  | @taken t n solution report hphase ht hline hreport =>
    let code := fill t.code solution.bytes
    refine .inl ⟨code, (g.judge.execute s.judge.1 code).1, n, ?_, ?_, ?_, ?_, ?_⟩
    · rw [hreport]
      rfl
    · rw [hreport]
      rfl
    · rw [hphase]
      rfl
    · rw [hreport]
      rfl
    · rw [hreport]
      rfl
  | turnedAway => exact .inr ⟨rfl, rfl, rfl, rfl⟩
  | unclear => exact .inr ⟨rfl, rfl, rfl, rfl⟩
  | no => exact .inr ⟨rfl, rfl, rfl, rfl⟩
  | again => exact .inr ⟨rfl, rfl, rfl, rfl⟩
  | next => exact .inr ⟨rfl, rfl, rfl, rfl⟩

/-- Each run of the judge is an attempt, each that passed is a solved puzzle, and
the events name the code and the outcome of each run, in order. -/
theorem Played.runs_eq (h : Played g.recorded picker (judge, []) lines events s) :
    s.score.totalAttempts = s.judge.2.length ∧
      s.score.solved = s.judge.2.countP (·.2.passed) ∧
      events.filterMap Event.judgement? = s.judge.2.map fun run => (run.1, run.2.outcome) := by
  induction h with
  | start => exact ⟨rfl, rfl, rfl⟩
  | hear hplayed hheard ih =>
    obtain ⟨htotal, hsolved, hjudged⟩ := ih
    rw [List.filterMap_append, hjudged]
    rcases hheard.runs_cases with
      ⟨code, verdict, n, hjudge, hmore, _, _, hscore⟩ | ⟨hjudge, hmore, htotal', hsolved'⟩
    · rw [hjudge, hmore, hscore]
      simp only [Score.record, Score.point_outcome, htotal, hsolved, List.length_append,
        List.countP_append, List.countP_singleton, List.map_append, List.length_singleton,
        List.map_cons, List.map_nil, and_self]
    · rw [hjudge, hmore, htotal', hsolved', List.append_nil]
      exact ⟨htotal, hsolved, rfl⟩

/-- The current puzzle has been solved: the last run passed, and the counters say
that as many puzzles have been solved as have been shown. -/
structure IsSolved (s : Session π (σ × List (List UInt8 × Verdict))) : Prop where
  solved_eq : s.score.solved = s.score.puzzleNumber
  attempts_pos : 1 ≤ s.score.attempts
  last_passed : ∃ code, s.judge.2.getLast? = some (code, .ok true)

/-- A run that passed solves the current puzzle, and any other leaves it open. -/
theorem isSolved_or_open_of_run {code : List UInt8} {verdict : Verdict} {n : Nat}
    (hopen : s.score.puzzleNumber = s.score.solved + 1)
    (hjudge : s'.judge.2 = s.judge.2 ++ [(code, verdict)])
    (hphase : s'.phase = .asking verdict.outcome)
    (hscore : s'.score = s.score.record verdict.outcome n) :
    (s'.phase ≠ .asking .solved ∧ s'.score.puzzleNumber = s'.score.solved + 1) ∨
      ((s'.phase = .asking .solved ∨ s'.phase = .closed) ∧ s'.IsSolved) := by
  cases hpassed : verdict.passed with
  | false =>
    have houtcome : verdict.outcome = .rejected := by simp [Verdict.outcome, hpassed]
    refine .inl ⟨by simp [hphase, houtcome], ?_⟩
    rw [hscore, houtcome]
    exact hopen
  | true =>
    have houtcome : verdict.outcome = .solved := by simp [Verdict.outcome, hpassed]
    refine .inr ⟨.inl (by rw [hphase, houtcome]), ?_, ?_, code, ?_⟩
    · rw [hscore, houtcome]
      exact hopen.symm
    · rw [hscore]
      exact Nat.le_add_left 1 s.score.attempts
    · rw [hjudge, List.getLast?_concat, Verdict.passed_eq_true_iff.1 hpassed]

/-- Either the current puzzle is the only one that is still to be solved, or it has
been solved, and the player is asked whether to go on or has left. -/
theorem Played.open_or_solved (h : Played g.recorded picker (judge, []) lines events s) :
    (s.phase ≠ .asking .solved ∧ s.score.puzzleNumber = s.score.solved + 1) ∨
      ((s.phase = .asking .solved ∨ s.phase = .closed) ∧ s.IsSolved) := by
  induction h with
  | start => exact .inl ⟨by simp, rfl⟩
  | @hear lines events more s s' line hplayed hheard ih =>
    rcases hheard.runs_cases with ⟨code, verdict, n, hjudge, _, hprompt, hphase', hscore⟩ | hnone
    · rcases ih with ⟨_, hopen⟩ | ⟨hover | hover, _⟩
      · exact isSolved_or_open_of_run hopen hjudge hphase' hscore
      · simp [hover, Phase.prompt?] at hprompt
      · simp [hover, Phase.prompt?] at hprompt
    cases hheard with
    | turnedAway hphase =>
      rcases ih with ⟨_, hopen⟩ | ⟨hover, _⟩
      · exact .inl ⟨by simp, hopen⟩
      · simp [hphase] at hover
    | taken => simp [reportEvents, Event.judgement?] at hnone
    | unclear hphase hline => exact ih
    | no hphase hline =>
      rcases ih with ⟨_, hopen⟩ | ⟨_, hsolved⟩
      · exact .inl ⟨by simp, hopen⟩
      · exact .inr ⟨.inr rfl, hsolved.solved_eq, hsolved.attempts_pos, hsolved.last_passed⟩
    | again hphase hline ht =>
      rcases ih with ⟨_, hopen⟩ | ⟨hover, _⟩
      · exact .inl ⟨by simp, hopen⟩
      · simp [hphase] at hover
    | next hphase hline hpick ht =>
      rcases ih with ⟨hopen, _⟩ | ⟨_, hsolved⟩
      · exact absurd hphase hopen
      · refine .inl ⟨by simp, ?_⟩
        simp only [Score.advance, hsolved.solved_eq]

end Runs

/-! ## Picks -/

end Session

/-- The picker after a number of picks in a row. -/
def Game.pickerAfter (g : Game π σ) (picker : π) : Nat → π
  | 0 => picker
  | n + 1 => (g.pick (g.pickerAfter picker n) g.corpus.size).2

/-- The index that is picked after a number of other picks. -/
def Game.picked (g : Game π σ) (picker : π) (n : Nat) : Nat :=
  (g.pick (g.pickerAfter picker n) g.corpus.size).1

/-- What is picked is up to the corpus and the picker alone. -/
theorem Game.pickerAfter_congr {σ' : Type} {g : Game π σ} {g' : Game π σ'}
    (hcorpus : g'.corpus = g.corpus) (hpick : g'.pick = g.pick) (picker : π) (n : Nat) :
    g'.pickerAfter picker n = g.pickerAfter picker n := by
  induction n with
  | zero => rfl
  | succ n ih => rw [Game.pickerAfter, ih, Game.pickerAfter, hcorpus, hpick]

theorem Game.picked_congr {σ' : Type} {g : Game π σ} {g' : Game π σ'}
    (hcorpus : g'.corpus = g.corpus) (hpick : g'.pick = g.pick) (picker : π) :
    g'.picked picker = g.picked picker := by
  funext n
  rw [Game.picked, Game.pickerAfter_congr hcorpus hpick, Game.picked, hcorpus, hpick]

theorem Game.pickerAfter_recorded (g : Game π σ) (picker : π) (n : Nat) :
    g.recorded.pickerAfter picker n = g.pickerAfter picker n :=
  Game.pickerAfter_congr g.corpus_recorded g.pick_recorded picker n

theorem Game.picked_recorded (g : Game π σ) (picker : π) :
    g.recorded.picked picker = g.picked picker :=
  Game.picked_congr g.corpus_recorded g.pick_recorded picker

namespace Session

section Picks

variable {g : Game π σ} {picker : π} {judge : σ} {lines : List String} {events more : List Event}
  {s s' : Session π σ} {line : String}

/-- An answer goes on to the next puzzle, which is picked, or the puzzle stays. -/
theorem Heard.picks_cases (h : Heard g s line more s') :
    (∃ index, (⟨s.phase.prompt?, line⟩ : Exchange).isAdvance = true ∧
        (index, s'.picker) = g.pick s.picker g.corpus.size ∧
        s'.score = s.score.advance index ∧ more.filterMap Event.drawn? = [index] ∧
        ∃ shown, more = .heard line .yes :: shown ∧ (∀ before, exchanges before shown = []) ∧
          shown.filterMap Event.judgement? = []) ∨
      ((⟨s.phase.prompt?, line⟩ : Exchange).isAdvance = false ∧ s'.picker = s.picker ∧
        s'.score.puzzleNumber = s.score.puzzleNumber ∧
        s'.score.puzzleIndex = s.score.puzzleIndex ∧
        s'.score.attempts = s.score.attempts + (more.filterMap Event.judgement?).length ∧
        more.filterMap Event.drawn? = []) := by
  cases h with
  | @next t index picker hphase hline hpick ht =>
    refine .inl ⟨index, ?_, hpick.symm, rfl, rfl, _, rfl, fun _ => rfl, rfl⟩
    simp [Exchange.isAdvance, Phase.prompt?, hphase, hline]
  | turnedAway hphase =>
    exact .inr ⟨by simp [Exchange.isAdvance, Phase.prompt?, hphase], rfl, rfl, rfl, rfl, rfl⟩
  | taken hphase =>
    exact .inr ⟨by simp [Exchange.isAdvance, Phase.prompt?, hphase], rfl, rfl, rfl, rfl, rfl⟩
  | unclear hphase hline =>
    exact .inr ⟨by simp [Exchange.isAdvance, hline], rfl, rfl, rfl, rfl, rfl⟩
  | no hphase hline =>
    exact .inr ⟨by simp [Exchange.isAdvance, hline], rfl, rfl, rfl, rfl, rfl⟩
  | again hphase =>
    exact .inr ⟨by simp [Exchange.isAdvance, Phase.prompt?, hphase], rfl, rfl, rfl, rfl, rfl⟩

/-- There is one puzzle more than there are answers that go on to the next one;
each of them is the next pick, and the last pick is the current puzzle. -/
theorem Played.picks_eq (h : Played g picker judge lines events s) :
    s.score.puzzleNumber = 1 + (exchanges none events).countP Exchange.isAdvance ∧
      s.picker = g.pickerAfter picker s.score.puzzleNumber ∧
      events.filterMap Event.drawn? = (List.range s.score.puzzleNumber).map (g.picked picker) ∧
      (events.filterMap Event.drawn?).getLast? = some s.score.puzzleIndex := by
  induction h with
  | @start index next t hpick ht =>
    have hfirst : (List.range 1).map (g.picked picker) = [index] := by
      simp [Game.picked, Game.pickerAfter, hpick]
    have hstate : next = g.pickerAfter picker 1 := by simp [Game.pickerAfter, hpick]
    exact ⟨rfl, hstate, hfirst.symm, rfl⟩
  | @hear lines events more s s' line hplayed hheard ih =>
    obtain ⟨hnumber, hpicker, hdrawn, hlast⟩ := ih
    rw [hplayed.exchanges_hear hheard, List.countP_append, List.countP_singleton,
      List.filterMap_append]
    rcases hheard.picks_cases with
      ⟨index, hx, hpick, hscore, hmore, _⟩ | ⟨hx, hpicker', hnumber', hindex, _, hmore⟩
    · have hstate : s'.picker = g.pickerAfter picker (s.score.puzzleNumber + 1) := by
        rw [Game.pickerAfter, ← hpicker, ← hpick]
      have hindex : index = g.picked picker s.score.puzzleNumber := by
        rw [Game.picked, ← hpicker, ← hpick]
      rw [if_pos hx, hmore, hscore, hdrawn, hstate]
      refine ⟨by rw [Score.advance, hnumber, Nat.add_assoc], rfl, ?_, ?_⟩
      · rw [Score.advance, List.range_succ, List.map_append, hindex]
        rfl
      · rw [List.getLast?_concat]
        rfl
    · rw [if_neg (by simp [hx]), hmore, hnumber', hindex, hpicker', List.append_nil]
      exact ⟨hnumber, hpicker, hdrawn, hlast⟩

/-! ## Runs since a puzzle was left -/

/-- The events fall into two parts: the first is empty or ends with an answer that
goes on to the next puzzle, and the second holds no such answer and `n` runs. -/
def RunsSinceAdvance (events : List Event) (n : Nat) : Prop :=
  ∃ before after, events = before ++ after ∧
    (before = [] ∨ ∃ earlier line use, before = earlier ++ [.heard line use] ∧
      (⟨lastPrompt none earlier, line⟩ : Exchange).isAdvance = true) ∧
    (∀ x ∈ exchanges (lastPrompt none before) after, x.isAdvance = false) ∧
    (after.filterMap Event.judgement?).length = n

/-- More runs, as long as no answer goes on to the next puzzle, are added up. -/
theorem RunsSinceAdvance.append {n : Nat} (h : RunsSinceAdvance events n) (more : List Event)
    (hmore : ∀ x ∈ exchanges (lastPrompt none events) more, x.isAdvance = false) :
    RunsSinceAdvance (events ++ more) (n + (more.filterMap Event.judgement?).length) := by
  obtain ⟨before, after, rfl, hbefore, hafter, rfl⟩ := h
  refine ⟨before, after ++ more, List.append_assoc _ _ _, hbefore, ?_, ?_⟩
  · rw [exchanges_append, List.forall_mem_append, ← lastPrompt_append]
    exact ⟨hafter, hmore⟩
  · rw [List.filterMap_append, List.length_append]

/-- The attempts at the current puzzle are the runs since the answer that led to
it. -/
theorem Played.attempts_eq (h : Played g picker judge lines events s) :
    RunsSinceAdvance events s.score.attempts := by
  induction h with
  | start => exact ⟨[], _, rfl, .inl rfl, by simp [exchanges, roundEvents], rfl⟩
  | @hear lines events more s s' line hplayed hheard ih =>
    have hprompt := hplayed.lastPrompt_eq hheard.isOver_eq_false
    rcases hheard.picks_cases with
      ⟨index, hx, _, hscore, _, shown, rfl, hshown, hruns⟩ | ⟨hx, _, _, _, hattempts, _⟩
    · refine ⟨events ++ [.heard line .yes], shown, by simp,
        .inr ⟨events, line, .yes, rfl, by rw [hprompt, hx]⟩, ?_, ?_⟩
      · rw [hshown]
        exact List.forall_mem_nil _
      · rw [hruns, hscore]
        rfl
    · rw [hattempts]
      refine ih.append more ?_
      rw [hheard.exchanges_eq, hprompt, List.forall_mem_singleton]
      exact hx

end Picks

end Session

namespace Playthrough

/-- The farewell is no run. -/
theorem Concludes.runsSinceAdvance {ending : Ending} {colored : Bool} {unheard : List String}
    {events : List Event} {s : Session π σ} {p : Playthrough σ} {n : Nat}
    (h : Concludes ending colored unheard events s p) (hn : Session.RunsSinceAdvance events n) :
    Session.RunsSinceAdvance p.events n := by
  have hleave : s.leave.1.filterMap Event.judgement? = [] := by
    unfold Session.leave
    split <;> rfl
  have hmore := hn.append s.leave.1 (by simp [Session.exchanges_leave])
  rwa [hleave, ← h.events_eq] at hmore

/-! ## Main theorems -/

variable {texts : List String} {g : Game π σ} {picker : π} {judge : σ} {input : Input}
  {t : Terminal} {score : Score}

/-- The count of rejected lines omits those of the last attempt if the input ran
out before it was judged.

For every corpus that was read, whatever the picker, the judge and the input: in
a playthrough that comes to its end, the lines that were read at a solution prompt
and are no solution once trimmed are those that are counted, and those after which
nothing else was heard.  So the count is right exactly if the last line heard was
not rejected at a solution prompt. -/
theorem reprompts_omits_last_rejected (hcorpus : Corpus.ofTexts texts = .ok g.corpus)
    (hok : (run g picker judge input t).result = .ok score) :
    let p := run g picker judge input t
    let answers := exchanges none p.events
    p.output = p.events.flatMap (Event.output t.colored) ∧
      answers.map Exchange.line <+: input.lines ∧
      score.reprompts + rejectedLast answers = answers.countP Exchange.isRejected ∧
      (score.reprompts = answers.countP Exchange.isRejected ↔
        ∀ x ∈ answers.getLast?, x.isRejected = false) := by
  obtain ⟨lines, unheard, events, last, hlines, hplayed, rfl, hends⟩ :=
    exists_played_of_ok (Corpus.playable_of_ofTexts hcorpus) hok
  intro p answers
  have hanswers : answers = exchanges none events := hends.exchanges_eq
  obtain ⟨hcount, hlast⟩ := hplayed.countP_isRejected
  refine ⟨hends.output_eq, ?_, ?_, ?_⟩
  · rw [hanswers, hplayed.lines_eq, hlines]
    exact List.prefix_append lines unheard
  · rw [hanswers, hcount, hlast]
  · rw [hanswers, ← rejectedLast_eq_zero_iff, hcount, hlast]
    omega

/-- Two rejected lines before a verdict are counted, and one after it is not. -/
theorem reprompts_omits_last_of_three :
    let p := run Game.sample 0 [.ok false]
      ⟨Utf8.encodeString "zz\n0102\n010203\n\nfoo\n", .exhausted⟩ ⟨true, none, none⟩
    Corpus.ofTexts ["0xXXXXXX"] = .ok Game.sample.corpus ∧ p.result = .ok ⟨1, 0, 1, 1, 0, 2⟩ ∧
      (exchanges none p.events).countP Exchange.isRejected = 3 := by
  intro p
  have hok : p.result = .ok ⟨1, 0, 1, 1, 0, 2⟩ := by decide +kernel
  have hlast : rejectedLast (exchanges none p.events) = 1 := by decide +kernel
  obtain ⟨_, _, hcount, _⟩ := reprompts_omits_last_rejected Game.ofTexts_sample hok
  exact ⟨Game.ofTexts_sample, hok, by rw [← hcount, hlast]⟩

/-- A line is rejected at a solution prompt, the input ends, and nothing is
counted. -/
theorem reprompts_zero_of_one_rejected :
    let p := run Game.sample 0 [] ⟨Utf8.encodeString "zz\n", .exhausted⟩ ⟨false, none, none⟩
    Corpus.ofTexts ["0xXXXXXX"] = .ok Game.sample.corpus ∧
      ∃ score, p.result = .ok score ∧ score.reprompts = 0 ∧
        (exchanges none p.events).countP Exchange.isRejected = 1 := by
  refine ⟨Game.ofTexts_sample, ⟨1, 0, 0, 0, 0, 0⟩, ?_, rfl, ?_⟩
  · decide +kernel
  · decide +kernel

/-- The counters agree with the record of the playthrough.

For every corpus that was read, whatever the picker, the judge and the input, in
a playthrough that comes to its end: each run of the judge is an attempt, each run
that passed is a solved puzzle, there is one puzzle more than there are answers
that go on to the next one, and the attempts at the current puzzle are the runs
since the last of these answers; the current puzzle is the last one picked.  At
most one puzzle is still to be solved, and if none is, the current puzzle has been
attempted and the last run passed.

The record is what can be seen from outside: the output is what was shown, the
lines are the first ones of the input, the code judged is what the judge was asked
for, and the puzzles are the successive picks. -/
theorem score_agrees_with_record (hcorpus : Corpus.ofTexts texts = .ok g.corpus)
    (hok : (run g.recorded picker (judge, []) input t).result = .ok score) :
    let p := run g.recorded picker (judge, []) input t
    let runs := p.judge.2
    let answers := exchanges none p.events
    (p.output = p.events.flatMap (Event.output t.colored) ∧
      answers.map Exchange.line <+: input.lines ∧
      p.events.filterMap Event.judgement? = runs.map (fun run => (run.1, run.2.outcome)) ∧
      p.events.filterMap Event.drawn? = (List.range score.puzzleNumber).map (g.picked picker)) ∧
    score.totalAttempts = runs.length ∧
    score.solved = runs.countP (·.2.passed) ∧
    score.puzzleNumber = 1 + answers.countP Exchange.isAdvance ∧
    Session.RunsSinceAdvance p.events score.attempts ∧
    (p.events.filterMap Event.drawn?).getLast? = some score.puzzleIndex ∧
    score.puzzleNumber - 1 ≤ score.solved ∧ score.solved ≤ score.puzzleNumber ∧
    (score.solved = score.puzzleNumber →
      1 ≤ score.attempts ∧ ∃ code, runs.getLast? = some (code, .ok true)) := by
  obtain ⟨lines, unheard, events, last, hlines, hplayed, rfl, hends⟩ :=
    exists_played_of_ok (g := g.recorded) (Corpus.playable_of_ofTexts hcorpus) hok
  intro p runs answers
  have hanswers : answers = exchanges none events := hends.exchanges_eq
  have hruns : runs = last.judge.2 := by rw [← hends.judge_eq]
  obtain ⟨htotal, hsolved, hjudged⟩ := hplayed.runs_eq
  obtain ⟨hnumber, _, hdrawn, hindex⟩ := hplayed.picks_eq
  have hjudgements := hends.filterMap_eq (f := Event.judgement?) rfl
  have hdraws := hends.filterMap_eq (f := Event.drawn?) rfl
  rw [hanswers, hruns]
  refine ⟨⟨hends.output_eq, ?_, hjudgements.trans hjudged, ?_⟩, htotal, hsolved, hnumber,
    ?_, ?_, ?_⟩
  · rw [hplayed.lines_eq, hlines]
    exact List.prefix_append lines unheard
  · rw [hdraws, hdrawn, Game.picked_recorded]
  · exact hends.runsSinceAdvance hplayed.attempts_eq
  · rw [hdraws, hindex]
  · rcases hplayed.open_or_solved with ⟨_, hopen⟩ | ⟨_, hall⟩
    · exact ⟨by omega, by omega, fun h => by omega⟩
    · refine ⟨?_, ?_, fun _ => ⟨hall.attempts_pos, hall.last_passed⟩⟩
      · rw [hall.solved_eq]
        exact Nat.sub_le _ _
      · rw [hall.solved_eq]

/-- A rejection, a solution and a third verdict after the next puzzle: three
attempts, one of them at the second puzzle, which is still to be solved. -/
theorem score_agrees_with_three_runs :
    let p := run Game.sample.recorded 0 ([.ok false, .ok true, .ok false], [])
      ⟨Utf8.encodeString "040404\n\n010203\nwhat\ny\nzz\n020202\nn\n", .exhausted⟩
      ⟨false, none, none⟩
    Corpus.ofTexts ["0xXXXXXX"] = .ok Game.sample.corpus ∧ p.result = .ok ⟨2, 0, 1, 3, 1, 1⟩ ∧
      p.judge.2.length = 3 ∧ p.judge.2.countP (·.2.passed) = 1 ∧
      (exchanges none p.events).countP Exchange.isAdvance = 1 ∧
      Session.RunsSinceAdvance p.events 1 := by
  intro p
  have hok : p.result = .ok ⟨2, 0, 1, 3, 1, 1⟩ := by decide +kernel
  obtain ⟨_, htotal, hsolved, hnumber, hattempts, _⟩ :=
    score_agrees_with_record Game.ofTexts_sample hok
  have hanswers : 1 + 1 = 1 + (exchanges none p.events).countP Exchange.isAdvance := hnumber
  exact ⟨Game.ofTexts_sample, hok, htotal.symm, hsolved.symm,
    (Nat.add_left_cancel hanswers).symm, hattempts⟩

end Playthrough
end MakeTen
