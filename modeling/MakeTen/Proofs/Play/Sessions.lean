import MakeTen.Play.Session
import MakeTen.Proofs.Play.Attempts
import MakeTen.Proofs.Puzzle.Corpora
/-!
# The course of a session

A session of a fair game, whose puzzles are playable and whose picker stays
within them, is always in order: its puzzle is in the corpus, it has not broken
off, and an attempt that waits for a text is one at that puzzle.  Hearing a line
can then do one of six things, and each of them leaves the session in order.

Main results:

- Structure `Session.InOrder`: the invariant.
- Relation `Session.Heard`: the six things that hearing a line can do.
- Theorem `Session.InOrder.hear_or_lost`: hearing a line does one of them, or
  the picker leaves the corpus.
- Theorem `Session.InOrder.hear`: in a fair game it does one of them.
- Theorem `Session.Heard.inOrder`: each of them keeps the session in order.
- Theorem `Session.Reachable.inOrder`: every session that comes about is in
  order.
- Theorem `Session.Steady.hear_cases`: what a line does if nothing is asked of the
  picker.
-/

namespace MakeTen

variable {π σ : Type}

/-! ## Fair games -/

/-- What a game has to be like: its puzzles can be played, there is one, and the
picker stays within them. -/
structure Game.Fair (g : Game π σ) : Prop where
  playable : ∀ t ∈ g.corpus.templates, t.Playable
  size_pos : 0 < g.corpus.size
  /-- The picker stays below the number that it is given. -/
  pick_lt : ∀ picker n, 1 ≤ n → (g.pick picker n).1 < n

/-- A game with a corpus that was read and a picker that stays within bounds is
fair. -/
theorem Game.fair_of_ofTexts {g : Game π σ} {texts : List String}
    (hcorpus : Corpus.ofTexts texts = .ok g.corpus)
    (hpick : ∀ picker n, 1 ≤ n → (g.pick picker n).1 < n) : g.Fair where
  playable := Corpus.playable_of_ofTexts hcorpus
  size_pos := Corpus.size_pos_of_ofTexts hcorpus
  pick_lt := hpick

theorem Game.Fair.playable_of_get? {g : Game π σ} (hg : g.Fair) {index : Nat} {t : Template}
    (h : g.corpus.get? index = some t) : t.Playable :=
  hg.playable t (List.mem_of_getElem? h)

theorem Corpus.exists_get? {c : Corpus} {index : Nat} (h : index < c.size) :
    ∃ t, c.get? index = some t :=
  ⟨c.templates[index], List.getElem?_eq_getElem h⟩

theorem Corpus.lt_size_of_get? {c : Corpus} {index : Nat} {t : Template}
    (h : c.get? index = some t) : index < c.size :=
  (List.getElem?_eq_some_iff.1 h).1

/-- What is picked from a fair game is one of its puzzles. -/
theorem Game.Fair.exists_pick {g : Game π σ} (hg : g.Fair) (picker : π) :
    ∃ index next t, g.pick picker g.corpus.size = (index, next) ∧
      g.corpus.get? index = some t := by
  obtain ⟨t, ht⟩ := Corpus.exists_get? (hg.pick_lt picker g.corpus.size hg.size_pos)
  exact ⟨_, _, t, rfl, ht⟩

namespace Session

/-! ## The invariant -/

/-- What holds of a session of a fair game at all times. -/
structure InOrder (g : Game π σ) (s : Session π σ) : Prop where
  index_lt : s.score.puzzleIndex < g.corpus.size
  not_failed : ∀ fault, s.phase ≠ .failed fault
  /-- An attempt that waits for a text is one at the current puzzle. -/
  awaiting : ∀ a, s.phase = .solving a →
    a.stage = .awaiting ∧ g.corpus.get? s.score.puzzleIndex = some a.template

/-- A session in order that is not over waits for a solution or for an
answer. -/
theorem InOrder.cases {g : Game π σ} {s : Session π σ} (h : InOrder g s)
    (hover : s.phase.isOver = false) :
    (∃ t n, s.phase = .solving ⟨t, .awaiting, n⟩ ∧
      g.corpus.get? s.score.puzzleIndex = some t) ∨ ∃ outcome, s.phase = .asking outcome := by
  cases hphase : s.phase with
  | solving a =>
    obtain ⟨template, stage, n⟩ := a
    obtain ⟨hstage, htemplate⟩ := h.awaiting _ hphase
    obtain rfl : stage = .awaiting := hstage
    exact .inl ⟨template, n, rfl, htemplate⟩
  | asking outcome => exact .inr ⟨outcome, rfl⟩
  | closed =>
    rw [hphase] at hover
    simp [Phase.isOver] at hover
  | failed fault => exact absurd hphase (h.not_failed fault)

/-- A session that is closed is in order. -/
theorem inOrder_of_closed {g : Game π σ} {s : Session π σ}
    (hindex : s.score.puzzleIndex < g.corpus.size) (hphase : s.phase = .closed) :
    InOrder g s where
  index_lt := hindex
  not_failed := by simp [hphase]
  awaiting := by simp [hphase]

/-- A session with a question is in order. -/
theorem inOrder_of_asking {g : Game π σ} {s : Session π σ} {outcome : Outcome}
    (hindex : s.score.puzzleIndex < g.corpus.size) (hphase : s.phase = .asking outcome) :
    InOrder g s where
  index_lt := hindex
  not_failed := by simp [hphase]
  awaiting := by simp [hphase]

/-- A session with an attempt at its puzzle is in order. -/
theorem inOrder_of_solving {g : Game π σ} {s : Session π σ} {t : Template} {n : Nat}
    (ht : g.corpus.get? s.score.puzzleIndex = some t)
    (hphase : s.phase = .solving ⟨t, .awaiting, n⟩) : InOrder g s where
  index_lt := Corpus.lt_size_of_get? ht
  not_failed := by simp [hphase]
  awaiting := by
    intro a ha
    obtain rfl : (⟨t, .awaiting, n⟩ : Attempt) = a := by simpa [hphase] using ha
    exact ⟨rfl, ht⟩

/-! ## Rounds -/

theorem beginRound_of_get? {g : Game π σ} {s : Session π σ} {t : Template}
    (h : g.corpus.get? s.score.puzzleIndex = some t) :
    beginRound g s = (roundEvents s.score.puzzleNumber t,
      { s with phase := .solving (.start t) }) := by
  simp only [beginRound, h]

/-- An attempt that has taken a solution is judged and reported on. -/
theorem conclude_resolving {g : Game π σ} {s : Session π σ} {t : Template} (ht : t.Playable)
    {solution : Solution} {n : Nat} {report : Report}
    (hreport : report = Attempt.reportOn g.judge s.judge solution (fill t.code solution.bytes) n) :
    conclude g s ⟨t, .resolving solution, n⟩ =
      (reportEvents report (fillSlots t.instructions solution.bytes),
        { s with
          judge := (g.judge.page s.judge report.resolved).2
          score := s.score.record report.outcome report.invalidInputs
          phase := .asking report.outcome }) := by
  have hfinish : Attempt.finish g.judge ⟨t, .resolving solution, n⟩ s.judge = _ :=
    Attempt.finish_resolving (ht.resolve_eq solution)
  have hresolved : report.resolved = fill t.code solution.bytes := by rw [hreport]; rfl
  have hdisassemble : disassemble report.resolved = .ok (fillSlots t.instructions solution.bytes) :=
    hresolved ▸ ht.disassemble_resolved solution
  rw [← hreport] at hfinish
  simp only [conclude, hfinish, hdisassemble]
  rw [hresolved]
  rfl

/-! ## Hearing a line -/

/-- The things that hearing a line can do, each with the events that go with it
and the session that it leads to. -/
inductive Heard (g : Game π σ) (s : Session π σ) (line : String) :
    List Event → Session π σ → Prop where
  | turnedAway {t : Template} {n : Nat}
      (hphase : s.phase = .solving ⟨t, .awaiting, n⟩)
      (ht : g.corpus.get? s.score.puzzleIndex = some t)
      (hline : Solution.ofText? (Blank.trimmed line) = none) :
      Heard g s line [.heard line .turnedAway, .shown (.prompt .solution)]
        { s with phase := .solving ⟨t, .awaiting, n + 1⟩ }
  | taken {t : Template} {n : Nat} {solution : Solution} {report : Report}
      (hphase : s.phase = .solving ⟨t, .awaiting, n⟩)
      (ht : g.corpus.get? s.score.puzzleIndex = some t)
      (hline : Solution.ofText? (Blank.trimmed line) = some solution)
      (hreport : report =
        Attempt.reportOn g.judge s.judge solution (fill t.code solution.bytes) n) :
      Heard g s line
        (.heard line (.taken solution) ::
          reportEvents report (fillSlots t.instructions solution.bytes))
        { s with
          judge := (g.judge.page s.judge report.resolved).2
          score := s.score.record report.outcome report.invalidInputs
          phase := .asking report.outcome }
  | unclear {outcome : Outcome} (hphase : s.phase = .asking outcome)
      (hline : answer? line = none) :
      Heard g s line [.heard line .unclear, .shown (.prompt (.goOn outcome))] s
  | no {outcome : Outcome} (hphase : s.phase = .asking outcome)
      (hline : answer? line = some false) :
      Heard g s line [.heard line .no, .shown .blankLine, .shown .farewell]
        { s with phase := .closed }
  | again {t : Template} (hphase : s.phase = .asking .rejected)
      (hline : answer? line = some true) (ht : g.corpus.get? s.score.puzzleIndex = some t) :
      Heard g s line
        (.heard line .yes :: .shown .blankLine :: roundEvents s.score.puzzleNumber t)
        { s with phase := .solving (.start t) }
  | next {t : Template} {index : Nat} {picker : π} (hphase : s.phase = .asking .solved)
      (hline : answer? line = some true) (hpick : g.pick s.picker g.corpus.size = (index, picker))
      (ht : g.corpus.get? index = some t) :
      Heard g s line
        (.heard line .yes :: .shown .blankLine :: .drew index ::
          roundEvents (s.score.puzzleNumber + 1) t)
        { s with picker, score := s.score.advance index, phase := .solving (.start t) }

/-- What hearing a line does if the picker leaves the corpus: the session breaks
off. -/
inductive Lost (g : Game π σ) (s : Session π σ) (line : String) :
    List Event → Session π σ → Prop where
  | next {index : Nat} {picker : π} (hphase : s.phase = .asking .solved)
      (hline : answer? line = some true) (hpick : g.pick s.picker g.corpus.size = (index, picker))
      (hnone : g.corpus.get? index = none) :
      Lost g s line [.heard line .yes, .shown .blankLine, .drew index]
        { s with
          picker
          score := s.score.advance index
          phase := .failed (.noSuchPuzzle index) }

theorem Lost.get?_eq_none {g : Game π σ} {s s' : Session π σ} {line : String}
    {events : List Event} (h : Lost g s line events s') :
    g.corpus.get? (g.pick s.picker g.corpus.size).1 = none := by
  cases h with
  | next hphase hline hpick hnone => rw [hpick, hnone]

theorem Lost.phase_eq {g : Game π σ} {s s' : Session π σ} {line : String}
    {events : List Event} (h : Lost g s line events s') :
    s'.phase = .failed (.noSuchPuzzle (g.pick s.picker g.corpus.size).1) := by
  cases h with
  | next hphase hline hpick hnone => rw [hpick]

/-- Hearing a line does one of the six things, or the next puzzle that is picked
is not in the corpus. -/
theorem InOrder.hear_or_lost {g : Game π σ} (hg : ∀ t ∈ g.corpus.templates, t.Playable)
    {s : Session π σ} (h : InOrder g s) (hover : s.phase.isOver = false) (line : String) :
    Heard g s line (s.hear g line).1 (s.hear g line).2 ∨
      Lost g s line (s.hear g line).1 (s.hear g line).2 := by
  rcases h.cases hover with ⟨t, n, hphase, ht⟩ | ⟨outcome, hphase⟩
  · refine .inl ?_
    cases hline : Solution.ofText? (Blank.trimmed line) with
    | none =>
      simp only [Session.hear, hphase, hearSolution, Attempt.submit, hline]
      exact .turnedAway hphase ht hline
    | some solution =>
      have hconclude := conclude_resolving (g := g) (s := s) (n := n) (hg t (List.mem_of_getElem? ht))
        (rfl : Attempt.reportOn g.judge s.judge solution (fill t.code solution.bytes) n = _)
      simp only [Session.hear, hphase, hearSolution, Attempt.submit, hline, hconclude]
      exact .taken hphase ht hline rfl
  · simp only [Session.hear, hphase, hearAnswer]
    cases hline : answer? line with
    | none => exact .inl (.unclear hphase hline)
    | some goesOn =>
      cases goesOn with
      | false => exact .inl (.no hphase hline)
      | true =>
        cases outcome with
        | rejected =>
          obtain ⟨t, ht⟩ := Corpus.exists_get? h.index_lt
          simp only [beginRound_of_get? ht]
          exact .inl (.again hphase hline ht)
        | solved =>
          -- Only here is a puzzle picked.
          obtain ⟨⟨index, picker⟩, hpick⟩ : ∃ picked, g.pick s.picker g.corpus.size = picked :=
            ⟨_, rfl⟩
          cases ht : g.corpus.get? index with
          | none =>
            simp only [nextPuzzle, hpick, beginRound, Score.advance, ht]
            exact .inr (.next hphase hline hpick ht)
          | some t =>
            have hround := beginRound_of_get? (g := g)
              (s := { s with picker, score := s.score.advance index }) ht
            simp only [nextPuzzle, hpick, hround]
            exact .inl (.next hphase hline hpick ht)

/-- Hearing a line does one of the six things, as long as the session waits for
something. -/
theorem InOrder.hear {g : Game π σ} (hg : g.Fair) {s : Session π σ} (h : InOrder g s)
    (hover : s.phase.isOver = false) (line : String) :
    Heard g s line (s.hear g line).1 (s.hear g line).2 := by
  rcases h.hear_or_lost hg.playable hover line with hheard | hlost
  · exact hheard
  · obtain ⟨index, picker, t, hpick, ht⟩ := hg.exists_pick s.picker
    have hnone := hlost.get?_eq_none
    simp [hpick, ht] at hnone

/-- Each of the six things keeps a session in order. -/
theorem Heard.inOrder {g : Game π σ} {s s' : Session π σ} {line : String} {events : List Event}
    (hs : InOrder g s) (h : Heard g s line events s') : InOrder g s' := by
  cases h with
  | turnedAway hphase ht hline => exact inOrder_of_solving ht rfl
  | taken hphase ht hline hreport => exact inOrder_of_asking hs.index_lt rfl
  | unclear hphase hline => exact hs
  | no hphase hline => exact inOrder_of_closed hs.index_lt rfl
  | again hphase hline ht => exact inOrder_of_solving ht rfl
  | next hphase hline hpick ht => exact inOrder_of_solving ht rfl

/-! ## Whole sessions -/

/-- The beginning of a session whose first puzzle is in the corpus. -/
theorem start_of_get? {g : Game π σ} {picker next : π} {index : Nat} {t : Template}
    (hpick : g.pick picker g.corpus.size = (index, next)) (ht : g.corpus.get? index = some t)
    (judge : σ) :
    start g picker judge =
      (.shown .welcome :: .drew index :: roundEvents 1 t,
        ⟨next, judge, .start index, .solving (.start t)⟩) := by
  have hround := beginRound_of_get? (g := g)
    (s := (⟨next, judge, .start index, .closed⟩ : Session π σ)) ht
  simp only [start, hpick, hround]
  rfl

/-- The beginning of a session of a fair game. -/
theorem start_eq {g : Game π σ} (hg : g.Fair) (picker : π) (judge : σ) :
    ∃ index next t, g.pick picker g.corpus.size = (index, next) ∧
      g.corpus.get? index = some t ∧
      start g picker judge =
        (.shown .welcome :: .drew index :: roundEvents 1 t,
          ⟨next, judge, .start index, .solving (.start t)⟩) := by
  obtain ⟨index, next, t, hpick, ht⟩ := hg.exists_pick picker
  exact ⟨index, next, t, hpick, ht, start_of_get? hpick ht judge⟩

/-- The beginning of a session whose first puzzle is not in the corpus. -/
theorem start_of_none {g : Game π σ} {picker next : π} {index : Nat}
    (hpick : g.pick picker g.corpus.size = (index, next)) (hnone : g.corpus.get? index = none)
    (judge : σ) :
    start g picker judge =
      ([.shown .welcome, .drew index],
        ⟨next, judge, .start index, .failed (.noSuchPuzzle index)⟩) := by
  simp only [start, hpick, beginRound, Score.start, hnone]

theorem inOrder_start {g : Game π σ} (hg : g.Fair) (picker : π) (judge : σ) :
    InOrder g (start g picker judge).2 := by
  obtain ⟨index, next, t, _, ht, hstart⟩ := start_eq hg picker judge
  rw [hstart]
  exact inOrder_of_solving ht rfl

/-- A session that is over hears nothing. -/
theorem hear_of_isOver (g : Game π σ) {s : Session π σ} (h : s.phase.isOver = true)
    (line : String) : s.hear g line = ([], s) := by
  unfold hear
  split
  · rename_i a hphase
    simp [hphase, Phase.isOver] at h
  · rename_i outcome hphase
    simp [hphase, Phase.isOver] at h
  · rfl

theorem InOrder.leave {g : Game π σ} {s : Session π σ} (h : InOrder g s) :
    InOrder g s.leave.2 := by
  unfold Session.leave
  split
  · exact h
  · exact inOrder_of_closed h.index_lt rfl

/-- The session is in order as long as it waits for something.  This is what holds
of all sessions if the picker may leave the corpus. -/
def Steady (g : Game π σ) (s : Session π σ) : Prop :=
  s.phase.isOver = false → InOrder g s

/-- A session begins with a puzzle of the corpus, or it breaks off at once. -/
theorem start_cases (g : Game π σ) (picker : π) (judge : σ) :
    (∃ index next t, g.corpus.get? index = some t ∧
      start g picker judge =
        (.shown .welcome :: .drew index :: roundEvents 1 t,
          ⟨next, judge, .start index, .solving (.start t)⟩)) ∨
      ∃ index next, start g picker judge =
        ([.shown .welcome, .drew index],
          ⟨next, judge, .start index, .failed (.noSuchPuzzle index)⟩) := by
  obtain ⟨⟨index, next⟩, hpick⟩ : ∃ picked, g.pick picker g.corpus.size = picked := ⟨_, rfl⟩
  cases ht : g.corpus.get? index with
  | none => exact .inr ⟨index, next, start_of_none hpick ht judge⟩
  | some t => exact .inl ⟨index, next, t, ht, start_of_get? hpick ht judge⟩

theorem steady_start (g : Game π σ) (picker : π) (judge : σ) :
    Steady g (start g picker judge).2 := by
  intro hover
  rcases start_cases g picker judge with ⟨index, next, t, ht, hstart⟩ | ⟨index, next, hstart⟩
  · rw [hstart]
    exact inOrder_of_solving ht rfl
  · rw [hstart] at hover
    simp [Phase.isOver] at hover

/-- A line has no effect on a steady session that is over, and otherwise it does one of
the six things or leads out of the corpus. -/
theorem Steady.hear_cases {g : Game π σ} (hg : ∀ t ∈ g.corpus.templates, t.Playable)
    {s : Session π σ} (h : Steady g s) (line : String) :
    (s.phase.isOver = true ∧ s.hear g line = ([], s)) ∨
      s.phase.isOver = false ∧
        (Heard g s line (s.hear g line).1 (s.hear g line).2 ∨
          Lost g s line (s.hear g line).1 (s.hear g line).2) := by
  cases hover : s.phase.isOver with
  | true => exact .inl ⟨rfl, hear_of_isOver g hover line⟩
  | false => exact .inr ⟨rfl, (h hover).hear_or_lost hg hover line⟩

theorem Steady.hear {g : Game π σ} (hg : ∀ t ∈ g.corpus.templates, t.Playable)
    {s : Session π σ} (h : Steady g s) (line : String) : Steady g (s.hear g line).2 := by
  rcases h.hear_cases hg line with ⟨_, hstays⟩ | ⟨hover, hheard | hlost⟩
  · rw [hstays]
    exact h
  · exact fun _ => hheard.inOrder (h hover)
  · intro hwaits
    rw [hlost.phase_eq] at hwaits
    simp [Phase.isOver] at hwaits

/-- The sessions that come about: the first one, and those after a line or after
the end of the lines. -/
inductive Reachable (g : Game π σ) (picker : π) (judge : σ) : Session π σ → Prop where
  | start : Reachable g picker judge (start g picker judge).2
  | hear {s : Session π σ} (line : String) :
      Reachable g picker judge s → Reachable g picker judge (s.hear g line).2
  | leave {s : Session π σ} :
      Reachable g picker judge s → Reachable g picker judge s.leave.2

/-- Every session that comes about in a fair game is in order. -/
theorem Reachable.inOrder {g : Game π σ} (hg : g.Fair) {picker : π} {judge : σ}
    {s : Session π σ} (h : Reachable g picker judge s) : InOrder g s := by
  induction h with
  | start => exact inOrder_start hg picker judge
  | @hear s line _ ih =>
    cases hover : s.phase.isOver with
    | true =>
      rw [hear_of_isOver g hover]
      exact ih
    | false => exact (ih.hear hg hover line).inOrder ih
  | leave _ ih => exact ih.leave

end Session
end MakeTen
