import MakeTen.Proofs.Play.Interruptions
/-!
# Sessions follow from their lines

What can happen when a session hears a line is a relation, and what does happen is a
function.  The two say the same: the session after some lines, and everything that has
happened by then, follow from the lines.  Lines that nobody hears any more make no
difference.

Main results:

- Theorem `Session.Heard.hear_eq`: hearing a line does what the relation says.
- Theorem `Session.Played.hearAll_eq`: so do all the lines of a session.
- Theorem `Session.played_of_hearAll`: a session that still waits after some lines has been
  played with them.
- Theorem `Playthrough.continueWith_of_over`: what comes after the last line that is
  heard makes no difference.
-/

namespace MakeTen

variable {π σ : Type}

namespace Session

variable {g : Game π σ} {picker : π} {judge : σ} {lines : List String} {events more : List Event}
  {s s' : Session π σ} {line : String}

/-! ## Hearing lines -/

/-- Hearing a line does what the relation says, and nothing else. -/
theorem Heard.hear_eq (hg : ∀ t ∈ g.corpus.templates, t.Playable) (h : Heard g s line more s') :
    s.hear g line = (more, s') := by
  cases h with
  | turnedAway hphase ht hline =>
    simp only [hear, hphase, hearSolution, Attempt.submit, hline]
  | @taken t n solution report hphase ht hline hreport =>
    have hconclude := conclude_resolving (hg t (List.mem_of_getElem? ht)) hreport
    simp only [hear, hphase, hearSolution, Attempt.submit, hline, hconclude, List.singleton_append]
  | unclear hphase hline => simp only [hear, hphase, hearAnswer, hline]
  | no hphase hline => simp only [hear, hphase, hearAnswer, hline]
  | again hphase hline ht => simp only [hear, hphase, hearAnswer, hline, beginRound_of_get? ht]
  | @next t index next hphase hline hpick ht =>
    have hround := beginRound_of_get? (g := g)
      (s := { s with picker := next, score := s.score.advance index }) ht
    simp only [hear, hphase, hearAnswer, hline]
    simp only [nextPuzzle, hpick, hround]
    rfl

/-- Hearing lines in two parts. -/
theorem hearAll_append (g : Game π σ) (s : Session π σ) (lines more : List String) :
    s.hearAll g (lines ++ more) =
      ((s.hearAll g lines).1 ++ ((s.hearAll g lines).2.hearAll g more).1,
        ((s.hearAll g lines).2.hearAll g more).2) := by
  induction lines generalizing s with
  | nil => rfl
  | cons line lines ih => simp only [List.cons_append, hearAll, ih, List.append_assoc]

/-- What has been played follows from the lines. -/
theorem Played.hearAll_eq (hg : ∀ t ∈ g.corpus.templates, t.Playable)
    (h : Played g picker judge lines events s) :
    (Session.start g picker judge).1 ++ ((Session.start g picker judge).2.hearAll g lines).1 =
        events ∧
      ((Session.start g picker judge).2.hearAll g lines).2 = s := by
  induction h with
  | start hpick ht =>
    rw [start_of_get? hpick ht, hearAll, List.append_nil]
    exact ⟨rfl, rfl⟩
  | @hear lines events more s s' line hplayed hheard ih =>
    obtain ⟨hevents, hlast⟩ := ih
    have hone : s.hearAll g [line] = (more, s') := by
      simp only [hearAll, hheard.hear_eq hg, List.append_nil]
    rw [hearAll_append, hlast, hone, ← List.append_assoc, hevents]
    exact ⟨rfl, rfl⟩

/-- A session that still waits after some lines has waited before them. -/
theorem isOver_eq_false_of_hearAll (h : (s.hearAll g lines).2.phase.isOver = false) :
    s.phase.isOver = false := by
  cases hover : s.phase.isOver with
  | false => rfl
  | true => rwa [hearAll_of_isOver g hover, hover] at h

/-- Lines after which a session still waits have all been played. -/
theorem Played.hearAll (hg : ∀ t ∈ g.corpus.templates, t.Playable)
    (h : Played g picker judge lines events s) {later : List String}
    (hwaits : (s.hearAll g later).2.phase.isOver = false) :
    Played g picker judge (lines ++ later) (events ++ (s.hearAll g later).1)
      (s.hearAll g later).2 := by
  induction later generalizing lines events s with
  | nil =>
    rw [Session.hearAll, List.append_nil, List.append_nil]
    exact h
  | cons line later ih =>
    have hnext : (s.hear g line).2.phase.isOver = false := isOver_eq_false_of_hearAll hwaits
    rcases h.inOrder.hear_or_lost hg (isOver_eq_false_of_hearAll hwaits) line with hheard | hlost
    · have hplayed := ih (h.hear hheard) hwaits
      rw [List.append_assoc, List.append_assoc] at hplayed
      exact hplayed
    · rw [hlost.phase_eq] at hnext
      simp [Phase.isOver] at hnext

/-- The session that still waits after some lines has been played with them. -/
theorem played_of_hearAll (hg : ∀ t ∈ g.corpus.templates, t.Playable)
    (hwaits : ((Session.start g picker judge).2.hearAll g lines).2.phase.isOver = false) :
    Played g picker judge lines
      ((Session.start g picker judge).1 ++ ((Session.start g picker judge).2.hearAll g lines).1)
      ((Session.start g picker judge).2.hearAll g lines).2 := by
  obtain ⟨⟨index, next⟩, hpick⟩ : ∃ picked, g.pick picker g.corpus.size = picked := ⟨_, rfl⟩
  cases ht : g.corpus.get? index with
  | none =>
    have hover := isOver_eq_false_of_hearAll hwaits
    rw [start_of_none hpick ht] at hover
    simp [Phase.isOver] at hover
  | some t =>
    rw [start_of_get? hpick ht] at hwaits ⊢
    exact (Played.start hpick ht).hearAll hg hwaits

end Session

namespace Playthrough

variable {g : Game π σ}

/-- Once a session is over, it makes no difference which lines are left and how the
stream ends. -/
theorem continueWith_of_over {s : Session π σ} {lines : List String}
    (h : (s.hearAll g lines).2.phase.isOver = true) (ending ending' : Ending) (t : Terminal)
    (more more' : List String) :
    continueWith g ending s t (lines ++ more) = continueWith g ending' s t (lines ++ more') := by
  induction lines generalizing s t with
  | nil =>
    rw [Session.hearAll] at h
    obtain ⟨result, hresult⟩ := continueWith_of_isOver (g := g) h
    rw [hresult, hresult]
  | cons line lines ih =>
    simp only [List.cons_append, continueWith]
    cases result? s with
    | some result => rfl
    | none =>
      have hnext : ∀ rest, continueWith g ending (s.hear g line).2 rest (lines ++ more) =
          continueWith g ending' (s.hear g line).2 rest (lines ++ more') := ih h
      simp only [hnext]

/-- Nor does it for a whole playthrough. -/
theorem run_of_over {picker : π} {judge : σ} {input input' : Input} {lines more more' : List String}
    (h : ((Session.start g picker judge).2.hearAll g lines).2.phase.isOver = true)
    (hlines : input.lines = lines ++ more) (hlines' : input'.lines = lines ++ more')
    (t : Terminal) : run g picker judge input t = run g picker judge input' t := by
  simp only [run, hlines, hlines', continueWith_of_over h input.ending input'.ending _ more more']

end Playthrough
end MakeTen
