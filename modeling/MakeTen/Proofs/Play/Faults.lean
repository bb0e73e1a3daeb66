import MakeTen.Play.Playthrough
import MakeTen.Proofs.Play.Sessions
import MakeTen.Proofs.Play.Terminals
/-!
# What can go wrong in a playthrough

A playthrough of a fair game comes to its end unless its input breaks or its
terminal gives out.  The puzzles, the picker and the judge have no part in it:
whatever they do, the session never breaks off by itself.

Main results:

- Predicate `Playthrough.GoesThrough`: a playthrough that only its input and its
  terminal can cut short.
- Theorem `Playthrough.continueWith_goesThrough`: going on with a session in
  order is one.
- Theorem `Playthrough.run_fails_on_terminal_only`: so is playing from the
  beginning, and no session on the way is about to break off.
-/

namespace MakeTen

variable {π σ : Type}

/-! ## Lines heard -/

/-- Whether an event is that a line is heard. -/
def Event.isHeard : Event → Bool
  | .heard _ _ => true
  | _ => false

namespace Session

variable {g : Game π σ} {s s' : Session π σ}

/-- Hearing a line is one event among those that go with it. -/
theorem Heard.countP_isHeard {line : String} {events : List Event}
    (h : Heard g s line events s') : events.countP Event.isHeard = 1 := by
  cases h <;> rfl

theorem countP_isHeard_leave (s : Session π σ) : s.leave.1.countP Event.isHeard = 0 := by
  unfold leave
  split <;> rfl

end Session

namespace Playthrough

/-! ## Playthroughs that are not cut short by the game -/

/-- The playthrough comes to its end, or it is cut short in one of three ways:
the input breaks after all of its lines, the room of the terminal is used up, or
its flushes are. -/
def GoesThrough (ending : Ending) (lines : Nat) (t : Terminal) (p : Playthrough σ) : Prop :=
  (∃ score, p.result = .ok score) ∨
    ∃ reason, p.result = .error (.terminal reason) ∧
      ((ending = .broken reason ∧ p.events.countP Event.isHeard = lines) ∨
        t.GivesOut p.output.length (p.events.countP Event.isFlushed) reason)

variable {ending : Ending} {lines : Nat}

/-- What follows a display is cut short by what is left of the terminal. -/
theorem GoesThrough.after {t rest : Terminal} {events : List Event} {output : List UInt8}
    {p : Playthrough σ} (h : GoesThrough ending lines rest p)
    (ht : t = rest.extended output.length (events.countP Event.isFlushed)) :
    GoesThrough ending (events.countP Event.isHeard + lines) t (after events output p) := by
  rcases h with hscore | ⟨reason, hresult, ⟨hending, hheard⟩ | hgives⟩
  · exact .inl hscore
  · refine .inr ⟨reason, hresult, .inl ⟨hending, ?_⟩⟩
    rw [← hheard]
    exact List.countP_append
  · refine .inr ⟨reason, hresult, .inr ?_⟩
    have hmore := hgives.extended output.length (events.countP Event.isFlushed)
    rw [← ht, ← List.length_append, ← List.countP_append] at hmore
    exact hmore

/-- Showing something cuts nothing short unless the terminal gives out. -/
theorem showThen_goesThrough {t : Terminal} {events : List Event} {s : Session π σ}
    {next : Terminal → Playthrough σ} (h : ∀ rest, GoesThrough ending lines rest (next rest)) :
    GoesThrough ending (events.countP Event.isHeard + lines) t (showThen t events s next) := by
  unfold showThen
  cases hrest : (t.deliver events).rest with
  | error reason =>
    simp only [hrest]
    exact .inr ⟨reason, rfl, .inr (Terminal.deliver_of_error hrest)⟩
  | ok rest =>
    simp only [hrest]
    obtain ⟨hevents, _, ht⟩ := Terminal.deliver_of_ok hrest
    rw [hevents]
    exact (h rest).after ht

/-- A session in order that is over came to its end. -/
theorem exists_score_of_isOver {g : Game π σ} {s : Session π σ} (h : s.InOrder g)
    (hover : s.phase.isOver = true) : result? s = some (.ok s.score) := by
  cases hphase : s.phase with
  | closed => simp only [result?, hphase]
  | failed fault => exact absurd hphase (h.not_failed fault)
  | _ =>
    rw [hphase] at hover
    simp [Phase.isOver] at hover

theorem result?_eq_none {s : Session π σ} (hover : s.phase.isOver = false) :
    result? s = none := by
  cases hphase : s.phase with
  | solving a => simp only [result?, hphase]
  | asking outcome => simp only [result?, hphase]
  | _ =>
    rw [hphase] at hover
    simp [Phase.isOver] at hover

/-- Going on with a session in order is cut short by its input and its terminal
only. -/
theorem continueWith_goesThrough {g : Game π σ} (hg : g.Fair) (ending : Ending)
    {s : Session π σ} (hs : s.InOrder g) (t : Terminal) (lines : List String) :
    GoesThrough ending lines.length t (continueWith g ending s t lines) := by
  induction lines generalizing s t with
  | nil =>
    cases hover : s.phase.isOver with
    | true =>
      simp only [continueWith, exists_score_of_isOver hs hover]
      exact .inl ⟨s.score, rfl⟩
    | false =>
      cases ending with
      | broken reason =>
        simp only [continueWith, result?_eq_none hover]
        exact .inr ⟨reason, rfl, .inl ⟨rfl, rfl⟩⟩
      | exhausted =>
        have hleave : GoesThrough .exhausted (s.leave.1.countP Event.isHeard + 0) t
            (showThen t s.leave.1 s.leave.2 fun _ => ofSession s.leave.2 (.ok s.leave.2.score)) :=
          showThen_goesThrough fun _ => .inl ⟨s.leave.2.score, rfl⟩
        rw [Session.countP_isHeard_leave] at hleave
        simp only [continueWith, result?_eq_none hover]
        exact hleave
  | cons line lines ih =>
    cases hover : s.phase.isOver with
    | true =>
      simp only [continueWith, exists_score_of_isOver hs hover]
      exact .inl ⟨s.score, rfl⟩
    | false =>
      have hheard := hs.hear hg hover line
      -- One line is heard here, and those of the rest come on top of it.
      have hshow : GoesThrough ending ((s.hear g line).1.countP Event.isHeard + lines.length) t
          (showThen t (s.hear g line).1 (s.hear g line).2 fun rest =>
            continueWith g ending (s.hear g line).2 rest lines) :=
        showThen_goesThrough fun rest => ih (hheard.inOrder hs) rest
      rw [hheard.countP_isHeard, Nat.add_comm] at hshow
      simp only [continueWith, result?_eq_none hover]
      exact hshow

/-- Playing from the beginning is cut short by the input and the terminal only. -/
theorem run_goesThrough {g : Game π σ} (hg : g.Fair) (picker : π) (judge : σ) (input : Input)
    (t : Terminal) :
    GoesThrough input.ending input.lines.length t (run g picker judge input t) := by
  obtain ⟨index, next, first, _, ht, hstart⟩ := Session.start_eq hg picker judge
  have hcount : (Session.start g picker judge).1.countP Event.isHeard = 0 := by
    rw [hstart]
    rfl
  have hshow : GoesThrough input.ending
      ((Session.start g picker judge).1.countP Event.isHeard + input.lines.length) t
      (run g picker judge input t) :=
    showThen_goesThrough fun rest => continueWith_goesThrough hg input.ending
      (Session.inOrder_start hg picker judge) rest input.lines
  rw [hcount, Nat.zero_add] at hshow
  exact hshow

/-! ## Main theorem -/

/-- A playthrough fails on its terminal only.

For every corpus that was read and every picker that stays within bounds,
whatever the judge answers: every session that comes about has its puzzle in the
corpus and has not broken off; an attempt that it waits for takes or turns away
every text, and what it takes is judged, and decodes afterwards.  So a
playthrough comes to its end, unless the input breaks after all of its lines, or
the terminal has sent as many bytes as it has room for, or it has been flushed as
often as it can be. -/
theorem run_fails_on_terminal_only {texts : List String} {g : Game π σ}
    (hcorpus : Corpus.ofTexts texts = .ok g.corpus)
    (hpick : ∀ picker n, 1 ≤ n → (g.pick picker n).1 < n) (picker : π) (judge : σ) :
    (∀ s, Session.Reachable g picker judge s →
      s.score.puzzleIndex < g.corpus.size ∧ (∀ fault, s.phase ≠ .failed fault) ∧
        ∀ a, s.phase = .solving a → ∀ text,
          (a.submit text).1 ≠ .ignored ∧
            ((a.submit text).1 = .accepted → ∃ report instructions,
              ((a.submit text).2.finish g.judge s.judge).1 = .ok report ∧
                disassemble report.resolved = .ok instructions)) ∧
    (∀ input t,
      let p := run g picker judge input t
      (∃ score, p.result = .ok score) ∨
        ∃ reason, p.result = .error (.terminal reason) ∧
          ((input.ending = .broken reason ∧
              p.events.countP Event.isHeard = input.lines.length) ∨
            t.room = some ⟨p.output.length, reason⟩ ∨
            t.flushes = some ⟨p.events.countP Event.isFlushed, reason⟩)) := by
  have hg := Game.fair_of_ofTexts hcorpus hpick
  refine ⟨?_, ?_⟩
  · intro s hs
    have horder := hs.inOrder hg
    refine ⟨horder.index_lt, horder.not_failed, ?_⟩
    rintro ⟨t, stage, n⟩ hphase text
    obtain ⟨hstage, ht⟩ := horder.awaiting _ hphase
    obtain rfl : stage = .awaiting := hstage
    have hplayable := hg.playable_of_get? ht
    cases htext : Solution.ofText? text with
    | none => simp [Attempt.submit, htext]
    | some solution =>
      have hfinish : Attempt.finish g.judge ⟨t, .resolving solution, n⟩ s.judge = _ :=
        Attempt.finish_resolving (hplayable.resolve_eq solution)
      simp only [Attempt.submit, htext, hfinish]
      exact ⟨by simp, fun _ => ⟨_, _, rfl, hplayable.disassemble_resolved solution⟩⟩
  · exact run_goesThrough hg picker judge

/-- One puzzle and a picker that counts its picks: the first attempt can be
finished once it has a solution, and no input makes a playthrough on a terminal
without limits fail. -/
theorem run_sample_succeeds :
    ∃ corpus t, Corpus.ofTexts ["0xXXXXXX"] = .ok corpus ∧
      let g : Game Nat (List Verdict) :=
        ⟨corpus, fun picks n => (picks % n, picks + 1), Judge.scripted⟩
      (Session.start g 0 [.ok true]).2.phase = .solving (.start t) ∧
        (∃ report instructions,
          (((Attempt.start t).submit "010203").2.finish g.judge [.ok true]).1 = .ok report ∧
            disassemble report.resolved = .ok instructions) ∧
        ∀ bytes, ∃ score,
          (run g 0 [.ok true] ⟨bytes, .exhausted⟩ ⟨false, none, none⟩).result = .ok score := by
  let t : Template :=
    ⟨0, [0xCC, 0xCC, 0xCC], [.bare 0 placeholder, .bare 1 placeholder, .bare 2 placeholder]⟩
  have hparse : CodeText.parse "0xXXXXXX" = .ok [0xCC, 0xCC, 0xCC] := by decide
  have ht : Template.ofText 0 "0xXXXXXX" = .ok t := by
    simp only [Template.ofText, hparse]
    exact Template.ofCode_eq_ok_iff.2 ⟨rfl, rfl, disassemble_eq_ok_iff.2 (by decide), by decide, rfl⟩
  have hcorpus : Corpus.ofTexts ["0xXXXXXX"] = .ok ⟨[t]⟩ := by
    simp only [Corpus.ofTexts, Corpus.readTemplates, ht]
    rfl
  refine ⟨⟨[t]⟩, t, hcorpus, ?_⟩
  intro g
  obtain ⟨hsessions, hruns⟩ := run_fails_on_terminal_only (g := g) hcorpus
    (fun picks n hn => Nat.mod_lt picks hn) 0 [.ok true]
  refine ⟨rfl, ?_, ?_⟩
  · exact ((hsessions _ .start).2.2 (.start t) rfl "010203").2 rfl
  · intro bytes
    rcases hruns ⟨bytes, .exhausted⟩ ⟨false, none, none⟩ with
      hscore | ⟨reason, _, ⟨hending, _⟩ | hroom | hflushes⟩
    · exact hscore
    · simp at hending
    · simp at hroom
    · simp at hflushes

end Playthrough
end MakeTen
