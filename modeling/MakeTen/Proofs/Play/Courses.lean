import MakeTen.Proofs.Play.Faults
/-!
# Playthroughs that come to their end

A playthrough that comes to its end has shown everything that happened, and what
happened is a session played line by line: it started with a puzzle of the
corpus, each line that was heard did one of the six things, and at the end the
player had left or the lines had run out.

Nothing is asked of the picker here.  A picker that leaves the corpus breaks the
session off, so a playthrough that comes to its end has not met one.

Main results:

- Relation `Session.Played`: the sessions that playing leads to, with the lines
  heard and the events on the way.
- Structure `Playthrough.Concludes`: a playthrough that ends with such a session.
- Theorem `Playthrough.exists_played_of_ok`: every playthrough that comes to its
  end is one.
-/

namespace MakeTen

variable {π σ : Type}

/-! ## Games with a record -/

/-- The same game, with a judge that writes down its runs. -/
def Game.recorded (g : Game π σ) : Game π (σ × List (List UInt8 × Verdict)) where
  corpus := g.corpus
  pick := g.pick
  judge := g.judge.recorded

@[simp]
theorem Game.corpus_recorded (g : Game π σ) : g.recorded.corpus = g.corpus := rfl

@[simp]
theorem Game.pick_recorded (g : Game π σ) : g.recorded.pick = g.pick := rfl

/-- A game with one puzzle, three slots and nothing else, a picker that counts its
picks, and prepared verdicts. -/
def Game.sample : Game Nat (List Verdict) where
  corpus := ⟨[⟨0, [0xCC, 0xCC, 0xCC],
    [.bare 0 placeholder, .bare 1 placeholder, .bare 2 placeholder]⟩]⟩
  pick := fun picks n => (picks % n, picks + 1)
  judge := Judge.scripted

theorem Game.ofTexts_sample : Corpus.ofTexts ["0xXXXXXX"] = .ok Game.sample.corpus := by
  decide +kernel

namespace Session

/-! ## Playing line by line -/

/-- The sessions that playing leads to, each with the lines that have been heard
and the events that have happened on the way. -/
inductive Played (g : Game π σ) (picker : π) (judge : σ) :
    List String → List Event → Session π σ → Prop where
  | start {index : Nat} {next : π} {t : Template}
      (hpick : g.pick picker g.corpus.size = (index, next))
      (ht : g.corpus.get? index = some t) :
      Played g picker judge [] (.shown .welcome :: .drew index :: roundEvents 1 t)
        ⟨next, judge, .start index, .solving (.start t)⟩
  | hear {lines : List String} {events more : List Event} {s s' : Session π σ} {line : String}
      (hplayed : Played g picker judge lines events s) (hheard : Heard g s line more s') :
      Played g picker judge (lines ++ [line]) (events ++ more) s'

variable {g : Game π σ} {picker : π} {judge : σ} {lines : List String} {events : List Event}
  {s : Session π σ}

/-- Every session that playing leads to is in order. -/
theorem Played.inOrder (h : Played g picker judge lines events s) : InOrder g s := by
  induction h with
  | start hpick ht => exact inOrder_of_solving ht rfl
  | hear hplayed hheard ih => exact hheard.inOrder ih

/-- A session in order that is over has been left by the player. -/
theorem InOrder.phase_eq_closed (h : InOrder g s) (hover : s.phase.isOver = true) :
    s.phase = .closed := by
  cases hphase : s.phase with
  | closed => rfl
  | failed fault => exact absurd hphase (h.not_failed fault)
  | _ =>
    rw [hphase] at hover
    simp [Phase.isOver] at hover

/-- A session whose first puzzle is not in the corpus breaks off at once. -/
theorem phase_start_of_none (h : g.corpus.get? (g.pick picker g.corpus.size).1 = none)
    (judge : σ) :
    (start g picker judge).2.phase = .failed (.noSuchPuzzle (g.pick picker g.corpus.size).1) := by
  simp only [start, beginRound, Score.start, h]

/-- A session that is over shows nothing when the lines run out. -/
theorem leave_of_isOver (h : s.phase.isOver = true) : s.leave = ([], s) := by
  rw [leave, if_pos h]

/-- A session that waits for a line takes its leave when the lines run out. -/
theorem leave_of_not_isOver (h : s.phase.isOver = false) :
    s.leave = ([.shown .farewell], { s with phase := .closed }) := by
  rw [leave, if_neg (by simp [h])]

end Session

namespace Playthrough

variable {g : Game π σ} {picker : π} {judge : σ} {ending : Ending} {score : Score}

/-! ## What has been shown -/

/-- A display in front of a playthrough that comes to its end went through as a
whole. -/
theorem exists_rest_of_showThen {t : Terminal} {events : List Event} {s : Session π σ}
    {next : Terminal → Playthrough σ} (h : (showThen t events s next).result = .ok score) :
    ∃ rest, rest.colored = t.colored ∧ (next rest).result = .ok score ∧
      showThen t events s next =
        after events (events.flatMap (Event.output t.colored)) (next rest) := by
  unfold showThen at h ⊢
  cases hrest : (t.deliver events).rest with
  | error reason => simp [hrest] at h
  | ok rest =>
    obtain ⟨hevents, houtput, ht⟩ := Terminal.deliver_of_ok hrest
    simp only [hrest] at h ⊢
    refine ⟨rest, by rw [ht, Terminal.colored_extended], h, ?_⟩
    rw [hevents, houtput]

/-- Nothing comes of a session that has broken off. -/
theorem result_continueWith_of_failed {s : Session π σ} {fault : SessionFault}
    (hphase : s.phase = .failed fault) (t : Terminal) (lines : List String) :
    (continueWith g ending s t lines).result = .error fault := by
  have hresult : result? s = some (.error fault) := by simp only [result?, hphase]
  cases lines <;> simp only [continueWith, hresult, ofSession]

/-! ## How a playthrough ends -/

/-- The playthrough ends with the session, after the events: the player has left,
or the lines have run out; what happened has been shown, up to the farewell. -/
structure Concludes (ending : Ending) (colored : Bool) (unheard : List String)
    (events : List Event) (s : Session π σ) (p : Playthrough σ) : Prop where
  /-- The player has left, or there is no line any more. -/
  ended : s.phase = .closed ∨ (unheard = [] ∧ ending = .exhausted)
  judge_eq : p.judge = s.judge
  /-- The events of the playthrough, up to the farewell. -/
  events_eq : p.events = events ++ s.leave.1
  output_eq : p.output = p.events.flatMap (Event.output colored)

/-- The farewell adds nothing to what is not about it. -/
theorem Concludes.filterMap_eq {colored : Bool} {unheard : List String} {events : List Event}
    {s : Session π σ} {p : Playthrough σ} (h : Concludes ending colored unheard events s p)
    {α : Type} {f : Event → Option α} (hf : f (.shown .farewell) = none) :
    p.events.filterMap f = events.filterMap f := by
  rw [h.events_eq, List.filterMap_append]
  cases hover : s.phase.isOver with
  | true => rw [Session.leave_of_isOver hover, List.filterMap_nil, List.append_nil]
  | false => simp [Session.leave_of_not_isOver hover, hf]

/-- A playthrough with something in front ends in the same way. -/
theorem Concludes.after {colored : Bool} {unheard : List String} {before events : List Event}
    {s : Session π σ} {p : Playthrough σ} (h : Concludes ending colored unheard events s p) :
    Concludes ending colored unheard (before ++ events) s
      (after before (before.flatMap (Event.output colored)) p) where
  ended := h.ended
  judge_eq := h.judge_eq
  events_eq := by
    simp only [Playthrough.after]
    rw [h.events_eq, List.append_assoc]
  output_eq := by
    simp only [Playthrough.after]
    rw [h.output_eq, List.flatMap_append]

/-- A session that the player has left ends the playthrough. -/
theorem concludes_of_closed {s : Session π σ} (hphase : s.phase = .closed) (colored : Bool)
    (unheard : List String) (result : Except SessionFault Score) :
    Concludes ending colored unheard [] s (ofSession s result) where
  ended := .inl hphase
  judge_eq := rfl
  events_eq := by
    rw [Session.leave_of_isOver (by rw [hphase]; rfl)]
    rfl
  output_eq := rfl

/-- A session without more lines ends the playthrough with its farewell. -/
theorem concludes_of_leave {s : Session π σ} (hover : s.phase.isOver = false) (colored : Bool)
    (result : Except SessionFault Score) :
    Concludes .exhausted colored [] [] s
      (after s.leave.1 (s.leave.1.flatMap (Event.output colored)) (ofSession s.leave.2 result)) where
  ended := .inr ⟨rfl, rfl⟩
  judge_eq := by
    rw [Session.leave_of_not_isOver hover]
    rfl
  events_eq := List.append_nil _
  output_eq := by
    simp only [Playthrough.after, ofSession, List.append_nil]

/-- Going on with a session that has been played, to the end, is playing on. -/
theorem exists_played_of_continueWith (hg : ∀ t ∈ g.corpus.templates, t.Playable)
    {heard lines : List String} {events : List Event} {s : Session π σ} {t : Terminal}
    (hplayed : Session.Played g picker judge heard events s)
    (h : (continueWith g ending s t lines).result = .ok score) :
    ∃ more unheard later last, lines = more ++ unheard ∧
      Session.Played g picker judge (heard ++ more) (events ++ later) last ∧
      last.score = score ∧
      Concludes ending t.colored unheard later last (continueWith g ending s t lines) := by
  have hstays : Session.Played g picker judge (heard ++ []) (events ++ []) s := by
    simpa only [List.append_nil] using hplayed
  induction lines generalizing heard events s t with
  | nil =>
    cases hover : s.phase.isOver with
    | true =>
      simp only [continueWith, exists_score_of_isOver hplayed.inOrder hover] at h ⊢
      have hscore : s.score = score := by simpa [ofSession] using h
      exact ⟨[], [], [], s, rfl, hstays, hscore,
        concludes_of_closed (hplayed.inOrder.phase_eq_closed hover) t.colored [] _⟩
    | false =>
      simp only [continueWith, result?_eq_none hover] at h ⊢
      cases ending with
      | broken reason => simp [ofSession] at h
      | exhausted =>
        obtain ⟨_, _, hresult, hshow⟩ := exists_rest_of_showThen h
        have hscore : s.score = score := by
          rw [Session.leave_of_not_isOver hover] at hresult
          simpa [ofSession] using hresult
        rw [hshow]
        exact ⟨[], [], [], s, rfl, hstays, hscore, concludes_of_leave hover t.colored _⟩
  | cons line lines ih =>
    cases hover : s.phase.isOver with
    | true =>
      simp only [continueWith, exists_score_of_isOver hplayed.inOrder hover] at h ⊢
      have hscore : s.score = score := by simpa [ofSession] using h
      exact ⟨[], line :: lines, [], s, rfl, hstays, hscore,
        concludes_of_closed (hplayed.inOrder.phase_eq_closed hover) t.colored _ _⟩
    | false =>
      simp only [continueWith, result?_eq_none hover] at h ⊢
      obtain ⟨rest, hcolored, hresult, hshow⟩ := exists_rest_of_showThen h
      rcases hplayed.inOrder.hear_or_lost hg hover line with hheard | hlost
      · have hnext := hplayed.hear hheard
        obtain ⟨more, unheard, later, last, rfl, hlast, hscore, hconcludes⟩ :=
          ih hnext hresult (by simpa only [List.append_nil] using hnext)
        rw [hshow]
        refine ⟨line :: more, unheard, _, last, rfl, ?_, hscore, (hcolored ▸ hconcludes).after⟩
        simpa only [List.append_assoc, List.singleton_append] using hlast
      · rw [result_continueWith_of_failed hlost.phase_eq] at hresult
        simp at hresult

/-- A playthrough that comes to its end is a session played to its end, with the
score of that session. -/
theorem exists_played_of_ok (hg : ∀ t ∈ g.corpus.templates, t.Playable) {input : Input}
    {t : Terminal} (h : (run g picker judge input t).result = .ok score) :
    ∃ lines unheard events last, input.lines = lines ++ unheard ∧
      Session.Played g picker judge lines events last ∧ last.score = score ∧
      Concludes input.ending t.colored unheard events last (run g picker judge input t) := by
  have hrun : run g picker judge input t =
      showThen t (Session.start g picker judge).1 (Session.start g picker judge).2 fun t =>
        continueWith g input.ending (Session.start g picker judge).2 t input.lines := rfl
  rw [hrun] at h ⊢
  obtain ⟨rest, hcolored, hresult, hshow⟩ := exists_rest_of_showThen h
  rw [hshow]
  obtain ⟨⟨index, next⟩, hpick⟩ : ∃ picked, g.pick picker g.corpus.size = picked := ⟨_, rfl⟩
  cases ht : g.corpus.get? index with
  | none =>
    have hnone : g.corpus.get? (g.pick picker g.corpus.size).1 = none := by rw [hpick, ht]
    rw [result_continueWith_of_failed (Session.phase_start_of_none hnone judge)] at hresult
    simp at hresult
  | some first =>
    have hplayed : Session.Played g picker judge [] _ _ := .start hpick ht
    have hstart := Session.start_of_get? hpick ht judge
    rw [hstart] at hresult ⊢
    obtain ⟨more, unheard, later, last, hlines, hlast, hscore, hconcludes⟩ :=
      exists_played_of_continueWith hg hplayed hresult
    exact ⟨more, unheard, _, last, hlines, hlast, hscore, (hcolored ▸ hconcludes).after⟩

end Playthrough
end MakeTen
