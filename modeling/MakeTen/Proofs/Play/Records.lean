import MakeTen.Proofs.Play.Scores
/-!
# Runs on record

A judge that writes down its runs has on record what the events of the
playthrough say, however the playthrough ends.  The reason is the order in which a
session does things: within a step it has the code judged before it shows anything.
A terminal fails at something that is shown, and so it never keeps an event about the
judge from going through.

Main results:

- Predicate `RunsFirst`: a step that judges before it shows.
- Theorems `Session.Heard.runsFirst`, `Session.Lost.runsFirst`: every step does.
- Theorem `Terminal.judgements_deliver`: what is judged goes through on every terminal.
- Theorem `Playthrough.onRecord_run`: on every terminal and for every input, the runs
  on record are those that happened.
-/

namespace MakeTen

variable {π σ : Type}

/-- Whether an event is that something is shown. -/
def Event.isShown : Event → Bool
  | .shown _ => true
  | _ => false

/-- What the events say of some runs of the judge: the code and the outcome. -/
def judgements (runs : List (List UInt8 × Verdict)) : List (List UInt8 × Outcome) :=
  runs.map fun run => (run.1, run.2.outcome)

theorem judgements_append (runs more : List (List UInt8 × Verdict)) :
    judgements (runs ++ more) = judgements runs ++ judgements more :=
  List.map_append

/-! ## Steps of a session -/

/-- The events of a step begin with those about the runs that come on record, before
anything is shown. -/
def RunsFirst (before : List (List UInt8 × Verdict)) (events : List Event)
    (after : List (List UInt8 × Verdict)) : Prop :=
  ∃ runs silent rest, after = before ++ runs ∧ events = silent ++ rest ∧
    (∀ e ∈ silent, e.isShown = false) ∧ silent.filterMap Event.judgement? = judgements runs ∧
    rest.filterMap Event.judgement? = []

/-- A step that judges nothing. -/
theorem runsFirst_of_no_judgement {log : List (List UInt8 × Verdict)} {events : List Event}
    (h : events.filterMap Event.judgement? = []) : RunsFirst log events log :=
  ⟨[], [], events, (List.append_nil log).symm, rfl, by simp, rfl, h⟩

namespace Session

variable {g : Game π σ} {s s' : Session π (σ × List (List UInt8 × Verdict))} {line : String}
  {events : List Event}

/-- A solution is judged before the report on it is shown; other lines have nothing
judged. -/
theorem Heard.runsFirst (h : Heard g.recorded s line events s') :
    RunsFirst s.judge.2 events s'.judge.2 := by
  cases h with
  | @taken t n solution report hphase ht hline hreport =>
    let code := fill t.code solution.bytes
    refine ⟨[(code, (g.judge.execute s.judge.1 code).1)],
      [.heard line (.taken solution), .judged report.resolved report.outcome], _, ?_, rfl, ?_, ?_,
      rfl⟩
    · rw [hreport]
      rfl
    · simp [Event.isShown]
    · rw [hreport]
      rfl
  | turnedAway => exact runsFirst_of_no_judgement rfl
  | unclear => exact runsFirst_of_no_judgement rfl
  | no => exact runsFirst_of_no_judgement rfl
  | again => exact runsFirst_of_no_judgement rfl
  | next => exact runsFirst_of_no_judgement rfl

theorem Lost.runsFirst (h : Lost g.recorded s line events s') :
    RunsFirst s.judge.2 events s'.judge.2 := by
  cases h with
  | next => exact runsFirst_of_no_judgement rfl

/-- Nothing is judged before the first line. -/
theorem runsFirst_start (g : Game π σ) (picker : π) (judge : σ) :
    RunsFirst [] (start g.recorded picker (judge, [])).1
      (start g.recorded picker (judge, [])).2.judge.2 := by
  rcases start_cases g.recorded picker (judge, []) with
    ⟨index, next, t, _, hstart⟩ | ⟨index, next, hstart⟩
  · rw [hstart]
    exact runsFirst_of_no_judgement rfl
  · rw [hstart]
    exact runsFirst_of_no_judgement rfl

/-- Nor when the lines have run out. -/
theorem runsFirst_leave (s : Session π (σ × List (List UInt8 × Verdict))) :
    RunsFirst s.judge.2 s.leave.1 s.leave.2.judge.2 := by
  unfold leave
  split
  · exact runsFirst_of_no_judgement rfl
  · exact runsFirst_of_no_judgement rfl

/-- A steady session judges before it shows, whatever it hears. -/
theorem Steady.runsFirst (hg : ∀ t ∈ g.corpus.templates, t.Playable) (h : Steady g.recorded s)
    (line : String) : RunsFirst s.judge.2 (s.hear g.recorded line).1
      (s.hear g.recorded line).2.judge.2 := by
  rcases h.hear_cases (g := g.recorded) hg line with ⟨_, hstays⟩ | ⟨_, hheard | hlost⟩
  · rw [hstays]
    exact runsFirst_of_no_judgement rfl
  · exact hheard.runsFirst
  · exact hlost.runsFirst

end Session

/-! ## What goes through -/

namespace Terminal

/-- An event that is not shown leaves a terminal as it is. -/
theorem display_of_not_isShown (t : Terminal) {event : Event} (h : event.isShown = false) :
    t.display event = ([], .ok t) := by
  obtain ⟨colored, room, flushes⟩ := t
  cases event with
  | shown display => simp [Event.isShown] at h
  | _ => cases room <;> simp [display, send, Event.output, Event.isFlushed]

/-- Events that are not shown go through before anything that is. -/
theorem deliver_append_of_not_isShown (t : Terminal) {silent : List Event}
    (h : ∀ e ∈ silent, e.isShown = false) (rest : List Event) :
    t.deliver (silent ++ rest) =
      ⟨silent ++ (t.deliver rest).events, (t.deliver rest).output, (t.deliver rest).rest⟩ := by
  induction silent with
  | nil => rfl
  | cons event silent ih =>
    rw [List.forall_mem_cons] at h
    rw [List.cons_append, deliver_cons_of_ok (t.display_of_not_isShown h.1), ih h.2]
    rfl

/-- What goes through comes first. -/
theorem prefix_deliver (t : Terminal) (events : List Event) :
    (t.deliver events).events <+: events := by
  induction events generalizing t with
  | nil => exact List.prefix_refl []
  | cons event events ih =>
    cases hdisplay : t.display event with
    | mk sent result =>
      cases result with
      | error reason =>
        rw [deliver_cons_of_error hdisplay]
        exact List.nil_prefix
      | ok rest =>
        rw [deliver_cons_of_ok hdisplay]
        exact (List.prefix_cons_inj event).2 (ih rest)

/-- All runs of a step go through, on every terminal. -/
theorem judgements_deliver (t : Terminal) {before after : List (List UInt8 × Verdict)}
    {events : List Event} (h : RunsFirst before events after) :
    ∃ runs, after = before ++ runs ∧
      (t.deliver events).events.filterMap Event.judgement? = judgements runs := by
  obtain ⟨runs, silent, rest, hafter, rfl, hsilent, hruns, hrest⟩ := h
  have hnone : (t.deliver rest).events.filterMap Event.judgement? = [] := by
    have hfirst := (t.prefix_deliver rest).filterMap Event.judgement?
    rw [hrest] at hfirst
    exact List.prefix_nil.1 hfirst
  refine ⟨runs, hafter, ?_⟩
  rw [t.deliver_append_of_not_isShown hsilent, List.filterMap_append, hruns, hnone,
    List.append_nil]

end Terminal

/-! ## Playthroughs -/

namespace Playthrough

/-- The playthrough has put on record the runs that its events say, after those that
were on record before. -/
def OnRecord (before : List (List UInt8 × Verdict))
    (p : Playthrough (σ × List (List UInt8 × Verdict))) : Prop :=
  ∃ runs, p.judge.2 = before ++ runs ∧ p.events.filterMap Event.judgement? = judgements runs

theorem onRecord_ofSession (s : Session π (σ × List (List UInt8 × Verdict)))
    (result : Except SessionFault Score) : OnRecord s.judge.2 (ofSession s result) :=
  ⟨[], (List.append_nil _).symm, rfl⟩

/-- A step that is shown puts its runs on record, whether or not the terminal goes
along. -/
theorem onRecord_showThen {before : List (List UInt8 × Verdict)} {t : Terminal}
    {events : List Event} {s : Session π (σ × List (List UInt8 × Verdict))}
    {next : Terminal → Playthrough (σ × List (List UInt8 × Verdict))}
    (h : RunsFirst before events s.judge.2) (hnext : ∀ rest, OnRecord s.judge.2 (next rest)) :
    OnRecord before (showThen t events s next) := by
  obtain ⟨runs, hafter, hjudged⟩ := t.judgements_deliver h
  unfold showThen
  cases hrest : (t.deliver events).rest with
  | error reason =>
    simp only [hrest]
    exact ⟨runs, hafter, hjudged⟩
  | ok rest =>
    simp only [hrest]
    obtain ⟨more, hjudge, hlater⟩ := hnext rest
    refine ⟨runs ++ more, ?_, ?_⟩
    · rw [← List.append_assoc, ← hafter]
      exact hjudge
    · rw [judgements_append, ← hjudged, ← hlater]
      exact List.filterMap_append

variable {g : Game π σ}

theorem onRecord_continueWith (hg : ∀ t ∈ g.corpus.templates, t.Playable) (ending : Ending)
    {s : Session π (σ × List (List UInt8 × Verdict))} (hs : s.Steady g.recorded) (t : Terminal)
    (lines : List String) : OnRecord s.judge.2 (continueWith g.recorded ending s t lines) := by
  induction lines generalizing s t with
  | nil =>
    simp only [continueWith]
    cases result? s with
    | some result => exact onRecord_ofSession s result
    | none =>
      cases ending with
      | broken reason => exact onRecord_ofSession s _
      | exhausted => exact onRecord_showThen s.runsFirst_leave fun _ => onRecord_ofSession _ _
  | cons line lines ih =>
    simp only [continueWith]
    cases result? s with
    | some result => exact onRecord_ofSession s result
    | none =>
      exact onRecord_showThen (hs.runsFirst hg line) fun rest =>
        ih (hs.hear (g := g.recorded) hg line) rest

/-- The runs on record are those that happened, however the playthrough ends. -/
theorem onRecord_run (hg : ∀ t ∈ g.corpus.templates, t.Playable) (picker : π) (judge : σ)
    (input : Input) (t : Terminal) :
    let p := run g.recorded picker (judge, []) input t
    p.events.filterMap Event.judgement? = judgements p.judge.2 := by
  intro p
  have hrecord : OnRecord [] p :=
    onRecord_showThen (Session.runsFirst_start g picker judge) fun rest =>
      onRecord_continueWith hg input.ending (Session.steady_start g.recorded picker (judge, []))
        rest input.lines
  obtain ⟨runs, hjudge, hjudged⟩ := hrecord
  rw [hjudged, hjudge, List.nil_append]

end Playthrough
end MakeTen
