import MakeTen.Proofs.Play.Records
/-!
# Terminals with limited room

A terminal that has no room any more cuts a playthrough short, and it alters nothing
that happened before.  The playthrough on a terminal with room for some bytes and the
one on a terminal without limits go along until an event is due for which there is not
enough room; that event is the last one of which anything is seen.

Main results:

- Theorems `Terminal.deliver_of_le`, `Terminal.deliver_of_lt`: where showing some events
  stops.
- Structure `Playthrough.CutShort`: a playthrough cut short after so many bytes.
- Theorem `Playthrough.bounded_run`: limited room cuts a playthrough short, and does
  nothing else.
-/

namespace MakeTen

variable {π σ : Type}

/-! ## Showing events -/

namespace Terminal

/-- A terminal without limits is shown everything. -/
theorem deliver_unlimited (colored : Bool) (events : List Event) :
    deliver ⟨colored, none, none⟩ events =
      ⟨events, events.flatMap (Event.output colored), .ok ⟨colored, none, none⟩⟩ := by
  induction events with
  | nil => rfl
  | cons event events ih =>
    have hdisplay : display ⟨colored, none, none⟩ event =
        (event.output colored, .ok ⟨colored, none, none⟩) := by
      rw [display_of_room_none]
      split <;> rfl
    rw [deliver_cons_of_ok hdisplay, ih, List.flatMap_cons]

variable {colored : Bool} {n : Nat} {reason : String}

/-- An event for which there is room is shown. -/
theorem display_of_le {event : Event} (h : (event.output colored).length ≤ n) :
    display ⟨colored, some ⟨n, reason⟩, none⟩ event =
      (event.output colored,
        .ok ⟨colored, some ⟨n - (event.output colored).length, reason⟩, none⟩) := by
  cases hflushed : event.isFlushed <;> simp [display, send, flush, hflushed, h]

/-- An event for which there is not enough room is shown in part. -/
theorem display_of_lt {event : Event} (h : n < (event.output colored).length) :
    display ⟨colored, some ⟨n, reason⟩, none⟩ event =
      ((event.output colored).take n, .error reason) := by
  have hfull : ¬ (event.output colored).length ≤ n := by omega
  simp [display, send, hfull]

/-- Events for which there is room are shown. -/
theorem deliver_of_le {events : List Event}
    (h : (events.flatMap (Event.output colored)).length ≤ n) :
    deliver ⟨colored, some ⟨n, reason⟩, none⟩ events =
      ⟨events, events.flatMap (Event.output colored),
        .ok ⟨colored, some ⟨n - (events.flatMap (Event.output colored)).length, reason⟩, none⟩⟩ := by
  induction events generalizing n with
  | nil => rfl
  | cons event events ih =>
    rw [List.flatMap_cons, List.length_append] at h
    rw [deliver_cons_of_ok (display_of_le (by omega)), ih (by omega), List.flatMap_cons,
      List.length_append, Nat.sub_sub]

/-- Events for which there is not enough room are shown up to the one in which the
first byte without room is due. -/
theorem deliver_of_lt (reason : String) {events : List Event}
    (h : n < (events.flatMap (Event.output colored)).length) :
    ∃ before event after, events = before ++ event :: after ∧
      (before.flatMap (Event.output colored)).length ≤ n ∧
      n < ((before ++ [event]).flatMap (Event.output colored)).length ∧
      deliver ⟨colored, some ⟨n, reason⟩, none⟩ events =
        ⟨before, (events.flatMap (Event.output colored)).take n, .error reason⟩ := by
  induction events generalizing n with
  | nil => simp at h
  | cons event events ih =>
    rw [List.flatMap_cons, List.length_append] at h
    by_cases hfits : (event.output colored).length ≤ n
    · obtain ⟨before, due, after, rfl, hbefore, hdue, hdeliver⟩ :=
        ih (n := n - (event.output colored).length) (by omega)
      refine ⟨event :: before, due, after, rfl, ?_, ?_, ?_⟩
      · rw [List.flatMap_cons, List.length_append]
        omega
      · rw [List.cons_append, List.flatMap_cons, List.length_append]
        omega
      · rw [deliver_cons_of_ok (display_of_le hfits), hdeliver, List.flatMap_cons,
          List.take_append, List.take_of_length_le hfits]
    · have hfull : n < (event.output colored).length := by omega
      refine ⟨[], event, events, rfl, Nat.zero_le n, ?_, ?_⟩
      · rwa [List.nil_append, List.flatMap_singleton]
      · rw [deliver_cons_of_error (display_of_lt hfull), List.flatMap_cons,
          List.take_append_of_le_length (Nat.le_of_lt hfull)]

end Terminal

/-! ## Playthroughs -/

namespace Playthrough

theorem showThen_unlimited (colored : Bool) (events : List Event) (s : Session π σ)
    (next : Terminal → Playthrough σ) :
    showThen ⟨colored, none, none⟩ events s next =
      after events (events.flatMap (Event.output colored)) (next ⟨colored, none, none⟩) := by
  simp only [showThen, Terminal.deliver_unlimited]

/-- The one playthrough is the other one, cut short where a byte is due after `n`
bytes: it shows the events before the one of that byte, sends the `n` bytes, and has
had judged what was judged until then. -/
structure CutShort (colored : Bool) (n : Nat) (reason : String)
    (whole part : Playthrough (σ × List (List UInt8 × Verdict))) : Prop where
  result_eq : part.result = .error (.terminal reason)
  output_eq : part.output = whole.output.take n
  /-- The events are those before the byte that was due. -/
  due : ∃ event later, whole.events = part.events ++ event :: later ∧
    (part.events.flatMap (Event.output colored)).length ≤ n ∧
    n < ((part.events ++ [event]).flatMap (Event.output colored)).length
  runs_first : part.judge.2 <+: whole.judge.2

variable {colored : Bool} {n : Nat} {reason : String}

theorem CutShort.after {whole part : Playthrough (σ × List (List UInt8 × Verdict))}
    {events : List Event} {m : Nat} (h : CutShort colored m reason whole part)
    (hn : n = (events.flatMap (Event.output colored)).length + m) :
    CutShort colored n reason
      (after events (events.flatMap (Event.output colored)) whole)
      (after events (events.flatMap (Event.output colored)) part) where
  result_eq := h.result_eq
  output_eq := by
    simp only [Playthrough.after]
    rw [h.output_eq, hn, List.take_length_add_append]
  due := by
    obtain ⟨event, later, hevents, hbefore, hdue⟩ := h.due
    refine ⟨event, later, ?_, ?_, ?_⟩
    · simp only [Playthrough.after]
      rw [hevents, List.append_assoc]
    · simp only [Playthrough.after]
      rw [List.flatMap_append, List.length_append]
      omega
    · simp only [Playthrough.after]
      rw [List.append_assoc, List.flatMap_append, List.length_append]
      omega
  runs_first := h.runs_first

/-- Limited room changes nothing if it is enough, and cuts the playthrough short if it
is not. -/
def Bounded (colored : Bool) (n : Nat) (reason : String)
    (whole part : Playthrough (σ × List (List UInt8 × Verdict))) : Prop :=
  (whole.output.length ≤ n → part = whole) ∧
    (n < whole.output.length → CutShort colored n reason whole part)

theorem bounded_ofSession (s : Session π (σ × List (List UInt8 × Verdict)))
    (result : Except SessionFault Score) :
    Bounded colored n reason (ofSession s result) (ofSession s result) :=
  ⟨fun _ => rfl, fun h => absurd h (Nat.not_lt_zero n)⟩

/-- Showing something and going on is cut short by limited room alone, if going on is
and the judge keeps its record. -/
theorem bounded_showThen {events : List Event} {s : Session π (σ × List (List UInt8 × Verdict))}
    {next : Terminal → Playthrough (σ × List (List UInt8 × Verdict))}
    (hrecord : OnRecord s.judge.2 (next ⟨colored, none, none⟩))
    (hnext : ∀ m, Bounded colored m reason (next ⟨colored, none, none⟩)
      (next ⟨colored, some ⟨m, reason⟩, none⟩)) :
    Bounded colored n reason (showThen ⟨colored, none, none⟩ events s next)
      (showThen ⟨colored, some ⟨n, reason⟩, none⟩ events s next) := by
  rw [showThen_unlimited]
  generalize next ⟨colored, none, none⟩ = whole at hrecord hnext ⊢
  have hlength : (after events (events.flatMap (Event.output colored)) whole).output.length =
      (events.flatMap (Event.output colored)).length + whole.output.length := List.length_append
  by_cases hfits : (events.flatMap (Event.output colored)).length ≤ n
  · have hpart : showThen ⟨colored, some ⟨n, reason⟩, none⟩ events s next =
        after events (events.flatMap (Event.output colored))
          (next ⟨colored,
            some ⟨n - (events.flatMap (Event.output colored)).length, reason⟩, none⟩) := by
      simp only [showThen, Terminal.deliver_of_le hfits]
    obtain ⟨hsame, hcut⟩ := hnext (n - (events.flatMap (Event.output colored)).length)
    rw [hpart]
    refine ⟨fun h => ?_, fun h => ?_⟩
    · rw [hsame (by omega)]
    · exact (hcut (by omega)).after (by omega)
  · refine ⟨fun h => by omega, fun _ => ?_⟩
    obtain ⟨before, event, later, rfl, hbefore, hdue, hdeliver⟩ :=
      Terminal.deliver_of_lt reason (Nat.lt_of_not_le hfits)
    obtain ⟨runs, hjudge, _⟩ := hrecord
    simp only [showThen, hdeliver]
    refine ⟨rfl, ?_, ⟨event, later ++ whole.events, ?_, hbefore, hdue⟩, ?_⟩
    · exact (List.take_append_of_le_length (by omega)).symm
    · exact List.append_assoc _ _ _
    · exact ⟨runs, hjudge.symm⟩

variable {g : Game π σ}

theorem bounded_continueWith (hg : ∀ t ∈ g.corpus.templates, t.Playable) (ending : Ending)
    {s : Session π (σ × List (List UInt8 × Verdict))} (hs : s.Steady g.recorded)
    (lines : List String) :
    Bounded colored n reason (continueWith g.recorded ending s ⟨colored, none, none⟩ lines)
      (continueWith g.recorded ending s ⟨colored, some ⟨n, reason⟩, none⟩ lines) := by
  induction lines generalizing s n with
  | nil =>
    simp only [continueWith]
    cases result? s with
    | some result => exact bounded_ofSession s result
    | none =>
      cases ending with
      | broken reason => exact bounded_ofSession s _
      | exhausted =>
        exact bounded_showThen (onRecord_ofSession _ _) fun _ => bounded_ofSession _ _
  | cons line lines ih =>
    simp only [continueWith]
    cases result? s with
    | some result => exact bounded_ofSession s result
    | none =>
      have hnext := hs.hear (g := g.recorded) hg line
      exact bounded_showThen (onRecord_continueWith hg ending hnext _ lines) fun _ => ih hnext

/-- Limited room cuts a playthrough short, and does nothing else. -/
theorem bounded_run (hg : ∀ t ∈ g.corpus.templates, t.Playable) (picker : π) (judge : σ)
    (input : Input) :
    Bounded colored n reason (run g.recorded picker (judge, []) input ⟨colored, none, none⟩)
      (run g.recorded picker (judge, []) input ⟨colored, some ⟨n, reason⟩, none⟩) := by
  have hstart := Session.steady_start g.recorded picker (judge, [])
  exact bounded_showThen (onRecord_continueWith hg input.ending hstart _ input.lines) fun _ =>
    bounded_continueWith hg input.ending hstart input.lines

end Playthrough

end MakeTen
