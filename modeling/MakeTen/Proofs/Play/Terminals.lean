import MakeTen.Play.Playthrough
/-!
# What a terminal takes

A terminal goes along with what it is shown until its room or its flushes are
used up, and it says so with the reason that belongs to the one that is.  What
it has taken up to that point is counted exactly: a full terminal has sent as
many bytes as it had room for, and one that can be flushed no more has been
flushed as often as it could be.

Main results:

- Function `Terminal.extended`: a terminal that takes more.
- Theorems `Terminal.display_of_ok`, `Terminal.deliver_of_ok`: a terminal that
  goes along is used up by as much as it is shown.
- Theorems `Terminal.display_of_error`, `Terminal.deliver_of_error`: one that
  does not is used up.
-/

namespace MakeTen
namespace Terminal

/-! ## Using up a terminal -/

/-- The terminal with room for more bytes and with more flushes. -/
def extended (t : Terminal) (bytes flushes : Nat) : Terminal :=
  { t with
    room := t.room.map fun room => { room with bytes := bytes + room.bytes }
    flushes := t.flushes.map fun f => { f with count := flushes + f.count } }

/-- The terminal fails for this reason after so many bytes or so many flushes. -/
def GivesOut (t : Terminal) (bytes flushes : Nat) (reason : String) : Prop :=
  t.room = some ⟨bytes, reason⟩ ∨ t.flushes = some ⟨flushes, reason⟩

@[simp]
theorem colored_extended (t : Terminal) (bytes flushes : Nat) :
    (t.extended bytes flushes).colored = t.colored := rfl

@[simp]
theorem extended_zero (t : Terminal) : t.extended 0 0 = t := by
  obtain ⟨colored, room, flushes⟩ := t
  cases room <;> cases flushes <;> simp [extended]

@[simp]
theorem extended_extended (t : Terminal) (bytes flushes moreBytes moreFlushes : Nat) :
    (t.extended moreBytes moreFlushes).extended bytes flushes =
      t.extended (bytes + moreBytes) (flushes + moreFlushes) := by
  obtain ⟨colored, room, left⟩ := t
  cases room <;> cases left <;> simp [extended, Nat.add_assoc]

/-- A terminal that takes more gives out later by as much. -/
theorem GivesOut.extended {t : Terminal} {bytes flushes : Nat} {reason : String}
    (h : t.GivesOut bytes flushes reason) (moreBytes moreFlushes : Nat) :
    (t.extended moreBytes moreFlushes).GivesOut (moreBytes + bytes) (moreFlushes + flushes)
      reason := by
  rcases h with hroom | hflushes
  · exact .inl (by simp [Terminal.extended, hroom])
  · exact .inr (by simp [Terminal.extended, hflushes])

/-! ## Sending and flushing -/

/-- What a terminal takes is all that it was sent. -/
theorem send_of_ok {t rest : Terminal} {bytes sent : List UInt8}
    (h : t.send bytes = (sent, .ok rest)) :
    sent = bytes ∧ t = rest.extended sent.length 0 := by
  obtain ⟨colored, room, flushes⟩ := t
  unfold send at h
  split at h
  · rename_i hroom
    obtain ⟨rfl, rfl⟩ : bytes = sent ∧ ⟨colored, room, flushes⟩ = rest := by simpa using h
    obtain rfl : room = none := hroom
    exact ⟨rfl, by cases flushes <;> simp [extended]⟩
  · rename_i limit hroom
    obtain rfl : room = some limit := hroom
    split at h
    · rename_i hfits
      simp only [Prod.mk.injEq, Except.ok.injEq] at h
      obtain ⟨rfl, rfl⟩ := h
      refine ⟨rfl, ?_⟩
      cases flushes <;> simp [extended, hfits]
    · simp at h

/-- A terminal that is full has sent as much as it had room for. -/
theorem send_of_error {t : Terminal} {bytes sent : List UInt8} {reason : String}
    (h : t.send bytes = (sent, .error reason)) : t.room = some ⟨sent.length, reason⟩ := by
  unfold send at h
  split at h
  · simp at h
  · rename_i limit hroom
    split at h
    · simp at h
    · rename_i hfull
      simp only [Prod.mk.injEq, Except.error.injEq] at h
      obtain ⟨rfl, rfl⟩ := h
      rw [hroom, List.length_take, Nat.min_eq_left (by omega)]

theorem flush_of_ok {t rest : Terminal} (h : t.flush = .ok rest) : t = rest.extended 0 1 := by
  obtain ⟨colored, room, flushes⟩ := t
  unfold flush at h
  split at h
  · rename_i hflushes
    obtain rfl : ⟨colored, room, flushes⟩ = rest := by simpa using h
    obtain rfl : flushes = none := hflushes
    cases room <;> simp [extended]
  · simp at h
  · rename_i count reason hflushes
    obtain rfl : flushes = some ⟨count + 1, reason⟩ := hflushes
    simp only [Except.ok.injEq] at h
    obtain rfl := h
    cases room <;> simp [extended, Nat.add_comm]

theorem flush_of_error {t : Terminal} {reason : String} (h : t.flush = .error reason) :
    t.flushes = some ⟨0, reason⟩ := by
  unfold flush at h
  split at h
  · simp at h
  · rename_i other hflushes
    obtain rfl : other = reason := by simpa using h
    exact hflushes
  · simp at h

/-! ## Showing events -/

/-- A terminal without a limit on its room is sent all that an event shows. -/
theorem display_of_room_none (colored : Bool) (flushes : Option Flushes) (event : Event) :
    display ⟨colored, none, flushes⟩ event =
      (event.output colored,
        if event.isFlushed then flush ⟨colored, none, flushes⟩
        else .ok ⟨colored, none, flushes⟩) := by
  simp only [display, send]
  split <;> rfl

/-- A terminal that goes along with an event is used up by its bytes, and by a
flush if the event asks for one. -/
theorem display_of_ok {t rest : Terminal} {event : Event} {sent : List UInt8}
    (h : t.display event = (sent, .ok rest)) :
    sent = event.output t.colored ∧
      t = rest.extended sent.length ([event].countP Event.isFlushed) := by
  unfold display at h
  split at h
  · simp at h
  · rename_i bytes after hsend
    obtain ⟨rfl, ht⟩ := send_of_ok hsend
    cases hflushed : event.isFlushed with
    | true =>
      simp only [hflushed, if_true, Prod.mk.injEq] at h
      obtain ⟨rfl, hflush⟩ := h
      refine ⟨rfl, ?_⟩
      rw [flush_of_ok hflush, extended_extended] at ht
      simpa [hflushed] using ht
    | false =>
      simp only [hflushed, Bool.false_eq_true, if_false, Prod.mk.injEq, Except.ok.injEq] at h
      obtain ⟨rfl, rfl⟩ := h
      exact ⟨rfl, by simpa [hflushed] using ht⟩

/-- A terminal that does not go along with an event is used up by what it has
sent of it. -/
theorem display_of_error {t : Terminal} {event : Event} {sent : List UInt8} {reason : String}
    (h : t.display event = (sent, .error reason)) : t.GivesOut sent.length 0 reason := by
  unfold display at h
  split at h
  · rename_i bytes other hsend
    obtain ⟨rfl, rfl⟩ : bytes = sent ∧ other = reason := by simpa using h
    exact .inl (send_of_error hsend)
  · rename_i bytes after hsend
    split at h
    · obtain ⟨rfl, hflush⟩ : bytes = sent ∧ after.flush = .error reason := by simpa using h
      obtain ⟨_, ht⟩ := send_of_ok hsend
      rw [ht]
      exact .inr (by simp [extended, flush_of_error hflush])
    · simp at h

theorem deliver_cons_of_ok {t rest : Terminal} {event : Event} {sent : List UInt8}
    (h : t.display event = (sent, .ok rest)) (events : List Event) :
    t.deliver (event :: events) =
      ⟨event :: (rest.deliver events).events, sent ++ (rest.deliver events).output,
        (rest.deliver events).rest⟩ := by
  simp only [deliver, h]

theorem deliver_cons_of_error {t : Terminal} {event : Event} {sent : List UInt8}
    {reason : String} (h : t.display event = (sent, .error reason)) (events : List Event) :
    t.deliver (event :: events) = ⟨[], sent, .error reason⟩ := by
  simp only [deliver, h]

/-- A terminal that goes along with some events shows all of them, and is used
up by their bytes and their flushes. -/
theorem deliver_of_ok {t rest : Terminal} {events : List Event}
    (h : (t.deliver events).rest = .ok rest) :
    (t.deliver events).events = events ∧
      (t.deliver events).output = events.flatMap (Event.output t.colored) ∧
      t = rest.extended (t.deliver events).output.length (events.countP Event.isFlushed) := by
  induction events generalizing t with
  | nil =>
    obtain rfl : t = rest := by simpa [deliver] using h
    exact ⟨rfl, rfl, (extended_zero t).symm⟩
  | cons event events ih =>
    cases hdisplay : t.display event with
    | mk sent result =>
      cases result with
      | error reason =>
        rw [deliver_cons_of_error hdisplay] at h
        simp at h
      | ok next =>
        rw [deliver_cons_of_ok hdisplay] at h ⊢
        obtain ⟨hevents, houtput, hnext⟩ := ih h
        obtain ⟨hsent, ht⟩ := display_of_ok hdisplay
        -- `t` extends `next`, and `next` extends `rest`: the two add up.
        have hcolored : next.colored = t.colored := by rw [ht, colored_extended]
        refine ⟨by rw [hevents], ?_, ?_⟩
        · rw [List.flatMap_cons, ← hsent, houtput, hcolored]
        · rw [List.length_append, ← List.singleton_append, List.countP_append,
            ← extended_extended, ← hnext]
          exact ht

/-- A terminal that does not go along with some events is used up by what it
has sent of them. -/
theorem deliver_of_error {t : Terminal} {events : List Event} {reason : String}
    (h : (t.deliver events).rest = .error reason) :
    t.GivesOut (t.deliver events).output.length
      ((t.deliver events).events.countP Event.isFlushed) reason := by
  induction events generalizing t with
  | nil => simp [deliver] at h
  | cons event events ih =>
    cases hdisplay : t.display event with
    | mk sent result =>
      cases result with
      | error other =>
        rw [deliver_cons_of_error hdisplay] at h ⊢
        obtain rfl : other = reason := by simpa using h
        exact display_of_error hdisplay
      | ok next =>
        rw [deliver_cons_of_ok hdisplay] at h ⊢
        have hgives := (ih h).extended sent.length ([event].countP Event.isFlushed)
        rw [← (display_of_ok hdisplay).2] at hgives
        rw [List.length_append, ← List.singleton_append, List.countP_append]
        exact hgives

end Terminal
end MakeTen
