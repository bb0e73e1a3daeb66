import MakeTen.Play.Input
import MakeTen.Play.Session
/-!
# Playthroughs

A playthrough takes a session through all of its input on some terminal.  The
terminal may have room for a limited number of bytes only, it may fail to send
out what it holds back, and the input may break; each of them cuts the
playthrough short where it happens.

Main definitions:

- Structure `Terminal`: how a session is shown.
- Function `Terminal.deliver`: show what happened, as far as the terminal goes along.
- Structure `Playthrough`: what a playthrough comes to.
- Function `Playthrough.run`: play.
-/

namespace MakeTen

/-! ## Terminals -/

/-- Room for a limited number of bytes, and what is said when it is full. -/
structure Room where
  bytes : Nat
  reason : String
  deriving Repr, DecidableEq

/-- A limited number of flushes, and what is said when there are no more. -/
structure Flushes where
  count : Nat
  reason : String
  deriving Repr, DecidableEq

/-- A place where a session is shown. -/
structure Terminal where
  colored : Bool
  /-- The room that is left, if it is limited. -/
  room : Option Room
  flushes : Option Flushes
  deriving Repr, DecidableEq

/-- The bytes that an event sends to a terminal. -/
def Event.output (colored : Bool) : Event → List UInt8
  | .shown display => Utf8.encodeString (display.render colored)
  | _ => []

/-- Whether an event asks the terminal to send out what it holds back. -/
def Event.isFlushed : Event → Bool
  | .shown display => display.isFlushed
  | _ => false

namespace Terminal

/-- Send bytes to a terminal: those that get there, and what is left of the
terminal unless it is full. -/
def send (t : Terminal) (bytes : List UInt8) : List UInt8 × Except String Terminal :=
  match t.room with
  | none => (bytes, .ok t)
  | some room =>
    if bytes.length ≤ room.bytes then
      (bytes, .ok { t with room := some { room with bytes := room.bytes - bytes.length } })
    else (bytes.take room.bytes, .error room.reason)

/-- Make a terminal send out what it holds back. -/
def flush (t : Terminal) : Except String Terminal :=
  match t.flushes with
  | none => .ok t
  | some ⟨0, reason⟩ => .error reason
  | some ⟨count + 1, reason⟩ => .ok { t with flushes := some ⟨count, reason⟩ }

/-- Show one event. -/
def display (t : Terminal) (event : Event) : List UInt8 × Except String Terminal :=
  match t.send (event.output t.colored) with
  | (sent, .error reason) => (sent, .error reason)
  | (sent, .ok t) => if event.isFlushed then (sent, t.flush) else (sent, .ok t)

/-- What came of an attempt to show something. -/
structure Delivery where
  /-- The events that went through, and those beside them. -/
  events : List Event
  output : List UInt8
  rest : Except String Terminal
  deriving Repr

/-- Show events one after the other, until the terminal fails. -/
def deliver (t : Terminal) : List Event → Delivery
  | [] => ⟨[], [], .ok t⟩
  | event :: events =>
    match t.display event with
    | (sent, .error reason) => ⟨[], sent, .error reason⟩
    | (sent, .ok t) =>
      let d := deliver t events
      ⟨event :: d.events, sent ++ d.output, d.rest⟩

end Terminal

/-! ## Playthroughs -/

/-- What a playthrough comes to, for judges with states of type `σ`. -/
structure Playthrough (σ : Type) where
  events : List Event
  output : List UInt8
  judge : σ
  /-- The final counters, unless the session broke off. -/
  result : Except SessionFault Score

namespace Playthrough

variable {π σ : Type}

/-- A playthrough with something in front. -/
def after (events : List Event) (output : List UInt8) (p : Playthrough σ) : Playthrough σ :=
  { p with events := events ++ p.events, output := output ++ p.output }

/-- The playthrough of a session that waits for nothing more. -/
def ofSession (s : Session π σ) (result : Except SessionFault Score) : Playthrough σ :=
  ⟨[], [], s.judge, result⟩

/-- What a session that is over came to. -/
def result? (s : Session π σ) : Option (Except SessionFault Score) :=
  match s.phase with
  | .closed => some (.ok s.score)
  | .failed fault => some (.error fault)
  | _ => none

/-- Show what happened and go on with what comes next, unless the terminal
fails. -/
def showThen (t : Terminal) (events : List Event) (s : Session π σ)
    (next : Terminal → Playthrough σ) : Playthrough σ :=
  let d := t.deliver events
  match d.rest with
  | .error reason => ⟨d.events, d.output, s.judge, .error (.terminal reason)⟩
  | .ok t => after d.events d.output (next t)

/-- Go on with a session until it is over or out of lines. -/
def continueWith (g : Game π σ) (ending : Ending) (s : Session π σ) (t : Terminal) :
    List String → Playthrough σ
  | [] =>
    match result? s with
    | some result => ofSession s result
    | none =>
      match ending with
      | .broken reason => ofSession s (.error (.terminal reason))
      | .exhausted =>
        let (events, s) := s.leave
        showThen t events s fun _ => ofSession s (.ok s.score)
  | line :: lines =>
    match result? s with
    | some result => ofSession s result
    | none =>
      let (events, s) := s.hear g line
      showThen t events s fun t => continueWith g ending s t lines

/-- Play a session from the welcome to its end. -/
def run (g : Game π σ) (picker : π) (judge : σ) (input : Input) (t : Terminal) : Playthrough σ :=
  let (events, s) := Session.start g picker judge
  showThen t events s fun t => continueWith g input.ending s t input.lines

end Playthrough
end MakeTen
