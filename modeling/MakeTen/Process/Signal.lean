import MakeTen.Process.Machine
/-!
# Signals

A signal to a process is ignored, remembered until the shell takes care of it,
or ends the process.

Main definitions:

- Function `Process.reaction`: what a signal does to a process.
- Function `Machine.sendSignal`: send a signal.
-/

namespace MakeTen

/-- What a signal does to a process. -/
inductive Reaction where
  | nothing
  /-- The shell takes care of it when the current command is done. -/
  | remembered
  | deadly
  deriving DecidableEq

/-- What a signal does to a process. -/
def Process.reaction (p : Process) (signal : Nat) : Reaction :=
  let trap := if p.activity.isSome then none else p.state.traps.lookup signal
  if signal = 9 then .deadly
  else if signal = 0 ∨ p.ignored.contains signal then .nothing
  else
    match trap with
    | some [] => .nothing
    | some _ => .remembered
    | none => if Shell.isHarmless signal then .nothing else .deadly

/-- A process that remembers a signal. -/
def Process.remember (p : Process) (signal : Nat) : Process :=
  if p.state.pending.contains signal then p
  else { p with state := { p.state with pending := p.state.pending ++ [signal] } }

namespace Machine

/-- The signal of a process that has ended. -/
def childSignal : Nat := 17

/-- Let a process know that one that it has started has ended. -/
def notify (parent : Nat) : Step Unit :=
  modify fun s =>
    let tell (p : Process) : Process :=
      if p.number == parent ∧ p.reaction childSignal = .remembered then p.remember childSignal
      else p
    { s with current := tell s.current, others := s.others.map tell }

/-- Send a signal to a process, and say whether there is such a process. -/
def sendSignal (process signal : Nat) : Step Bool := do
  let s ← get
  if process = s.current.number then
    match s.current.reaction signal with
    | .nothing => pure ()
    | .remembered => set { s with current := s.current.remember signal }
    | .deadly => finish (.signal signal)
    return true
  else
    match s.others.find? (·.number == process) with
    | none => return false
    | some p =>
      match p.reaction signal with
      | .nothing => pure ()
      | .remembered =>
        set { s with others := s.others.map fun (q : Process) =>
                if q.number == process then q.remember signal else q }
      | .deadly =>
        set { s with others := s.others.filter (·.number != process),
                     ended := (process, .signal signal) :: s.ended }
        notify p.parent
      return true

end Machine
end MakeTen
