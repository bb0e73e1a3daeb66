import MakeTen.Tool.Options
/-!
# Lines

Programs that work on lines take them from their input as they come, so that
what follows from the first lines is known before the last ones are, or from
files.

Main definitions:

- Structure `Tool.Line`: a line and whether it has an end.
- Function `Tool.foldFile`: go through the lines of a file or of the input.
-/

namespace MakeTen
namespace Tool

/-- A line without its end, and whether it has one. -/
structure Line where
  raw : Raw
  isEnded : Bool

/-- A line as it was written. -/
def Line.whole (line : Line) : Raw :=
  if line.isEnded then line.raw ++ ['\n'] else line.raw

/-- The lines of a text, where lines end with a given character. -/
def linesEnding (ending : Char) (raw : Raw) : List Line :=
  let parts := Raw.splitOn ending raw
  let ended := parts.dropLast.map fun raw => Line.mk raw true
  match parts.getLast? with
  | some [] => ended
  | some last => ended ++ [⟨last, false⟩]
  | none => ended

/-- The lines of a text. -/
def linesOf (raw : Raw) : List Line :=
  linesEnding '\n' raw

/-- Whether to go on after a line. -/
inductive Going (σ : Type) where
  | on (state : σ)
  | enough (state : σ)

/-- The state after a line. -/
def Going.state {σ : Type} : Going σ → σ
  | .on state => state
  | .enough state => state

/-- Go through at most `fuel` lines of the input, where lines end with a given
character. -/
def foldWithin {σ : Type} (ending : Char) (next : σ → Line → Job (Going σ)) :
    Nat → σ → Job (Going σ)
  | 0, state => return .on state
  | fuel + 1, state => do
    match ← readUntil? ending with
    | none => return .on state
    | some (raw, isEnded) =>
      match ← next state ⟨raw, isEnded⟩ with
      | .on state => foldWithin ending next fuel state
      | .enough state => return .enough state

/-- Go through some lines. -/
def foldLines {σ : Type} (next : σ → Line → Job (Going σ)) : σ → List Line → Job (Going σ)
  | state, [] => return .on state
  | state, line :: rest => do
    match ← next state line with
    | .on state => foldLines next state rest
    | .enough state => return .enough state

/-- Go through the lines of a file, where a hyphen means the input and lines end with a
given character. -/
def foldEnding {σ : Type} (ending : Char) (path : Raw) (state : σ)
    (next : σ → Line → Job (Going σ)) : Job (Except HostFault (Going σ)) := do
  if path = ['-'] then
    match (← get).call.inputFault with
    | some fault => return .error fault
    | none => return .ok (← foldWithin ending next ((← get).input.length + 2) state)
  else
    match ← contents path with
    | .error fault => return .error fault
    | .ok raw => return .ok (← foldLines next state (linesEnding ending raw))

/-- Go through the lines of a file, where a hyphen means the input. -/
def foldFile {σ : Type} (path : Raw) (state : σ) (next : σ → Line → Job (Going σ)) :
    Job (Except HostFault (Going σ)) :=
  foldEnding '\n' path state next

/-- Write every line of some files as a function changes it. -/
def mapLines (files : List Raw) (change : Raw → Raw) : Job Unit := do
  let mut isGood := true
  for path in files do
    match ← foldFile path () fun _ line => do
        say (Line.whole ⟨change line.raw, line.isEnded⟩)
        return .on () with
    | .ok _ => pure ()
    | .error fault =>
      flush
      complainOf path fault
      isGood := false
  exitClosing isGood files "-"

/-- Pass on the input as it comes. -/
def passInput : Job Unit := do
  let d ← get
  put 1 d.input
  set { ← get with input := [] }
  if ¬ d.isEnded then throw .input

end Tool
end MakeTen
