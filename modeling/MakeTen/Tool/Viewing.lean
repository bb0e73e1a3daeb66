import MakeTen.Tool.Lines
/-!
# Viewing files

The programs that show files as they are, or with marks, or every line backwards, and
those that write more than once what they are given.

Main definitions:

- Functions `Tool.cat`, `Tool.rev`, `Tool.tee` and `Tool.yes`: the programs.
-/

namespace MakeTen
namespace Tool

/-! ## All of it -/

/-- How files are shown. -/
structure CatStyle where
  numbers : Bool
  onlyFull : Bool
  squeezes : Bool
  showsEnds : Bool
  showsTabs : Bool
  showsOthers : Bool

/-- A character as it is shown if it cannot be seen. -/
def visible (c : Char) : Raw :=
  let low (n : Nat) : Raw :=
    if n < 32 then ['^', Char.ofNat (n + 64)] else if n = 127 then ['^', '?'] else [Char.ofNat n]
  if c.toNat < 128 then low c.toNat else ['M', '-'] ++ low (c.toNat - 128)

/-- The text of a line as it is shown. -/
def CatStyle.body (style : CatStyle) (line : Line) : Raw :=
  let hasReturn := style.showsEnds && !style.showsOthers && line.isEnded &&
    line.raw.getLast? == some '\r'
  let raw := if hasReturn then line.raw.dropLast else line.raw
  let text := raw.flatMap fun c =>
    if c = '\t' then (if style.showsTabs then ['^', 'I'] else [c])
    else if style.showsOthers then visible c
    else [c]
  if hasReturn then text ++ ['^', 'M'] else text

/-- Where showing files has come to: the number of the next line, how many empty
lines came last, and whether a line is begun. -/
structure CatState where
  number : Nat
  empties : Nat
  isBegun : Bool

/-- Show a line. -/
def CatStyle.showLine (style : CatStyle) (state : CatState) (line : Line) : Job CatState := do
  let isEmpty := line.raw.isEmpty && !state.isBegun
  let empties := if isEmpty then state.empties + 1 else 0
  if style.squeezes ∧ 1 < empties then return { state with empties }
  else
    let isNumbered := style.numbers && !state.isBegun && !(isEmpty && style.onlyFull)
    if isNumbered then say (Raw.padStart 6 ' ' (Raw.ofNat state.number) ++ ['\t'])
    say (style.body line)
    if line.isEnded then
      if style.showsEnds then say ['$']
      say ['\n']
    return ⟨if isNumbered then state.number + 1 else state.number, empties, !line.isEnded⟩

/-- Show files one after the other. -/
def cat : Job Unit := do
  let o ← options ("A,show-all b,number-nonblank e E,show-ends n,number s,squeeze-blank t " ++
    "T,show-tabs u v,show-nonprinting")
  let has (keys : List String) : Bool := keys.any o.has
  let style : CatStyle :=
    { numbers := has ["n", "b"]
      onlyFull := has ["b"]
      squeezes := has ["s"]
      showsEnds := has ["A", "e", "E"]
      showsTabs := has ["A", "t", "T"]
      showsOthers := has ["A", "e", "t", "v"] }
  let isPlain := !has ["n", "b", "s", "A", "e", "E", "t", "T", "v"]
  let mut state : CatState := ⟨1, 0, false⟩
  let mut isGood := true
  for path in o.files do
    if isPlain ∧ path = ['-'] ∧ (← get).call.inputFault.isNone then passInput
    else
      match ← operand path with
      | .error fault =>
        flush
        complainOf path fault
        isGood := false
        if path = ['-'] ∧ fault = .badDescriptor then
          complain "closing standard input: Bad file descriptor".toList
      | .ok raw =>
        if isPlain then put 1 raw
        else
          for line in linesOf raw do
            state ← style.showLine state line
  exitGood isGood

/-! ## Backwards -/

/-- Show every line backwards. -/
def rev : Job Unit := do
  let o ← options "0,zero"
  let mut isGood := true
  for path in o.files do
    match ← foldFile path () fun _ line => do
        say (Line.whole ⟨line.raw.reverse, line.isEnded⟩)
        return .on () with
    | .ok _ => pure ()
    | .error fault =>
      flush
      complain ("cannot open ".toList ++ path ++ ": ".toList ++ faultText fault)
      isGood := false
  exitGood isGood

/-! ## More than once -/

/-- Pass on the input, and write it to files as well.  All files are opened first. -/
def tee : Job Unit := do
  let o ← options "a,append i,ignore-interrupts p output-error?"
  for (key, value) in o.options do
    if key = "output-error" ∧ ¬ value.isEmpty then
      let _ ← chooseWord 1 "--output-error" true
        [["warn"], ["warn-nopipe"], ["exit"], ["exit-nopipe"]] value
  let mut opened : List Raw := []
  for path in o.operands do
    match ← store path true [] with
    | .ok () => opened := opened ++ [path]
    | .error fault => complainOf path fault
  if (← get).call.inputFault = some .badDescriptor then
    complain "read error: Bad file descriptor".toList
    giveUp 1 "standard input: Bad file descriptor".toList
  let raw ← readAll
  put 1 raw
  for path in opened do
    let _ ← store path (o.has "a") raw
  exitGood (opened.length = o.operands.length)

/-- How many times a block of lines is written before the next pause. -/
def yesPauses : Nat := 40

/-- Write a line without end.  Each block is twice as long in coming as the one
before it, so that a limit of time is reached. -/
def yes : Job Unit := do
  let arguments := (← options "").operands
  let line := (if arguments.isEmpty then ['y'] else Raw.join [' '] arguments) ++ ['\n']
  let block := (List.replicate (16384 / line.length + 1) line).flatten
  for n in [0:yesPauses] do
    put 1 block
    let _ ← ask (.pause (100000 * Nat.pow 2 (n - 8)))
  exit 0

end Tool
end MakeTen
