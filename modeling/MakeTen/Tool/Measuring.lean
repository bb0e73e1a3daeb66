import MakeTen.Tool.Lines
/-!
# How much there is

The program `wc` says how many lines, words and bytes files have.

Main definitions:

- Structure `Tool.Counts`: how much there is of a text.
- Function `Tool.wc`: the program.
-/

namespace MakeTen
namespace Tool

/-- How much there is of a text. -/
structure Counts where
  lines : Nat
  words : Nat
  characters : Nat
  bytes : Nat
  longest : Nat

/-- How much there is of two texts together. -/
def Counts.add (a b : Counts) : Counts :=
  ⟨a.lines + b.lines, a.words + b.words, a.characters + b.characters, a.bytes + b.bytes,
    max a.longest b.longest⟩

/-- How much there is of a text on its way: the words, whether one is begun, the
width of the current line, and the greatest width. -/
def countStep (state : Nat × Bool × Nat × Nat) (c : Char) : Nat × Bool × Nat × Nat :=
  let (words, isIn, width, longest) := state
  if c = '\n' ∨ c = '\r' ∨ c = '\x0c' then (words, false, 0, max longest width)
  else if c = '\t' then (words, false, (width / 8 + 1) * 8, longest)
  else if c = ' ' then (words, false, width + 1, longest)
  else if c = '\x0b' then (words, false, width, longest)
  else if Quoting.isSeen c then (if isIn then words else words + 1, true, width + 1, longest)
  else (words, isIn, width, longest)

/-- How much there is of a text. -/
def countsOf (raw : Raw) : Counts :=
  let (words, _, width, longest) := raw.foldl countStep (0, false, 0, 0)
  ⟨(raw.filter (· = '\n')).length, words, raw.length, raw.length, max longest width⟩

/-- The counts that are asked for, on a line. -/
def countLine (o : Chosen) (width : Nat) (name : Option Raw) (c : Counts) : Raw :=
  let isUsual := !(["l", "w", "m", "c", "L"].any o.has)
  let column (key : String) (isUsed : Bool) (n : Nat) : List Raw :=
    if o.has key || (isUsual && isUsed) then [Raw.padStart width ' ' (Raw.ofNat n)] else []
  let columns := column "l" true c.lines ++ column "w" true c.words ++
    column "m" false c.characters ++ column "c" true c.bytes ++ column "L" false c.longest
  Raw.join [' '] columns ++ (name.map (' ' :: ·)).getD [] ++ ['\n']

/-- The size of the file of a path if it is one that is no device. -/
def regularSize? (path : Raw) : Job (Option Nat) := do
  let d ← get
  let ofPlace (place : List String) : Option Nat := match d.files.at? place with
    | some (.file bytes) => some bytes.length
    | _ => none
  if path = ['-'] then
    match d.call.descriptors.lookup 0 with
    | some (.file place) => return ofPlace place
    | _ => return if d.call.inputFault = some .badDescriptor then some 0 else none
  else
    match d.files.follow (Raw.toString path) with
    | .ok place => return ofPlace place
    | .error _ => return some 0

/-- How wide the columns are. -/
def countWidth (o : Chosen) (files : List Raw) : Job Nat := do
  let kinds := (["l", "w", "m", "c", "L"].filter o.has).length
  if files.length = 1 ∧ kinds = 1 then return 1
  else
    let mut total := 0
    let mut least := 1
    for path in files do
      match ← regularSize? path with
      | some n => total := total + n
      | none => least := 7
    return max least (Raw.ofNat total).length

/-- The names of files that a file holds, each with a character without a shape after
it. -/
def namesIn (list : Raw) : Job (List Raw) := do
  match ← operand list with
  | .error .isDirectory => giveUp 1 ("cannot read file names from ".toList ++ named list)
  | .error fault =>
    giveUp 1 ("cannot open ".toList ++ named list ++ " for reading: ".toList ++ faultText fault)
  | .ok raw => return (linesEnding Raw.nul raw).map (·.raw)

/-- Complain about the name of a file that cannot be one; the answer is whether it can. -/
def isFileName (list : Option Raw) (n : Nat) (path : Raw) : Job Bool := do
  let isInput := list == some ['-'] && path == ['-']
  if isInput then
    flush
    complain "when reading file names from stdin, no file name of '-' allowed".toList
  if path.isEmpty then
    flush
    match list with
    | none => complain "invalid zero-length file name".toList
    | some list =>
      complain (shown list ++ ':' :: Raw.ofNat n ++ ": invalid zero-length file name".toList)
  return !isInput && !path.isEmpty

/-- Say how much there is of files. -/
def wc : Job Unit := do
  let o ← options "c,bytes m,chars l,lines w,words L,max-line-length files0-from:"
  let list := o.value? "files0-from"
  let files ← match list, o.operands with
    | none, _ => pure o.files
    | some _, extra :: _ =>
      complain ("extra operand ".toList ++ named extra)
      grumble "file operands cannot be combined with --files0-from".toList
      grumble ("Try '".toList ++ (← get).call.name ++ " --help' for more information.".toList)
      exit 1
    | some list, [] => namesIn list
  let width ← if list = some ['-'] then pure 1 else countWidth o files
  let mut isGood := true
  let mut total : Counts := ⟨0, 0, 0, 0, 0⟩
  for (path, n) in files.zipIdx do
    let shownPath := if path.contains '\n' then Quoting.forShell path else path
    let name := if o.operands.isEmpty ∧ list.isNone then none else some shownPath
    if ← isFileName list (n + 1) path then
      match ← operand path with
      | .error fault =>
        flush
        complainOf (if name.isNone then "standard input".toList else path) fault
        isGood := false
        if fault = .isDirectory ∨ fault = .badDescriptor then say (countLine o width name ⟨0, 0, 0, 0, 0⟩)
      | .ok raw =>
        let counts := countsOf raw
        total := total.add counts
        say (countLine o width name counts)
    else isGood := false
  if 1 < files.length then say (countLine o width (some "total".toList) total)
  exitClosing isGood files "-"

end Tool
end MakeTen
