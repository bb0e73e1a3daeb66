import MakeTen.Toml.Scalar
import MakeTen.Toml.Value
/-!
# TOML statements

A TOML text is a sequence of statements, one a line: headers, and keys with
their values.  Values in brackets may run over several lines, those in braces
may not.  What the statements mean together is the business of the document.

Main definitions:

- Type `Toml.Statement`: headers and assignments.
- Function `Toml.readValue`: a value at the head of a text.
- Function `Toml.statements?`: all statements of a text.
-/

namespace MakeTen
namespace Toml

/-- A dotted key: at least one part. -/
abbrev Key := List String

/-- A statement of a TOML text. -/
inductive Statement where
  /-- A key gets a value. -/
  | assign (key : Key) (value : Value)
  /-- A table is opened. -/
  | header (key : Key)
  /-- Another table is opened under a repeated header. -/
  | repeated (key : Key)

/-! ## Between the parts -/

/-- A text without blanks at its head. -/
def dropSpaces (cs : List Char) : List Char :=
  cs.dropWhile isSpace

/-- A text without a comment at its head. -/
def dropComment : List Char → List Char
  | '#' :: rest => rest.dropWhile isPrintable
  | cs => cs

/-- The rest after the end of a line, with a comment before it if there is one.
The end of the text ends a line, too. -/
def readLineEnd (cs : List Char) : Option (List Char) :=
  match dropComment (dropSpaces cs) with
  | [] => some []
  | cs => readNewline cs

/-- A text without blanks, comments and line endings at its head, or nothing if
a comment is not ended by a line ending. -/
def dropGaps : Nat → List Char → Option (List Char)
  | 0, cs => some cs
  | fuel + 1, cs =>
    match dropSpaces cs with
    | '#' :: rest => do dropGaps fuel (← readNewline (rest.dropWhile isPrintable))
    | cs =>
      match readNewline cs with
      | some rest => dropGaps fuel rest
      | none => some cs

/-- A text without what may stand between the elements of an array. -/
def dropGap (cs : List Char) : Option (List Char) :=
  dropGaps (cs.length + 1) cs

/-! ## Keys -/

/-- Characters of a key without quotes. -/
def isBare (c : Char) : Bool :=
  c.isAlphanum || c == '_' || c == '-'

/-- One part of a key. -/
def readPart : List Char → Option (String × List Char)
  | '"' :: rest => (readBasic rest).map fun (cs, rest) => (String.ofList cs, rest)
  | '\'' :: rest => (readLiteral rest).map fun (cs, rest) => (String.ofList cs, rest)
  | cs =>
    match cs.takeWhile isBare with
    | [] => none
    | part => some (String.ofList part, cs.dropWhile isBare)

/-- Least number of parts that a key may not have. -/
def keyLimit : Nat := 80

/-- At most `fuel` parts of a key, with blanks around each. -/
def readParts : Nat → List Char → Option (Key × List Char)
  | 0, _ => none
  | fuel + 1, cs => do
    let (part, rest) ← readPart (dropSpaces cs)
    match dropSpaces rest with
    | '.' :: rest => do
      let (parts, rest) ← readParts fuel rest
      return (part :: parts, rest)
    | rest => return ([part], rest)

/-- A key at the head of a text. -/
def readKey (cs : List Char) : Option (Key × List Char) :=
  readParts (keyLimit - 1) cs

/-! ## Tables in braces -/

/-- The entries with a value added under a key.  Parts before the last lead
through tables made by dotted keys only, and the last part has to be new. -/
def addDotted (entries : Entries) (key : Key) (v : Value) : Option Entries :=
  match key with
  | [] => none
  | [part] =>
    match entries.get? part with
    | none => some (entries.put part v)
    | some _ => none
  | part :: rest =>
    match entries.get? part with
    | none => (addDotted [] rest v).map fun inner => entries.put part (.table .dotted inner)
    | some (.table .dotted inner) =>
      (addDotted inner rest v).map fun inner => entries.put part (.table .dotted inner)
    | some _ => none

/-- The entries that some assignments make. -/
def entriesOf (assignments : List (Key × Value)) : Option Entries :=
  assignments.foldlM (fun entries (key, v) => addDotted entries key v) []

/-! ## Values -/

/-- Least number of brackets and braces that may not be open at a time. -/
def depthLimit : Nat := 80

mutual

/-- A value at the head of a text, inside `depth` open brackets and braces.
Every call takes a character or follows one that does, so the fuel need not be
more than four times the length of the text. -/
def readValueWithin (fuel depth : Nat) (cs : List Char) : Option (Value × List Char) :=
  match fuel with
  | 0 => none
  | fuel + 1 =>
    match cs with
    | '[' :: rest =>
      if depth + 1 < depthLimit then
        (readElements fuel (depth + 1) rest).map fun (vs, rest) => (.array vs, rest)
      else none
    | '\x7b' :: rest =>
      if depth + 1 < depthLimit then do
        let (assignments, rest) ← readAssignments fuel (depth + 1) rest
        return (.table .braces (← entriesOf assignments), rest)
      else none
    | 't' :: 'r' :: 'u' :: 'e' :: rest => some (.boolean true, rest)
    | 'f' :: 'a' :: 'l' :: 's' :: 'e' :: rest => some (.boolean false, rest)
    | cs =>
      if cs.head? = some '"' ∨ cs.head? = some '\'' then
        (readString cs).map fun (text, rest) => (.string (String.ofList text), rest)
      else if startsDate cs || startsTime cs then
        (readMoment cs).map fun rest => (.moment, rest)
      else
        (readNumber cs).map fun
          | (.integer n, rest) => (.integer n, rest)
          | (.float, rest) => (.float, rest)

/-- The elements of an array up to its closing bracket.  A comma may stand
after the last one. -/
def readElements (fuel depth : Nat) (cs : List Char) : Option (List Value × List Char) :=
  match fuel with
  | 0 => none
  | fuel + 1 => do
    match ← dropGap cs with
    | ']' :: rest => return ([], rest)
    | cs => do
      let (v, rest) ← readValueWithin fuel depth cs
      match ← dropGap rest with
      | ']' :: rest => return ([v], rest)
      | ',' :: rest => do
        let (vs, rest) ← readElements fuel depth rest
        return (v :: vs, rest)
      | _ => none

/-- The assignments of a table up to its closing brace. -/
def readAssignments (fuel depth : Nat) (cs : List Char) :
    Option (List (Key × Value) × List Char) :=
  match fuel with
  | 0 => none
  | fuel + 1 =>
    match dropSpaces cs with
    | '\x7d' :: rest => some ([], rest)
    | cs => readMoreAssignments fuel depth cs

/-- At least one assignment of a table up to its closing brace.  No comma may
stand after the last one. -/
def readMoreAssignments (fuel depth : Nat) (cs : List Char) :
    Option (List (Key × Value) × List Char) :=
  match fuel with
  | 0 => none
  | fuel + 1 => do
    let (key, rest) ← readKey cs
    let rest ← readChar '=' rest
    let (v, rest) ← readValueWithin fuel depth (dropSpaces rest)
    match dropSpaces rest with
    | '\x7d' :: rest => return ([(key, v)], rest)
    | ',' :: rest => do
      let (more, rest) ← readMoreAssignments fuel depth rest
      return ((key, v) :: more, rest)
    | _ => none

end

/-- A value at the head of a text. -/
def readValue (cs : List Char) : Option (Value × List Char) :=
  readValueWithin (4 * cs.length + 4) 0 cs

/-! ## Statements -/

/-- A statement at the head of a text that starts with neither a blank nor a
comment nor a line ending, and the text after its line. -/
def readStatement : List Char → Option (Statement × List Char)
  | '[' :: '[' :: rest => do
    let (key, rest) ← readKey rest
    let rest ← readChar ']' rest
    let rest ← readChar ']' rest
    return (.repeated key, ← readLineEnd rest)
  | '[' :: rest => do
    let (key, rest) ← readKey rest
    let rest ← readChar ']' rest
    return (.header key, ← readLineEnd rest)
  | cs => do
    let (key, rest) ← readKey cs
    let rest ← readChar '=' rest
    let (v, rest) ← readValue (dropSpaces rest)
    return (.assign key v, ← readLineEnd rest)

/-- At most `fuel` lines of a text. -/
def statementsWithin : Nat → List Char → Option (List Statement)
  | 0, _ => none
  | fuel + 1, cs =>
    match dropSpaces cs with
    | [] => some []
    | '#' :: rest => do statementsWithin fuel (← readLineEnd ('#' :: rest))
    | cs =>
      match readNewline cs with
      | some rest => statementsWithin fuel rest
      | none => do
        let (statement, rest) ← readStatement cs
        return statement :: (← statementsWithin fuel rest)

/-- The mark that may stand at the start of a text to tell its encoding. -/
def byteOrderMark : Char := Char.ofNat 0xFEFF

/-- A text without the mark of its encoding. -/
def dropMark : List Char → List Char
  | c :: rest => if c = byteOrderMark then rest else c :: rest
  | [] => []

/-- All statements of a text. -/
def statements? (text : String) : Option (List Statement) :=
  let cs := dropMark text.toList
  statementsWithin (cs.length + 1) cs

end Toml
end MakeTen
