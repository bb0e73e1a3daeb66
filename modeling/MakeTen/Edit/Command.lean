import MakeTen.Regex.Matching
/-!
# Commands for editing

Lines are edited by a list of commands, each for lines that are chosen by their
number or by what is in them.  This module says what the commands are; how they
are read and what they do is said elsewhere.

Main definitions:

- Types `Edit.Spot` and `Edit.Lines`: which lines a command is for.
- Type `Edit.Action`: what a command does.
- Structure `Edit.Script`: the commands with their labels.
-/

namespace MakeTen
namespace Edit

/-! ## Lines -/

/-- A pattern as it is given; without one, the last one that was used is meant. -/
structure Pattern where
  regex : Option Regex
  foldsCase : Bool
  /-- Whether a line end inside the text separates lines. -/
  hasLines : Bool

/-- A description of lines. -/
inductive Spot where
  | line (n : Nat)
  /-- Every so many lines from a first one on. -/
  | every (first step : Nat)
  | last
  | pattern (p : Pattern)

/-- Where a range ends. -/
inductive RangeEnd where
  | spot (s : Spot)
  /-- So many lines later. -/
  | later (n : Nat)
  /-- At the next line whose number is a multiple. -/
  | multiple (n : Nat)

/-- The lines that a command is for. -/
structure Lines where
  first : Option Spot
  last : Option RangeEnd
  /-- Whether the command is for all other lines instead. -/
  isNegated : Bool

/-! ## Replacements -/

/-- What is done to the case of letters. -/
inductive Casing where
  | upper
  | lower
  deriving DecidableEq

/-- A part of what is put in place of a match. -/
inductive Part where
  | text (chars : List Char)
  | group (n : Nat)
  /-- The case of all letters from here on. -/
  | casing (c : Option Casing)
  /-- The case of the next letter. -/
  | nextCasing (c : Casing)

/-- Matches replaced by something else. -/
structure Substitution where
  pattern : Pattern
  parts : List Part
  /-- The first match that is replaced, counted from one. -/
  first : Nat
  /-- Whether those after it are replaced as well. -/
  isGlobal : Bool
  /-- Whether the result is written. -/
  prints : Bool
  /-- Whether writing comes before evaluating. -/
  printsFirst : Bool
  /-- Whether the result is a shell command, whose output is the result. -/
  evaluates : Bool
  /-- The file that the result is written to. -/
  output : Option Raw

/-- The greatest group that a replacement refers to. -/
def greatestGroup (parts : List Part) : Nat :=
  parts.foldl (fun n part => match part with
    | .group m => max n m
    | _ => n) 0

/-! ## Commands -/

/-- When a jump is taken. -/
inductive JumpKind where
  | always
  | ifReplaced
  | unlessReplaced

/-- What a command does. -/
inductive Action where
  /-- Commands up to an index are for the chosen lines. -/
  | block (next : Nat)
  | nothing
  | jump (kind : JumpKind) (label : Raw)
  | append (text : Raw)
  | insert (text : Raw)
  | change (text : Raw)
  | substitute (s : Substitution)
  | exchangeLetters (pairs : List (Char × Char))
  | print
  | printFirst
  | delete
  | deleteFirst
  | next
  | nextAppended
  | keep
  | keepAppended
  | fetch
  | fetchAppended
  | exchange
  | clear
  | number
  | fileName
  | list (width : Option Nat)
  | quit (status : Nat) (prints : Bool)
  | readFile (path : Raw)
  | readLine (path : Raw)
  | writeFile (path : Raw)
  | writeFirst (path : Raw)
  /-- A shell command, or the line as one. -/
  | execute (text : Raw)

/-- A command. -/
structure Command where
  lines : Lines
  action : Action

/-- Commands with their labels. -/
structure Script where
  commands : Array Command
  labels : List (Raw × Nat)
  /-- Whether the first line asks that lines are not written by themselves. -/
  isSilent : Bool

/-- Nothing to do. -/
def Script.empty : Script := ⟨#[], [], false⟩

/-- Whether some command ends the work before the end of the input. -/
def Script.quits (s : Script) : Bool :=
  s.commands.any fun c => match c.action with
    | .quit _ _ => true
    | _ => false

/-- The files that commands write to. -/
def Script.outputs (s : Script) : List Raw :=
  s.commands.toList.filterMap fun c => match c.action with
    | .writeFile path => some path
    | .writeFirst path => some path
    | .substitute s => s.output
    | _ => none

/-! ## Applying replacements -/

/-- The case that is in force: for all letters, for the first letter of the next part,
and what a part without letters has left for the part after it. -/
structure CaseState where
  all : Option Casing
  next : Option Casing
  left : Option Casing

/-- A letter in some case. -/
def Casing.apply : Option Casing → Char → Char
  | none, c => c
  | some .upper, c => c.toUpper
  | some .lower, c => c.toLower

/-- Text in the case that is in force. -/
def CaseState.apply (s : CaseState) : List Char → List Char × CaseState
  | [] => ([], ⟨s.all, none, s.next⟩)
  | c :: rest =>
    let first := Casing.apply (s.next <|> s.left <|> s.all) c
    (first :: rest.map (Casing.apply s.all), ⟨s.all, none, none⟩)

/-- What is put in place of a match. -/
def expandParts (text : List Char) (m : Regex.Match) : CaseState → List Part → List Char
  | _, [] => []
  | s, part :: rest =>
    match part with
    | .text chars =>
      let (chars, s) := s.apply chars
      chars ++ expandParts text m s rest
    | .group n =>
      match m.group? n with
      | some (first, last) =>
        let (chars, s) := s.apply ((text.take last).drop first)
        chars ++ expandParts text m s rest
      | none => expandParts text m (s.apply []).2 rest
    | .casing c => expandParts text m ⟨c, none, none⟩ rest
    | .nextCasing c => expandParts text m ⟨s.all, some c, none⟩ rest

/-- A text with those of its matches replaced that a substitution is for; matches
are counted from `count` on, and `position` characters have been passed. -/
def replaceMatches (s : Substitution) (text : List Char) : Nat → Nat → List Regex.Match →
    List Char
  | _, position, [] => text.drop position
  | count, position, m :: rest =>
    let lead := (text.take m.first).drop position
    let isWanted := count = s.first ∨ (s.isGlobal ∧ s.first < count)
    let body := if isWanted then expandParts text m ⟨none, none, none⟩ s.parts
      else (text.take m.last).drop m.first
    lead ++ body ++ replaceMatches s text (count + 1) m.last rest

/-- A text after a substitution by a pattern, if anything has been replaced. -/
def Substitution.apply? (s : Substitution) (pattern : Pattern) (regex : Regex)
    (text : List Char) : Option (List Char) :=
  let subject : Regex.Subject :=
    ⟨text.toArray, pattern.foldsCase, pattern.hasLines, true, true, false⟩
  let isSingle := !s.isGlobal && s.first == 1
  let found := if isSingle then (Regex.find? subject regex 0).toList
    else Regex.findAll subject regex
  if found.length < s.first then none else some (replaceMatches s text 1 0 found)

end Edit
end MakeTen
