import MakeTen.Regex.Syntax
/-!
# Scripts

A script goes through texts record by record.  It has rules, each with a pattern
that says for which records something is to be done, and functions of its own.
This module says what scripts are made of.

Main definitions:

- Type `Script.Expression`: what has a value.
- Type `Script.Statement`: what does something.
- Structure `Script.Program`: a script.
-/

namespace MakeTen
namespace Script

/-! ## Expressions -/

/-- A variable of the whole script or of a function. -/
inductive Slot where
  | shared (n : Nat)
  | own (n : Nat)
  deriving DecidableEq

/-- Operations on numbers. -/
inductive Arithmetic where
  | add
  | subtract
  | multiply
  | divide
  | remainder
  | power

/-- Comparisons of values. -/
inductive Comparison where
  | less
  | notGreater
  | equal
  | unequal
  | notLess
  | greater

/-- Where a line is read from. -/
inductive Origin where
  /-- The input of the script. -/
  | input
  | file
  | command
  deriving DecidableEq

/-- What has a value. -/
inductive Expression where
  | number (x : Float)
  | text (raw : Raw)
  /-- Whether the record has a part that a pattern matches. -/
  | pattern (regex : Regex)
  | variable (slot : Slot)
  | element (table : Slot) (indexes : List Expression)
  | field (index : Expression)
  /-- What stands in parentheses, so that nothing can be assigned to it. -/
  | group (e : Expression)
  | assign (target : Expression) (operation : Option Arithmetic) (value : Expression)
  /-- One more or one less; the value is that of before or of after. -/
  | count (target : Expression) (isUp isAfter : Bool)
  | arithmetic (operation : Arithmetic) (first second : Expression)
  | negative (e : Expression)
  | positive (e : Expression)
  | not (e : Expression)
  | compare (c : Comparison) (first second : Expression)
  | join (first second : Expression)
  | isMatch (isNegated : Bool) (text pattern : Expression)
  | and (first second : Expression)
  | or (first second : Expression)
  | choose (condition yes no : Expression)
  | isIn (indexes : List Expression) (table : Slot)
  /-- A function that all scripts know. -/
  | builtIn (name : String) (arguments : List Expression)
  /-- The length of a text or the size of a table. -/
  | measure (slot : Slot)
  | split (text : Expression) (table : Slot) (separator : Option Expression)
  | replace (isGlobal : Bool) (pattern replacement target : Expression)
  | call (function : Nat) (arguments : List Expression)
  | getLine (origin : Origin) (name : Option Expression) (target : Option Expression)

/-- Whether something can be assigned to an expression. -/
def Expression.isTarget : Expression → Bool
  | .variable _ => true
  | .element _ _ => true
  | .field _ => true
  | _ => false

/-! ## Statements -/

/-- Where a statement writes to. -/
inductive Outlet where
  | file
  /-- The end of a file. -/
  | fileEnd
  | command
  deriving DecidableEq

/-- What does something. -/
inductive Statement where
  | nothing
  | evaluate (e : Expression)
  | print (items : List Expression) (outlet : Option (Outlet × Expression))
  | printf (items : List Expression) (outlet : Option (Outlet × Expression))
  | block (statements : List Statement)
  | choice (condition : Expression) (yes no : Statement)
  /-- A loop; its condition is looked at before or after its body. -/
  | loop (first : Statement) (condition : Option Expression) (step body : Statement)
      (isAfter : Bool)
  | forEach (target : Expression) (table : Slot) (body : Statement)
  | delete (table : Slot) (indexes : List Expression)
  | clear (table : Slot)
  | nextRecord
  | nextFile
  | exit (status : Option Expression)
  | giveBack (value : Option Expression)
  | leaveLoop
  | nextRound

/-! ## Scripts -/

/-- When a rule is for a record. -/
inductive RulePattern where
  | always
  | when (e : Expression)
  /-- From one record to another one; the number tells the ranges apart. -/
  | range (n : Nat) (first last : Expression)

/-- A function of a script. -/
structure Function where
  name : Raw
  /-- For every parameter whether it is a table. -/
  parameters : List Bool
  body : Statement

/-- A script. -/
structure Program where
  /-- What is done before the first record. -/
  starts : List Statement
  rules : List (RulePattern × Statement)
  /-- What is done after the last record. -/
  finishes : List Statement
  functions : Array Function
  /-- The variables of the whole script, and whether they are tables. -/
  globals : Array (Raw × Bool)

/-! ## Variables that all scripts know -/

/-- The names of the variables that all scripts know, each at its slot. -/
def knownVariables : List String :=
  ["NF", "NR", "FNR", "FS", "OFS", "ORS", "RS", "FILENAME", "RSTART", "RLENGTH", "SUBSEP",
    "CONVFMT", "OFMT", "ARGC", "ARGV", "ENVIRON"]

/-- The slot of a variable that all scripts know. -/
def knownSlot (name : String) : Nat :=
  knownVariables.idxOf name

/-- The number of fields. -/
def fieldCountSlot : Nat := knownSlot "NF"

/-- What separates fields. -/
def separatorSlot : Nat := knownSlot "FS"

end Script
end MakeTen
