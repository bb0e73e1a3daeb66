import MakeTen.Tool.Options
import MakeTen.Tool.Test
/-!
# Conditions

The program that tests texts, numbers and files.  It reads its arguments from
left to right, and how many of them there are decides what the first ones mean;
so it differs in places from the utility of the same name that shells have.

Main definitions:

- Type `Tool.ConditionFault`: what is wrong with a condition.
- Function `Tool.condition`: the value of a condition.
- Function `Tool.testProgram`: the program.
-/

namespace MakeTen
namespace Tool

/-- What is wrong with a condition. -/
inductive ConditionFault where
  | notNumber (text : Raw)
  | notUnary (text : Raw)
  | notBinary (text : Raw)
  | missingAfter (text : Raw)
  | extra (text : Raw)
  | expected
  | expectedBefore (text : Raw)
  | unclosed

/-- The fault in words. -/
def ConditionFault.text : ConditionFault → Raw
  | .notNumber text => "invalid integer ".toList ++ Quoting.forReader text
  | .notUnary text => Quoting.forReader text ++ ": unary operator expected".toList
  | .notBinary text => Quoting.forReader text ++ ": binary operator expected".toList
  | .missingAfter text => "missing argument after ".toList ++ Quoting.forReader text
  | .extra text => "extra argument ".toList ++ Quoting.forReader text
  | .expected => Quoting.forReader [')'] ++ " expected".toList
  | .expectedBefore text =>
    Quoting.forReader [')'] ++ " expected, found ".toList ++ Quoting.forReader text
  | .unclosed => "missing ".toList ++ Quoting.forReader [']']

/-! ## Operators -/

/-- Tests of two texts. -/
def isComparison (operator : Raw) : Bool :=
  ["=", "==", "!=", "-eq", "-ne", "-gt", "-ge", "-lt", "-le", "-nt", "-ot", "-ef"].any
    (·.toList = operator)

/-- Tests of one text. -/
def isCheck (operator : Raw) : Bool :=
  isUnary operator || operator = "-N".toList

/-- The value of a condition, with the words that are left; `last` is the last one
of all. -/
abbrev Conditional := StateT (List Raw) (Except ConditionFault)

/-- The number that a text stands for; there is no bound. -/
def wholeNumber (text : Raw) : Except ConditionFault Int :=
  match Raw.toInt? text with
  | some n => .ok n
  | none => .error (.notNumber text)

/-- The value of a test of two texts. -/
def compareTexts (s : Sight) (left operator right : Raw) : Except ConditionFault Bool := do
  let numbers (f : Int → Int → Bool) : Except ConditionFault Bool := do
    return f (← wholeNumber left) (← wholeNumber right)
  match String.ofList operator with
  | "=" => return left = right
  | "==" => return left = right
  | "!=" => return left ≠ right
  | "-eq" => numbers (· == ·)
  | "-ne" => numbers (· != ·)
  | "-gt" => numbers (fun a b => a > b)
  | "-ge" => numbers (fun a b => a ≥ b)
  | "-lt" => numbers (fun a b => a < b)
  | "-le" => numbers (fun a b => a ≤ b)
  | "-ef" => return samePlace s left right
  | "-nt" => return isNewer s left right
  | _ => return isNewer s right left

/-- Go on to the next word; if there has to be one, its lack is a fault. -/
def advanceWord (last : Raw) (needsMore : Bool) : Conditional Unit := do
  match ← get with
  | [] => throw (.missingAfter last)
  | _ :: rest =>
    if needsMore ∧ rest.isEmpty then throw (.missingAfter last)
    set rest

/-- A test of one text. -/
def checkText (s : Sight) (last : Raw) : Conditional Bool := do
  match ← get with
  | operator :: rest =>
    if ¬ isCheck operator then throw (.notUnary operator)
    else
      match rest with
      | [] => throw (.missingAfter last)
      | text :: rest =>
        set rest
        match String.ofList operator with
        | "-n" => return !text.isEmpty
        | "-z" => return text.isEmpty
        | "-t" => do
          let _ ← (wholeNumber text : Except ConditionFault Int)
          return false
        | "-N" => return false
        | _ => return s.holds operator text
  | [] => throw (.missingAfter last)

/-- A test of two texts. -/
def compareWords (s : Sight) (last : Raw) : Conditional Bool := do
  match ← get with
  | left :: operator :: right :: rest =>
    let value ← (compareTexts s left operator right : Except ConditionFault Bool)
    set rest
    return value
  | _ => throw (.missingAfter last)

/-- A text that is tested for being empty. -/
def plainText (last : Raw) : Conditional Bool := do
  match ← get with
  | word :: rest =>
    set rest
    return !word.isEmpty
  | [] => throw (.missingAfter last)

/-- Whether a word is a hyphen and one more character. -/
def isSwitch (word : Raw) : Bool :=
  match word with
  | ['-', _] => true
  | _ => false

/-! ## Numbers of words -/

/-- A condition of two words. -/
def twoWords (s : Sight) (last : Raw) : Conditional Bool := do
  match ← get with
  | word :: _ =>
    if word = ['!'] then do
      advanceWord last false
      return !(← plainText last)
    else if isSwitch word then checkText s last
    else throw (.missingAfter last)
  | [] => throw (.missingAfter last)

mutual

/-- Conditions one of which has to hold. -/
def anyTerm (s : Sight) (last : Raw) : Nat → Conditional Bool
  | 0 => throw (.missingAfter last)
  | fuel + 1 => do
    let first ← allTerms s last fuel
    match ← get with
    | ['-', 'o'] :: rest =>
      set rest
      let second ← anyTerm s last fuel
      return first || second
    | _ => return first

/-- Conditions all of which have to hold. -/
def allTerms (s : Sight) (last : Raw) : Nat → Conditional Bool
  | 0 => throw (.missingAfter last)
  | fuel + 1 => do
    let first ← oneTerm s last fuel
    match ← get with
    | ['-', 'a'] :: rest =>
      set rest
      let second ← allTerms s last fuel
      return first && second
    | _ => return first

/-- A single condition. -/
def oneTerm (s : Sight) (last : Raw) : Nat → Conditional Bool
  | 0 => throw (.missingAfter last)
  | fuel + 1 => do
    match ← get with
    | [] => throw (.missingAfter last)
    | ['!'] :: _ =>
      advanceWord last true
      return !(← oneTerm s last fuel)
    | ['('] :: rest =>
      advanceWord last true
      let inside := (rest.drop 1).takeWhile (· ≠ [')'])
      let count := if 3 ≤ inside.length then rest.length else inside.length + 1
      let value ← countedWords s last fuel count
      match ← get with
      | [] => throw .expected
      | [')'] :: rest =>
        set rest
        return value
      | word :: _ => throw (.expectedBefore word)
    | ['-', 'l'] :: text :: operator :: rest =>
      if isComparison operator ∧ ¬ rest.isEmpty then
        set (Raw.ofNat text.length :: operator :: rest)
        compareWords s last
      else if isComparison text then compareWords s last
      else checkText s last
    | word :: operator :: _ :: _ =>
      if isComparison operator then compareWords s last
      else if isSwitch word then checkText s last
      else plainText last
    | word :: _ => if isSwitch word then checkText s last else plainText last

/-- A condition of so many words. -/
def countedWords (s : Sight) (last : Raw) : Nat → Nat → Conditional Bool
  | 0, _ => throw (.missingAfter last)
  | fuel + 1, count => do
    let words ← get
    match count, words with
    | 1, _ => plainText last
    | 2, _ => twoWords s last
    | 3, first :: second :: third :: _ =>
      if isComparison second then compareWords s last
      else if first = ['!'] then do
        advanceWord last true
        return !(← twoWords s last)
      else if first = ['('] ∧ third = [')'] then do
        advanceWord last false
        let value ← plainText last
        advanceWord last false
        return value
      else if second = ['-', 'a'] ∨ second = ['-', 'o'] then anyTerm s last fuel
      else throw (.notBinary second)
    | 4, first :: _ :: _ :: fourth :: _ =>
      if first = ['!'] then do
        advanceWord last true
        return !(← countedWords s last fuel 3)
      else if first = ['('] ∧ fourth = [')'] then do
        advanceWord last false
        let value ← twoWords s last
        advanceWord last false
        return value
      else anyTerm s last fuel
    | _, _ => anyTerm s last fuel

end

/-- The value of a condition. -/
def condition (s : Sight) (words : List Raw) : Except ConditionFault Bool :=
  match words.getLast? with
  | none => .ok false
  | some last =>
    match (countedWords s last (8 * words.length + 8) words.length).run words with
    | .error fault => .error fault
    | .ok (value, []) => .ok value
    | .ok (_, word :: _) => .error (.extra word)

/-! ## The program -/

/-- Test a condition; under the name of a bracket, one that is closed. -/
def testProgram : Job Unit := do
  let d ← get
  let words : Option (List Raw) :=
    if d.call.shortName = ['['] then
      match d.call.arguments.reverse with
      | [']'] :: rest => some rest.reverse
      | _ => none
    else some d.call.arguments
  match words with
  | none => giveUp 2 ConditionFault.unclosed.text
  | some words =>
    match condition ⟨d.files, d.call.descriptors⟩ words with
    | .ok value => exit (if value then 0 else 1)
    | .error fault => giveUp 2 fault.text

end Tool
end MakeTen
