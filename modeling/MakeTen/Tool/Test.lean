import MakeTen.Host.Rearrange
import MakeTen.Tool.Job
/-!
# Tests

The utility that tests texts, numbers and files.  Its arguments are an
expression; with few arguments their number decides how they are read.

Main definitions:

- Type `Tool.TestFault`: what is wrong with an expression.
- Function `Tool.test`: the value of an expression.
-/

namespace MakeTen
namespace Tool

/-- What is wrong with an expression. -/
inductive TestFault where
  | badNumber (text : Raw)
  | unexpected (text : Raw)
  | missing (text : Raw)
  | unclosed

/-- A text in front of what is said about it; nothing if it is empty. -/
def about (text : Raw) : Raw :=
  if text.isEmpty then [] else text ++ ": ".toList

/-- The fault in words. -/
def TestFault.message : TestFault → Raw
  | .badNumber text => "Illegal number: ".toList ++ text
  | .unexpected text => about text ++ "unexpected operator".toList
  | .missing text => about text ++ "argument expected".toList
  | .unclosed => "closing paren expected".toList

/-! ## Operators -/

/-- Tests of one text. -/
def isUnary (operator : Raw) : Bool :=
  ["-n", "-z", "-e", "-f", "-d", "-s", "-r", "-w", "-x", "-h", "-L", "-t", "-b", "-c", "-p",
    "-S", "-u", "-g", "-k", "-O", "-G"].any (·.toList = operator)

/-- Tests of two texts. -/
def isBinary (operator : Raw) : Bool :=
  ["=", "!=", "-eq", "-ne", "-gt", "-ge", "-lt", "-le", "<", ">", "-nt", "-ot", "-ef"].any
    (·.toList = operator)

/-- What tests of files look at. -/
structure Sight where
  files : Files
  /-- What the descriptors of the program lead to. -/
  descriptors : List (Nat × Opened)

/-- What a path leads to, when descriptors are followed as well. -/
def Sight.opened? (s : Sight) (path : Raw) : Option Opened :=
  match s.files.follow (Raw.toString path) with
  | .error _ => none
  | .ok place =>
    match s.files.at? place with
    | some (.device (.descriptor n)) => s.descriptors.lookup n
    | some (.device device) => some (.device device)
    | some _ => some (.file place)
    | none => none

/-- The bits of what a path leads to. -/
def Sight.mode (s : Sight) (path : Raw) : Nat :=
  match s.opened? path with
  | some (.file place) => s.files.modeAt place
  | _ => 0

/-- What a path leads to if it is no device and no pipe. -/
def Sight.node? (s : Sight) (path : Raw) : Option FileNode :=
  match s.opened? path with
  | some (.file place) => s.files.at? place
  | _ => none

/-- Whether a path leads to a link. -/
def Sight.isLink (s : Sight) (path : Raw) : Bool :=
  match s.files.lead false (Raw.toString path) with
  | .ok place =>
    match s.files.at? place with
    | some (.link _) => true
    | _ => false
  | .error _ => false

/-- The value of a test of a path. -/
def Sight.holds (s : Sight) (operator path : Raw) : Bool :=
  let isThere := (s.opened? path).isSome
  match String.ofList operator with
  | "-d" => s.node? path = some .directory
  | "-f" =>
    match s.node? path with
    | some (.file _) => true
    | some (.program _) => true
    | _ => false
  | "-s" =>
    match s.node? path with
    | some (.file contents) => !contents.isEmpty
    | some _ => true
    | none => false
  | "-x" => s.node? path = some .directory || s.mode path &&& 0o111 != 0
  | "-c" =>
    match s.opened? path with
    | some (.device _) => true
    | _ => false
  | "-p" => s.opened? path = some .pipe
  | "-h" => s.isLink path
  | "-L" => s.isLink path
  | "-u" => s.mode path &&& 0o4000 != 0
  | "-g" => s.mode path &&& 0o2000 != 0
  | "-k" => s.mode path &&& 0o1000 != 0
  | "-b" => false
  | "-S" => false
  | _ => isThere

/-- The value of a test of one text. -/
def unary (s : Sight) (operator text : Raw) : Except TestFault Bool :=
  match String.ofList operator with
  | "-n" => .ok !text.isEmpty
  | "-z" => .ok text.isEmpty
  | "-t" => if (Raw.toInt? text).isSome then .ok false else .error (.badNumber text)
  | _ => .ok (s.holds operator text)

/-- The number that a text stands for. -/
def testNumber (text : Raw) : Except TestFault Int :=
  match Raw.toInt? text with
  | some n => if -Raw.numberBound ≤ n ∧ n < Raw.numberBound then .ok n else .error (.badNumber text)
  | none => .error (.badNumber text)

/-- Whether two paths lead to the same place. -/
def samePlace (s : Sight) (left right : Raw) : Bool :=
  match s.opened? left, s.opened? right with
  | some (.file place), some (.file other) => s.files.isSame place other
  | some (.device device), some (.device other) => device = other
  | _, _ => false

/-- Whether both paths lead to files, and the first one has been changed later. -/
def isNewer (s : Sight) (left right : Raw) : Bool :=
  match s.opened? left, s.opened? right with
  | some (.file place), some (.file other) => s.files.age place < s.files.age other
  | _, _ => false

/-- The value of a test of two texts. -/
def binary (s : Sight) (left operator right : Raw) : Except TestFault Bool := do
  let numbers (f : Int → Int → Bool) : Except TestFault Bool := do
    return f (← testNumber left) (← testNumber right)
  match String.ofList operator with
  | "=" => return left = right
  | "!=" => return left ≠ right
  | "<" => return !Raw.le right left
  | ">" => return !Raw.le left right
  | "-eq" => numbers (· == ·)
  | "-ne" => numbers (· != ·)
  | "-gt" => numbers (fun a b => a > b)
  | "-ge" => numbers (fun a b => a ≥ b)
  | "-lt" => numbers (fun a b => a < b)
  | "-le" => numbers (fun a b => a ≤ b)
  | "-ef" => return samePlace s left right
  | "-nt" => return isNewer s left right
  | _ => return isNewer s right left

/-! ## Expressions -/

/-- What a word means where an operand or an operator may stand. -/
inductive TestToken where
  | nothing
  | operand
  | unary
  | binary
  | negation
  | both
  | either
  | opening
  | closing
  deriving DecidableEq

/-- What the head of some words means.  A test of one text that has no text to
test is a text itself, and so is one in front of a test of two texts. -/
def testToken (words : List Raw) : TestToken :=
  match words with
  | [] => .nothing
  | word :: rest =>
    if isUnary word then
      match rest with
      | [] => .operand
      | [_] => .unary
      | next :: _ => if isBinary next then .operand else .unary
    else if isBinary word then .binary
    else if word = ['!'] then .negation
    else if word = "-a".toList then .both
    else if word = "-o".toList then .either
    else if word = ['('] then if rest.isEmpty then .operand else .opening
    else if word = [')'] then .closing
    else .operand

/-- A value with the words from the last one used on. -/
abbrev Tested := Except TestFault (Bool × List Raw)

mutual

/-- Alternatives, the loosest kind of expression; the meaning of the head is
given. -/
def testOr (s : Sight) (fuel : Nat) (token : TestToken) (words : List Raw) : Tested :=
  match fuel with
  | 0 => .ok (false, words)
  | fuel + 1 => do
    let (first, words) ← testAnd s fuel token words
    if testToken (words.drop 1) = .either then do
      let rest := words.drop 2
      let (second, words) ← testOr s fuel (testToken rest) rest
      return (first || second, words)
    else return (first, words)

/-- Conditions that all have to hold. -/
def testAnd (s : Sight) (fuel : Nat) (token : TestToken) (words : List Raw) : Tested :=
  match fuel with
  | 0 => .ok (false, words)
  | fuel + 1 => do
    let (first, words) ← testNot s fuel token words
    if testToken (words.drop 1) = .both then do
      let rest := words.drop 2
      let (second, words) ← testAnd s fuel (testToken rest) rest
      return (first && second, words)
    else return (first, words)

/-- A negation or a single test. -/
def testNot (s : Sight) (fuel : Nat) (token : TestToken) (words : List Raw) : Tested :=
  match fuel with
  | 0 => .ok (false, words)
  | fuel + 1 =>
    if token = .negation then do
      let rest := words.drop 1
      let next := if rest.isEmpty then words else rest
      let (value, words) ← testNot s fuel (testToken rest) next
      return (!value, words)
    else testSingle s fuel token words

/-- A single test, or an expression in parentheses. -/
def testSingle (s : Sight) (fuel : Nat) (token : TestToken) (words : List Raw) : Tested :=
  match fuel with
  | 0 => .ok (false, words)
  | fuel + 1 =>
    match token, words with
    | .nothing, _ => .ok (false, words)
    | .opening, _ => do
      let rest := words.drop 1
      if testToken rest = .closing then return (false, rest)
      let (value, words) ← testOr s fuel (testToken rest) rest
      if testToken (words.drop 1) = .closing then return (value, words.drop 1)
      else .error .unclosed
    | .unary, [operator] => .error (.missing operator)
    | .unary, operator :: text :: rest => do return (← unary s operator text, text :: rest)
    | _, left :: operator :: rest =>
      if testToken (operator :: rest) = .binary then
        match rest with
        | right :: rest => do return (← binary s left operator right, right :: rest)
        | [] => .error (.missing operator)
      else .ok (!left.isEmpty, words)
    | _, [word] => .ok (!word.isEmpty, words)
    | _, [] => .ok (false, words)

end

/-- The value of some words read as an expression; the meaning of the head is
given. -/
def testWords (s : Sight) (token : TestToken) (words : List Raw) : Except TestFault Bool := do
  let (value, rest) ← testOr s (8 * words.length + 8) token words
  match rest with
  | word :: _ :: _ => .error (.unexpected word)
  | _ => return value

/-- The value of an expression.  Three words with a test of two texts in the
middle are that test.  Three or four words may be a negation of the others, or
stand between parentheses. -/
def test (s : Sight) (words : List Raw) : Except TestFault Bool :=
  match words with
  | [] => .ok false
  | [left, operator, right] =>
    if isBinary operator then testWords s .operand words
    else if left = ['('] ∧ right = [')'] then testWords s (testToken [operator]) [operator]
    else if left = ['!'] then do
      let others := [operator, right]
      return !(← testWords s (testToken others) others)
    else testWords s (testToken words) words
  | [first, second, third, fourth] =>
    let inner := [second, third]
    if first = ['('] ∧ fourth = [')'] then testWords s (testToken inner) inner
    else if first = ['!'] then do return !(← test s [second, third, fourth])
    else testWords s (testToken words) words
  | words => testWords s (testToken words) words

end Tool
end MakeTen
