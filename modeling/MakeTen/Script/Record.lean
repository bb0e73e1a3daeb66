import MakeTen.Regex.Matching
import MakeTen.Regex.Reader
import MakeTen.Script.Cell
/-!
# Records and fields

A text is cut into records, and a record into fields.  What separates them may be
blanks, a character, empty lines, or anything that a pattern matches.

Main definitions:

- Type `Script.Separator`: what separates the parts of a text.
- Function `Script.Separator.cut`: the parts of a text.
- Function `Script.takeRecord`: the record at the head of a text.
- Function `Script.replacement`: what is put in place of a match.
-/

namespace MakeTen
namespace Script

/-- A text in which a pattern is looked for. -/
def subjectOf (raw : Raw) : Regex.Subject :=
  ⟨raw.toArray, false, false, true, true, false⟩

/-- The first match that is not empty, from a position on. -/
def findWide? (s : Regex.Subject) (regex : Regex) : Nat → Nat → Option Regex.Match
  | 0, _ => none
  | fuel + 1, start =>
    match Regex.find? s regex start with
    | some m => if m.first < m.last then some m else findWide? s regex fuel (m.first + 1)
    | none => none

/-! ## Separators -/

/-- What separates the parts of a text. -/
inductive Separator where
  | blanks
  /-- Every character is a part. -/
  | nothing
  | char (c : Char)
  | pattern (regex : Regex)

/-- The separator that a text describes. -/
def Separator.read (raw : Raw) : Except Regex.Fault Separator :=
  match raw with
  | [] => .ok .nothing
  | [c] => .ok (if c = ' ' then .blanks else .char c)
  | raw => (Regex.read .script raw).map .pattern

/-- The parts of a text between matches; the text is given from `position` on. -/
def betweenMatches : List Regex.Match → Nat → Raw → List Raw
  | [], _, raw => [raw]
  | m :: rest, position, raw =>
    raw.take (m.first - position) :: betweenMatches rest m.last (raw.drop (m.last - position))

/-- The parts of a text. -/
def Separator.cut (s : Separator) (raw : Raw) : List Raw :=
  if raw.isEmpty then []
  else
    match s with
    | .blanks => Raw.splitOnto Raw.isSpace [] [] raw |>.filter (¬ ·.isEmpty)
    | .nothing => raw.map fun c => [c]
    | .char c => Raw.splitOn c raw
    | .pattern regex =>
      let found := (Regex.findAll (subjectOf raw) regex).filter fun m => m.first < m.last
      betweenMatches found 0 raw

/-! ## Records -/

/-- What comes of looking for a record. -/
inductive RecordReading where
  | record (raw rest : Raw)
  /-- There is none. -/
  | none
  /-- That depends on what follows. -/
  | later

/-- The part of a text in front of an empty line, and what follows the empty line. -/
def beforeGap : Raw → Option (Raw × Raw)
  | '\n' :: '\n' :: rest => some ([], rest)
  | c :: rest => (beforeGap rest).map fun (head, tail) => (c :: head, tail)
  | [] => none

/-- The record at the head of a text, which goes on unless `isEnded`. -/
def takeRecord (s : Separator) (isEnded : Bool) (raw : Raw) : RecordReading :=
  let last (raw : Raw) : RecordReading :=
    if ¬ isEnded then .later else if raw.isEmpty then .none else .record raw []
  let upTo (c : Char) : RecordReading :=
    let line := raw.takeWhile (· ≠ c)
    match raw.drop line.length with
    | _ :: rest => .record line rest
    | [] => last line
  match s with
  | .char c => upTo c
  | .blanks => upTo ' '
  | .nothing =>
    let body := raw.dropWhile (· = '\n')
    match beforeGap body with
    | some (head, tail) => .record head tail
    | none => last (if body.getLast? = some '\n' ∧ isEnded then body.dropLast else body)
  | .pattern regex =>
    match findWide? (subjectOf raw) regex (raw.length + 1) 0 with
    | some m =>
      if m.last = raw.length ∧ ¬ isEnded then .later
      else .record (raw.take m.first) (raw.drop m.last)
    | none => last raw

/-! ## Replacing -/

/-- What is put in place of a match: an ampersand stands for the match, unless an odd
number of backslashes is in front of it. -/
def replacement (matched : Raw) : Nat → Raw → Raw
  | backslashes, [] => List.replicate backslashes '\\'
  | backslashes, c :: rest =>
    if c = '\\' then replacement matched (backslashes + 1) rest
    else if c = '&' then
      List.replicate (backslashes / 2) '\\' ++
        (if backslashes % 2 = 1 then ['&'] else matched) ++ replacement matched 0 rest
    else List.replicate backslashes '\\' ++ c :: replacement matched 0 rest

/-- A text with matches replaced; the text is given from `position` on. -/
def replaceAll (template : Raw) : List Regex.Match → Nat → Raw → Raw
  | [], _, raw => raw
  | m :: rest, position, raw =>
    let lead := raw.take (m.first - position)
    let tail := raw.drop (m.first - position)
    let size := m.last - m.first
    lead ++ replacement (tail.take size) 0 template ++
      replaceAll template rest m.last (tail.drop size)

end Script
end MakeTen
