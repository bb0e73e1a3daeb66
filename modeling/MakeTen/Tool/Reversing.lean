import MakeTen.Regex.Matching
import MakeTen.Regex.Reader
import MakeTen.Tool.Lines
/-!
# Lines backwards

The program `tac` shows the lines of files backwards, the last one first.  Lines may be
separated by a text or by what a regular expression matches.

Main definitions:

- Function `Tool.partsBackwards`: the parts of a text between separators, backwards.
- Function `Tool.tac`: the program.
-/

namespace MakeTen
namespace Tool

/-- The parts of a text that a separator ends, or starts, the last one first.  The text
is given in reverse, as is the separator, and `part` is what follows it; `skipped`
characters belong to a separator already seen. -/
def partsBackwards (separator : Raw) (isLead : Bool) (skipped : Nat) (part : Raw) :
    Raw → List Raw
  | [] => if part.isEmpty then [] else [part]
  | c :: rest =>
    match skipped with
    | n + 1 => partsBackwards separator isLead n part rest
    | 0 =>
      if ¬ separator.isPrefixOf (c :: rest) then
        partsBackwards separator isLead 0 (c :: part) rest
      else
        let size := separator.length - 1
        if isLead then
          (separator.reverse ++ part) :: partsBackwards separator isLead size [] rest
        else
          let later := partsBackwards separator isLead size separator.reverse rest
          if part.isEmpty then later else part :: later

/-- A regular expression in which alternatives, groups and counts need a backslash,
as one in which they need none. -/
def plainSpelling : Raw → Raw
  | '\\' :: c :: rest =>
    if "(|)\x7b\x7d".toList.contains c then c :: plainSpelling rest
    else '\\' :: c :: plainSpelling rest
  | c :: rest =>
    if "(|)\x7b\x7d".toList.contains c then '\\' :: c :: plainSpelling rest
    else c :: plainSpelling rest
  | [] => []

/-- The last match of a separator in a text that starts before a position and ends up to
another one. -/
def lastMatch? (separator : Regex) (text : Raw) (limit : Nat) : Nat → Option (Nat × Nat)
  | 0 => none
  | start + 1 =>
    let s := Regex.Subject.ofLine false (text.take limit)
    match Regex.matchAt? { s with hasLines := true } separator start with
    | some m => some (m.first, m.last)
    | none => lastMatch? separator text limit start

/-- The parts of a text between matches of a separator, backwards.  The last part ends at
`stop`, and matches are looked for before `limit`. -/
def matchesBackwards (separator : Regex) (isLead : Bool) (text : Raw) :
    Nat → Bool → Nat → Nat → List Raw
  | 0, _, _, _ => []
  | fuel + 1, isFirst, stop, limit =>
    let part (start stop : Nat) : Raw := (text.take stop).drop start
    match lastMatch? separator text limit limit with
    | none => [part 0 stop]
    | some (first, last) =>
      if isLead then
        part first stop :: matchesBackwards separator isLead text fuel false first first
      else
        let later := matchesBackwards separator isLead text fuel false last first
        if isFirst ∧ last = stop then later else part last stop :: later

/-- Show lines backwards, the last one first.  What is shown is written in the end. -/
def tac : Job Unit := do
  let o ← options "b,before r,regex s,separator:"
  let given := o.value? "s"
  let separator := match given with
    | none => ['\n']
    | some [] => [Raw.nul]
    | some raw => raw
  let regex : Option Regex ← if ¬ o.has "r" then pure none
    else if given = some [] then giveUp 1 "separator cannot be empty".toList
    else
      match Regex.read Regex.Flavour.extendedEdit (plainSpelling separator) with
      | .ok regex => pure (some regex)
      | .error fault => giveUp 1 fault.text.toList
  let mut isGood := true
  for path in o.files do
    match ← operand path with
    | .error .isDirectory =>
      complain (shown (prettyName path) ++ ": read error: Invalid argument".toList)
      isGood := false
    | .error .badDescriptor =>
      complain (shown (prettyName path) ++ ": read error: Bad file descriptor".toList)
      isGood := false
    | .error fault =>
      complain ("failed to open ".toList ++ named path ++ " for reading: ".toList ++
        faultText fault)
      isGood := false
    | .ok raw =>
      match regex with
      | none => say (partsBackwards separator.reverse (o.has "b") 0 [] raw.reverse).flatten
      | some regex =>
        say (matchesBackwards regex (o.has "b") raw (raw.length + 1) true raw.length
          raw.length).flatten
  exitClosing isGood o.files "-"

end Tool
end MakeTen
