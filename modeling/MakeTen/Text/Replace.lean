/-!
# Replacing and finding parts of a text

Main definitions:

- Function `Replace.all`: every occurrence of a pattern replaced from the left.
- Function `Replace.hasPart`: whether a pattern occurs at all.
- Function `Replace.lines`: the lines of a text.
-/

namespace MakeTen
namespace Replace

/-- A text with occurrences of `pattern` replaced by `value`, after `skip`
characters that belong to an occurrence already replaced. -/
def allAfter (pattern value : List Char) (skip : Nat) : List Char → List Char
  | [] => []
  | c :: cs =>
    match skip with
    | n + 1 => allAfter pattern value n cs
    | 0 =>
      if pattern.isPrefixOf (c :: cs) then
        value ++ allAfter pattern value (pattern.length - 1) cs
      else c :: allAfter pattern value 0 cs

/-- A text with every occurrence of a non-empty pattern replaced by a value,
from left to right and without overlaps.  Replaced text is not looked at
again. -/
def all (pattern value text : List Char) : List Char :=
  allAfter pattern value 0 text

/-- Whether a pattern occurs in a text. -/
def hasPart (pattern : List Char) : List Char → Bool
  | [] => pattern.isEmpty
  | c :: cs => pattern.isPrefixOf (c :: cs) || hasPart pattern cs

/-! ## Lines -/

/-- The parts of a text that end with a line feed, and the rest. -/
def splitLines : List Char → List (List Char) × List Char
  | [] => ([], [])
  | c :: cs =>
    let (ended, rest) := splitLines cs
    if c = '\n' then ([] :: ended, rest)
    else
      match ended with
      | [] => ([], c :: rest)
      | line :: others => ((c :: line) :: others, rest)

/-- A line without the carriage return at its end. -/
def dropReturn (line : List Char) : List Char :=
  if line.getLast? = some '\r' then line.dropLast else line

/-- The lines of a text.  A line ends with a line feed, or with a carriage
return and a line feed; a non-empty rest is a line as well. -/
def lines (text : List Char) : List (List Char) :=
  let (ended, rest) := splitLines text
  ended.map dropReturn ++ (if rest.isEmpty then [] else [rest])

end Replace
end MakeTen
