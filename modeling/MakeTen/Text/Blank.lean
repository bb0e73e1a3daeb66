/-!
# Blank characters

The characters that count as blank are those with the Unicode property
`White_Space`.  Trimming removes them from both ends of a text and leaves the
inner ones alone.

Main definitions:

- Function `Blank.isBlank`: membership in the property.
- Function `Blank.trim`: a text without its outer blanks.
-/

namespace MakeTen
namespace Blank

/-- The Unicode property `White_Space`. -/
def isBlank (c : Char) : Bool :=
  let n := c.toNat
  (0x09 ≤ n && n ≤ 0x0D) || n == 0x20 || n == 0x85 || n == 0xA0 || n == 0x1680 ||
    (0x2000 ≤ n && n ≤ 0x200A) || n == 0x2028 || n == 0x2029 || n == 0x202F ||
    n == 0x205F || n == 0x3000

/-- A text without the blanks at its end. -/
def trimEnd (cs : List Char) : List Char :=
  (cs.reverse.dropWhile isBlank).reverse

/-- A text without the blanks at its start and at its end. -/
def trim (cs : List Char) : List Char :=
  trimEnd (cs.dropWhile isBlank)

/-- A string without the blanks at its start and at its end. -/
def trimmed (s : String) : String :=
  String.ofList (trim s.toList)

@[simp]
theorem toList_trimmed (s : String) : (trimmed s).toList = trim s.toList := by
  simp [trimmed]

end Blank
end MakeTen
