import MakeTen.Text.Hex
/-!
# Characters quoted in diagnostics

A diagnostic shows a character so that it can be read on any terminal:
printable ASCII stands for itself, quotes and the backslash are escaped, and
all else is written by its code point in braces.
-/

namespace MakeTen
namespace Escape

/-- A character as a diagnostic shows it. -/
def char (c : Char) : String :=
  if c = '\t' then "\\t"
  else if c = '\r' then "\\r"
  else if c = '\n' then "\\n"
  else if c = '\'' ∨ c = '"' ∨ c = '\\' then String.ofList ['\\', c]
  else if 0x20 ≤ c.toNat ∧ c.toNat ≤ 0x7E then String.ofList [c]
  else String.ofList (['\\', 'u', Char.ofNat 0x7B] ++ Nat.toDigits 16 c.toNat ++ [Char.ofNat 0x7D])

end Escape
end MakeTen
