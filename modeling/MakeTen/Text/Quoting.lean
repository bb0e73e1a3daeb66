import MakeTen.Text.Raw
/-!
# Quoting

Two ways to put a text between quotes: one for people, and one that a shell
reads back.  The second one leaves a text alone that needs no quotes, prefers
single quotes, and writes what cannot be seen as escapes in quotes of their
own.

Main definitions:

- Function `Quoting.forReader`: a text between quotes, for people.
- Functions `Quoting.forShell` and `Quoting.alwaysForShell`: a text that a shell
  reads back.
-/

namespace MakeTen
namespace Quoting

/-! ## Escapes -/

/-- The letter of a short escape. -/
def letter? (c : Char) : Option Char :=
  match c.toNat with
  | 7 => some 'a'
  | 8 => some 'b'
  | 9 => some 't'
  | 10 => some 'n'
  | 11 => some 'v'
  | 12 => some 'f'
  | 13 => some 'r'
  | _ => none

/-- A byte that cannot be seen, after its backslash. -/
def escapeBody (c : Char) : Raw :=
  match letter? c with
  | some l => [l]
  | none => Raw.padStart 3 '0' (Raw.digits 8 c.toNat)

/-- Whether a byte can be seen. -/
def isSeen (c : Char) : Bool :=
  ' ' ≤ c && c ≤ '~'

/-! ## For people -/

/-- A text between single quotes, with escapes for what cannot be seen and for such
quotes. -/
def forReader (raw : Raw) : Raw :=
  let one (c : Char) : Raw :=
    if c = '\\' ∨ c = '\'' then ['\\', c] else if isSeen c then [c] else '\\' :: escapeBody c
  ['\''] ++ raw.flatMap one ++ ['\'']

/-! ## For shells -/

/-- Characters that mean something to a shell wherever they are. -/
def isActive (c : Char) : Bool :=
  " !\"$&()*;<=>?[\\^\x60|'".toList.contains c

/-- Characters that stand for themselves between double quotes too. -/
def isPlainInDouble (c : Char) : Bool :=
  c.isAlphanum || " %+,-./:]_'".toList.contains c

/-- Whether a text means something else to a shell than itself. -/
def needsQuotes (raw : Raw) : Bool :=
  let first := raw.head?
  raw.isEmpty || raw.any isActive || first == some '#' || first == some '~' ||
    raw == ['\x7b'] || raw == ['\x7d'] || raw.any (!isSeen ·)

/-- Bytes between single quotes, with quotes of their own for escapes; the flag
says whether such quotes are open. -/
def single (isOpen : Bool) : Raw → Raw
  | [] => []
  | c :: rest =>
    if isSeen c then
      let close := if isOpen ∧ c ≠ '\'' then ['\'', '\''] else []
      let text := if c = '\'' then ['\'', '\\', '\''] ++ ['\''] else [c]
      close ++ text ++ single false rest
    else
      let start := if isOpen then [] else ['\'', '$', '\'']
      start ++ '\\' :: escapeBody c ++ single true rest

/-- A text between quotes that a shell reads back. -/
def alwaysForShell (raw : Raw) : Raw :=
  if raw.contains '\'' ∧ raw.all isPlainInDouble then ['"'] ++ raw ++ ['"']
  else ['\''] ++ single false raw ++ ['\'']

/-- A text that a shell reads back, between quotes only if it needs them. -/
def forShell (raw : Raw) : Raw :=
  if needsQuotes raw then alwaysForShell raw else raw

end Quoting
end MakeTen
