import MakeTen.Bytecode.Mnemonic
import MakeTen.Text.Blank
import MakeTen.Text.Escape
import MakeTen.Text.Utf8
/-!
# Code as text

Code travels as hexadecimal text.  Blanks around it and one `0x` in front are
ignored, and the pair `XX` marks an open operator slot.  Everything is read in
pairs of bytes from the left, so a fault is always the first one in the text.

Main definitions:

- Function `CodeText.parse`: the bytes that a text stands for.
- Structure `CodeText.Fault`: where and why a text stands for none.
- Relation `CodeText.Spells`: the grammar of the texts that are accepted.
-/

namespace MakeTen
namespace CodeText

/-! ## Faults -/

/-- What is wrong at some position of a text. -/
inductive Cause where
  /-- The last pair lacks its second half. -/
  | oddLength
  | badDigit (byte : UInt8)
  deriving Repr, DecidableEq

/-- Where and why a text stands for no code. -/
structure Fault where
  /-- Offset in the trimmed text. -/
  position : Nat
  cause : Cause
  deriving Repr, DecidableEq

/-- The cause in words.  An offending byte is shown as the character of the
same number. -/
def Cause.message : Cause → String
  | .oddLength => "odd number of hex digits"
  | .badDigit byte => "'" ++ Escape.char (Char.ofNat byte.toNat) ++ "' is not a hex digit"

/-- The fault in words. -/
def Fault.message (f : Fault) : String :=
  "Malformed hex at character " ++ toString f.position ++ ": " ++ f.cause.message

/-! ## Pairs -/

/-- Whether a byte is the letter of the slot marker, in either case. -/
def isMarker (b : UInt8) : Bool :=
  b == 0x58 || b == 0x78

/-- The byte that a pair stands for, when the pair starts at `position`. -/
def readPair (position : Nat) (high low : UInt8) : Except Fault UInt8 :=
  if isMarker high && isMarker low then .ok placeholder
  else
    match Hex.digitValue? high with
    | none => .error ⟨position, .badDigit high⟩
    | some h =>
      match Hex.digitValue? low with
      | none => .error ⟨position + 1, .badDigit low⟩
      | some l => .ok (h * 16 + l)

/-- The bytes that a sequence of pairs stands for, when the first of them
starts at `position`. -/
def readPairs (position : Nat) : List UInt8 → Except Fault (List UInt8)
  | high :: low :: rest =>
    match readPair position high low with
    | .error fault => .error fault
    | .ok b =>
      match readPairs (position + 2) rest with
      | .error fault => .error fault
      | .ok bs => .ok (b :: bs)
  | _ => .ok []

/-! ## Whole texts -/

/-- Length of the base mark `0x` at the start of a text, in either case. -/
def baseMarkLength : List Char → Nat
  | '0' :: 'x' :: _ => 2
  | '0' :: 'X' :: _ => 2
  | _ => 0

/-- The bytes that a text without outer blanks stands for. -/
def parseTrimmed (cs : List Char) : Except Fault (List UInt8) :=
  let start := baseMarkLength cs
  let digits := Utf8.encode (cs.drop start)
  if digits.length % 2 = 1 then .error ⟨start + digits.length, .oddLength⟩
  else readPairs start digits

/-- The bytes that a text stands for. -/
def parse (text : String) : Except Fault (List UInt8) :=
  parseTrimmed (Blank.trim text.toList)

/-! ## Grammar -/

/-- A pair of characters that spells a byte: its two digits in any case, or the
slot marker in any case for the slot byte. -/
def SpellsByte (high low : Char) (b : UInt8) : Prop :=
  (high.toLower = Hex.lowerDigit (b.toNat / 16) ∧ low.toLower = Hex.lowerDigit (b.toNat % 16)) ∨
    (b = placeholder ∧ high.toLower = 'x' ∧ low.toLower = 'x')

/-- Characters that spell bytes, pair by pair. -/
inductive SpellsBytes : List Char → List UInt8 → Prop where
  | nil : SpellsBytes [] []
  | cons {high low : Char} {b : UInt8} {cs : List Char} {bs : List UInt8} :
      SpellsByte high low b → SpellsBytes cs bs → SpellsBytes (high :: low :: cs) (b :: bs)

/-- A text that spells bytes: blanks, an optional base mark, pairs, blanks. -/
def Spells (text : String) (bytes : List UInt8) : Prop :=
  ∃ before mark pairs after : List Char,
    text.toList = before ++ mark ++ pairs ++ after ∧
      (∀ c ∈ before, Blank.isBlank c = true) ∧ (∀ c ∈ after, Blank.isBlank c = true) ∧
      (mark = [] ∨ mark = ['0', 'x'] ∨ mark = ['0', 'X']) ∧ SpellsBytes pairs bytes

end CodeText
end MakeTen
