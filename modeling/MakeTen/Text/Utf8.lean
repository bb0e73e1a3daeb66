/-!
# Byte streams as UTF-8

One scan over the bytes recognises characters and faults.  A fault is one
maximal subpart: the longest run that starts like a character and cannot be
completed, or a single byte that starts none.  Strict reading refuses a stream
with a fault; lenient reading puts one replacement character for each.

Main definitions:

- Function `Utf8.scan`: the characters and the faults of a byte stream.
- Function `Utf8.decode?`: strict reading.
- Function `Utf8.decodeLossy`: lenient reading.
- Function `Utf8.encode`: the bytes of a text.
-/

namespace MakeTen
namespace Utf8

/-! ## Encoding -/

/-- The bytes of a text. -/
def encode (cs : List Char) : List UInt8 :=
  cs.flatMap String.utf8EncodeChar

/-- The bytes of a string. -/
def encodeString (s : String) : List UInt8 :=
  encode s.toList

@[simp]
theorem encode_nil : encode [] = [] := rfl

@[simp]
theorem encode_append (xs ys : List Char) : encode (xs ++ ys) = encode xs ++ encode ys := by
  simp [encode]

/-! ## Scanning -/

/-- A character whose first bytes have been read. -/
structure Pending where
  /-- Least value that the next byte may have. -/
  low : UInt8
  /-- Greatest value that the next byte may have. -/
  high : UInt8
  /-- How many bytes follow the next one. -/
  more : Nat
  /-- The bits read so far. -/
  value : Nat
  deriving Repr, DecidableEq

/-- What a byte means at the start of a character. -/
inductive Lead where
  /-- The byte is a character by itself. -/
  | whole (c : Char)
  /-- The byte starts a longer sequence. -/
  | opens (pending : Pending)
  /-- No character starts with the byte. -/
  | stray
  deriving Repr, DecidableEq

/-- Classification of the first byte of a sequence.  The range of the second
byte excludes overlong forms, surrogates and values above the last code point. -/
def lead (b : UInt8) : Lead :=
  if b < 0x80 then .whole (Char.ofNat b.toNat)
  else if b < 0xC2 then .stray
  else if b < 0xE0 then .opens ⟨0x80, 0xBF, 0, b.toNat - 0xC0⟩
  else if b = 0xE0 then .opens ⟨0xA0, 0xBF, 1, 0⟩
  else if b = 0xED then .opens ⟨0x80, 0x9F, 1, 0x0D⟩
  else if b < 0xF0 then .opens ⟨0x80, 0xBF, 1, b.toNat - 0xE0⟩
  else if b = 0xF0 then .opens ⟨0x90, 0xBF, 2, 0⟩
  else if b < 0xF4 then .opens ⟨0x80, 0xBF, 2, b.toNat - 0xF0⟩
  else if b = 0xF4 then .opens ⟨0x80, 0x8F, 2, 4⟩
  else .stray

/-- The characters of a byte stream in order, with `none` for every maximal
subpart that is not one.  The first argument is the sequence already begun. -/
def scan : Option Pending → List UInt8 → List (Option Char)
  | none, [] => []
  | some _, [] => [none]
  | pending, b :: bytes =>
    let fresh (_ : Unit) := match lead b with
      | .whole c => some c :: scan none bytes
      | .opens p => scan (some p) bytes
      | .stray => none :: scan none bytes
    match pending with
    | none => fresh ()
    | some p =>
      if p.low ≤ b ∧ b ≤ p.high then
        let value := p.value * 64 + (b.toNat - 0x80)
        match p.more with
        | 0 => some (Char.ofNat value) :: scan none bytes
        | more + 1 => scan (some ⟨0x80, 0xBF, more, value⟩) bytes
      else
        none :: fresh ()

/-! ## Decoding -/

/-- The character that stands for a fault. -/
def replacement : Char := Char.ofNat 0xFFFD

/-- Lenient reading: one replacement character for every fault. -/
def decodeLossy (bytes : List UInt8) : List Char :=
  (scan none bytes).map (·.getD replacement)

/-- Strict reading: nothing if there is a fault. -/
def decode? (bytes : List UInt8) : Option (List Char) :=
  (scan none bytes).mapM id

end Utf8
end MakeTen
