/-!
# Hexadecimal text

Bytes are written as two digits each, the high half first, in either letter
case.  Reading goes digit by digit, since the callers differ in what they
accept around the digits.

Main definitions:

- Function `Hex.digitValue?`: the value of one digit, given as an ASCII byte.
- Functions `Hex.lower` and `Hex.upper`: two digits for every byte.
- Functions `Hex.natLower` and `Hex.natUpper`: a number in at least two digits.
-/

namespace MakeTen
namespace Hex

/-! ## Reading one digit -/

/-- Value of an ASCII hexadecimal digit in either letter case. -/
def digitValue? (b : UInt8) : Option UInt8 :=
  if 0x30 ≤ b ∧ b ≤ 0x39 then some (b - 0x30)
  else if 0x61 ≤ b ∧ b ≤ 0x66 then some (b - 0x61 + 10)
  else if 0x41 ≤ b ∧ b ≤ 0x46 then some (b - 0x41 + 10)
  else none

/-! ## Writing bytes -/

/-- The lower-case digit of a value below sixteen. -/
def lowerDigit (n : Nat) : Char :=
  Nat.digitChar n

/-- The upper-case digit of a value below sixteen. -/
def upperDigit (n : Nat) : Char :=
  (Nat.digitChar n).toUpper

/-- Two lower-case digits of a byte. -/
def lowerPair (b : UInt8) : List Char :=
  [lowerDigit (b.toNat / 16), lowerDigit (b.toNat % 16)]

/-- Two upper-case digits of a byte. -/
def upperPair (b : UInt8) : List Char :=
  [upperDigit (b.toNat / 16), upperDigit (b.toNat % 16)]

/-- Bytes in lower case, without any separator. -/
def lower (bytes : List UInt8) : String :=
  String.ofList (bytes.flatMap lowerPair)

/-- Bytes in upper case, without any separator. -/
def upper (bytes : List UInt8) : String :=
  String.ofList (bytes.flatMap upperPair)

@[simp]
theorem toList_lower (bytes : List UInt8) :
    (lower bytes).toList = bytes.flatMap lowerPair := by
  simp [lower]

@[simp]
theorem toList_upper (bytes : List UInt8) :
    (upper bytes).toList = bytes.flatMap upperPair := by
  simp [upper]

/-! ## Writing numbers -/

/-- Digits of a number, with a zero in front if there is only one. -/
def atLeastTwo (digits : List Char) : List Char :=
  if digits.length < 2 then '0' :: digits else digits

/-- A number in lower-case hexadecimal with at least two digits. -/
def natLower (n : Nat) : String :=
  String.ofList (atLeastTwo (Nat.toDigits 16 n))

/-- A number in upper-case hexadecimal with at least two digits. -/
def natUpper (n : Nat) : String :=
  String.ofList (atLeastTwo ((Nat.toDigits 16 n).map Char.toUpper))

end Hex
end MakeTen
