import MakeTen.Number.FloatText
/-!
# Floating numbers and their bits

The numbers that the machine computes with are floating numbers of 64 bits.  One
of them has a sign, eleven bits of an exponent and 52 bits of a magnitude, whose
first digit is left out unless the number is very small.

Main definitions:

- Functions `Floating.ofFloat` and `Floating.toFloat`: from a number of the machine
  to a magnitude with an exponent, and back.
- Function `Floating.ofRawFloat`: the number at the head of a text.
-/

namespace MakeTen
namespace Floating

/-- The place of the exponent among the bits. -/
def exponentPlace : Nat := 52

/-- The number that 32 bits stand for. -/
def ofBits32 (n : Nat) : Floating :=
  let isNegative := (n >>> 31) % 2 == 1
  let exponent := (n >>> 23) % 256
  let part := n % 8388608
  if exponent = 255 then (if part = 0 then .infinite isNegative else .undefined isNegative)
  else if exponent = 0 then .finite isNegative part (-149)
  else .finite isNegative (part + 8388608) ((exponent : Int) - 150)

/-- The number that 80 bits stand for, with all digits of the magnitude written. -/
def ofBits80 (n : Nat) : Floating :=
  let isNegative := (n >>> 79) % 2 == 1
  let exponent := (n >>> 64) % 32768
  let part := n % 18446744073709551616
  if exponent = 32767 then
    if part % 9223372036854775808 = 0 then .infinite isNegative else .undefined isNegative
  else if exponent ≠ 0 ∧ part < 9223372036854775808 then .undefined isNegative
  else .finite isNegative part ((max exponent 1 : Nat) - 16446)

/-- The number that 64 bits stand for. -/
def ofBits (bits : UInt64) : Floating :=
  let n := bits.toNat
  let isNegative := n >>> 63 == 1
  let exponent := (n >>> exponentPlace) % 2048
  let part := n % (1 <<< exponentPlace)
  if exponent = 2047 then (if part = 0 then .infinite isNegative else .undefined isNegative)
  else if exponent = 0 then .finite isNegative part (-1074)
  else .finite isNegative (part + 1 <<< exponentPlace) ((exponent : Int) - 1075)

/-- The bits of a number of 64 bits. -/
def toBits (x : Floating) : UInt64 :=
  let signed (isNegative : Bool) (n : Nat) : UInt64 :=
    UInt64.ofNat (if isNegative then n + 1 <<< 63 else n)
  match x with
  | .infinite isNegative => signed isNegative (2047 <<< exponentPlace)
  | .undefined isNegative => signed isNegative (4095 <<< (exponentPlace - 1))
  | .finite isNegative m e =>
    if m = 0 then signed isNegative 0
    else
      let shift := min (exponentPlace - m.log2) (e + 1074).toNat
      let whole := m <<< shift
      let exponent := e - (shift : Int)
      if whole < 1 <<< exponentPlace then signed isNegative whole
      else
        signed isNegative
          ((exponent + 1075).toNat <<< exponentPlace + (whole - 1 <<< exponentPlace))

/-- A number of the machine. -/
def ofFloat (x : Float) : Floating :=
  ofBits x.toBits

/-- The number of the machine that a number is. -/
def toFloat (x : Floating) : Float :=
  Float.ofBits x.toBits

/-- The number at the head of a text, or zero if there is none. -/
def ofRawFloat (raw : Raw) : Float :=
  if raw.length < 16 ∧ raw.all Char.isDigit then Float.ofNat (Raw.valueIn 10 raw)
  else (FloatFormat.double.read raw).value.toFloat

end Floating
end MakeTen
