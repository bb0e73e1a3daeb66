import MakeTen.Number.Floating
/-!
# Floating numbers as text

The usual ways to write a floating number: with a fixed number of places, with
an exponent, whichever of the two is shorter, and in hexadecimal digits.  The
digits are those of the exact value, rounded once.

Main definitions:

- Function `Floating.fixed`: a number with so many places.
- Function `Floating.scientific`: a number with an exponent.
- Function `Floating.general`: a number with so many digits.
- Function `Floating.hexadecimal`: a number in hexadecimal digits.
-/

namespace MakeTen
namespace Floating

/-! ## Digits -/

/-- A magnitude times a power of two and a power of ten, as a whole number. -/
def scaled (magnitude : Nat) (exponent places : Int) : Nat :=
  let up := Nat.pow 10 places.toNat
  let down := Nat.pow 10 (-places).toNat
  let numerator := magnitude * up
  if 0 ≤ exponent then roundQuotient (numerator <<< exponent.toNat) down
  else roundQuotient numerator (down <<< (-exponent).toNat)

/-- The greatest power of ten that a magnitude times a power of two reaches. -/
def decimalExponent (magnitude : Nat) (exponent : Int) : Int :=
  let size (n : Nat) : Int := ((Raw.ofNat n).length : Int)
  if 0 ≤ exponent then size (magnitude <<< exponent.toNat) - 1
  else
    let shift := (-exponent).toNat
    size ((magnitude * Nat.pow 10 shift) >>> shift) - 1 - shift

/-- Digits with a point in front of the last `places` of them. -/
def withPoint (digits : Raw) (places : Nat) (keepsPoint : Bool) : Raw :=
  let digits := Raw.padStart (places + 1) '0' digits
  let whole := digits.take (digits.length - places)
  if places = 0 then (if keepsPoint then whole ++ ['.'] else whole)
  else whole ++ '.' :: digits.drop (digits.length - places)

/-- An exponent with its sign and at least two digits. -/
def exponentText (letter : Char) (width : Nat) (exponent : Int) : Raw :=
  letter :: (if exponent < 0 then '-' else '+') ::
    Raw.padStart width '0' (Raw.ofNat exponent.natAbs)

/-- The digits of a number, `places` of them after the first one, and the power
of ten of the first one. -/
def leadingDigits (magnitude : Nat) (exponent : Int) (places : Nat) : Raw × Int :=
  if magnitude = 0 then (List.replicate (places + 1) '0', 0)
  else
    let top := decimalExponent magnitude exponent
    let digits := Raw.ofNat (scaled magnitude exponent ((places : Int) - top))
    if digits.length ≤ places + 1 then (digits, top) else (digits.dropLast, top + 1)

/-- Digits without the zeros at their end. -/
def dropZeros (digits : Raw) : Raw :=
  Raw.dropEnd (· == '0') digits

/-! ## Styles -/

/-- What is written for a number that is not finite. -/
def word (x : Floating) : Raw :=
  match x with
  | .infinite _ => "inf".toList
  | _ => "nan".toList

/-- A number without its sign, with so many places. -/
def fixed (x : Floating) (places : Nat) (keepsPoint : Bool) : Raw :=
  match x with
  | .finite _ m e => withPoint (Raw.ofNat (scaled m e places)) places keepsPoint
  | x => x.word

/-- A number without its sign: a digit, so many places, and an exponent. -/
def scientific (x : Floating) (places : Nat) (keepsPoint : Bool) : Raw :=
  match x with
  | .finite _ m e =>
    let (digits, top) := leadingDigits m e places
    withPoint digits places keepsPoint ++ exponentText 'e' 2 top
  | x => x.word

/-- A number without its sign, with so many digits, and with an exponent if it
is very large or very small.  Zeros at the end are left out unless they are to
be kept. -/
def general (x : Floating) (size : Nat) (keepsZeros : Bool) : Raw :=
  match x with
  | .finite _ m e =>
    let size := max size 1
    let (digits, top) := leadingDigits m e (size - 1)
    if top < -4 ∨ (size : Int) ≤ top then
      let digits := if keepsZeros then digits else digits.take 1 ++ dropZeros (digits.drop 1)
      withPoint digits (digits.length - 1) keepsZeros ++ exponentText 'e' 2 top
    else
      let places := ((size : Int) - 1 - top).toNat
      let text := withPoint digits places keepsZeros
      if keepsZeros ∨ places = 0 then text
      else
        let text := dropZeros text
        if text.getLast? = some '.' then text.dropLast else text
  | x => x.word

/-- A number without its sign in hexadecimal digits.  So many digits follow the
point as are asked for or needed. -/
def hexadecimal (x : Floating) (format : FloatFormat) (places : Option Nat)
    (keepsPoint : Bool) : Raw :=
  match x with
  | .finite _ m e =>
    let count := (format.width - 1) / 4
    let shift := if m = 0 then 0 else min (format.width - 1 - m.log2) (e - format.least).toNat
    let whole := m <<< shift
    let exponent : Int := if m = 0 then 0 else e - (shift : Int) + 4 * (count : Int)
    let (whole, size) := match places with
      | some p =>
        if p < count then (roundQuotient whole (1 <<< (4 * (count - p))), p) else (whole, count)
      | none => (whole, count)
    let digits := Raw.padStart (size + 1) '0' (Raw.digits 16 whole)
    let head := digits.take (digits.length - size)
    let tail := digits.drop (digits.length - size)
    let tail := match places with
      | some p => Raw.padEnd p '0' tail
      | none => dropZeros tail
    let after := if tail.isEmpty ∧ ¬ keepsPoint then [] else '.' :: tail
    "0x".toList ++ head ++ after ++ exponentText 'p' 1 exponent
  | x => x.word

/-- A number with as few digits as are needed to tell it from others of its format, but
with no fewer than so many unless it is very small. -/
def shortest (x : Floating) (format : FloatFormat) (least : Nat) : Raw :=
  let sign := if x.isNegative then ['-'] else []
  let text (size : Nat) : Raw := sign ++ x.general size false
  let isSame (raw : Raw) : Bool :=
    match (format.read raw).value, x with
    | .finite s m e, .finite t n f => s == t && m == n && (m == 0 || e == f)
    | .infinite s, .infinite t => s == t
    | _, _ => false
  let isSmall := match x with
    | .finite _ m e => decide ((m.log2 : Int) + e < format.least + (format.width : Int) - 1)
    | _ => false
  let start := if isSmall then 1 else least
  let sizes := (List.range (least + 4 - start)).map (start + ·)
  ((sizes.map text).find? isSame).getD (text (least + 3))

end Floating
end MakeTen
