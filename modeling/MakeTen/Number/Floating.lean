import MakeTen.Text.Raw
/-!
# Floating numbers

Binary floating numbers of any format, with all arithmetic on whole numbers.  A
number is a magnitude times a power of two; the format says how many binary
digits the magnitude has and how far the exponent goes.  Rounding goes to the
nearest number, and to the even one of two that are equally near.

Main definitions:

- Structure `FloatFormat`: a format, with those of two usual sizes.
- Type `Floating`: a number of some format.
- Function `FloatFormat.round`: the number nearest to a quotient.
- Function `FloatFormat.read`: the number at the head of a text.
-/

namespace MakeTen

/-! ## Rounding -/

/-- The whole number nearest to a quotient, the even one if two are. -/
def roundQuotient (numerator denominator : Nat) : Nat :=
  let quotient := numerator / denominator
  let twice := 2 * (numerator % denominator)
  if denominator < twice ∨ (denominator = twice ∧ quotient % 2 = 1) then quotient + 1
  else quotient

/-! ## Numbers -/

/-- A format of floating numbers. -/
structure FloatFormat where
  /-- How many binary digits a magnitude has. -/
  width : Nat
  /-- Least exponent of a magnitude. -/
  least : Int
  /-- Numbers stay below two to this power. -/
  bound : Int
  deriving Repr, DecidableEq

/-- The format of 32 bits. -/
def FloatFormat.single : FloatFormat := ⟨24, -149, 128⟩

/-- The format of 64 bits. -/
def FloatFormat.double : FloatFormat := ⟨53, -1074, 1024⟩

/-- The format of 80 bits. -/
def FloatFormat.extended : FloatFormat := ⟨64, -16445, 16384⟩

/-- A floating number. -/
inductive Floating where
  /-- A magnitude times two to an exponent. -/
  | finite (isNegative : Bool) (magnitude : Nat) (exponent : Int)
  | infinite (isNegative : Bool)
  /-- The result of an operation that has none. -/
  | undefined (isNegative : Bool)
  deriving Repr, DecidableEq

namespace Floating

/-- Zero. -/
def zero : Floating := .finite false 0 0

/-- Whether a number has a minus sign. -/
def isNegative : Floating → Bool
  | .finite isNegative _ _ => isNegative
  | .infinite isNegative => isNegative
  | .undefined isNegative => isNegative

/-- Whether a number is a magnitude times a power of two. -/
def isFinite : Floating → Bool
  | .finite _ _ _ => true
  | _ => false

/-- The whole part of a number. -/
def truncate? : Floating → Option Int
  | .finite isNegative m e =>
    let n := if 0 ≤ e then m <<< e.toNat else m >>> (-e).toNat
    some (if isNegative then -(n : Int) else n)
  | _ => none

end Floating

namespace FloatFormat

/-- The number nearest to a quotient of positive numbers. -/
def round (format : FloatFormat) (isNegative : Bool) (numerator denominator : Nat) : Floating :=
  if numerator = 0 ∨ denominator = 0 then .finite isNegative 0 0
  else
    let difference : Int := (numerator.log2 : Int) - (denominator.log2 : Int)
    let isReached : Bool :=
      if 0 ≤ difference then decide (denominator <<< difference.toNat ≤ numerator)
      else decide (denominator ≤ numerator <<< (-difference).toNat)
    let top := if isReached then difference else difference - 1
    let exponent := max (top - (format.width : Int) + 1) format.least
    let magnitude :=
      if 0 ≤ exponent then roundQuotient numerator (denominator <<< exponent.toNat)
      else roundQuotient (numerator <<< (-exponent).toNat) denominator
    let (magnitude, exponent) :=
      if magnitude = 1 <<< format.width then (1 <<< (format.width - 1), exponent + 1)
      else (magnitude, exponent)
    if format.bound < exponent + ((magnitude.log2 + 1 : Nat) : Int) then .infinite isNegative
    else .finite isNegative magnitude exponent

/-- The number nearest to a whole number times a power of ten. -/
def ofDecimal (format : FloatFormat) (isNegative : Bool) (digits : Nat) (exponent : Int) :
    Floating :=
  let size := exponent + ((Raw.ofNat digits).length : Int)
  if digits = 0 then .finite isNegative 0 0
  else if 6000 < size then .infinite isNegative
  else if size < -6000 then .finite isNegative 0 0
  else if 0 ≤ exponent then format.round isNegative (digits * Nat.pow 10 exponent.toNat) 1
  else format.round isNegative digits (Nat.pow 10 (-exponent).toNat)

/-- The number nearest to a whole number. -/
def ofInt (format : FloatFormat) (n : Int) : Floating :=
  format.round (n < 0) n.natAbs 1

/-! ## Reading -/

/-- A number at the head of a text. -/
structure Reading where
  value : Floating
  /-- What follows the number. -/
  rest : Raw
  /-- Whether there is a number at all. -/
  isNumber : Bool
  /-- Whether the number is too large or too small for the format. -/
  isOutOfRange : Bool

/-- An exponent at the head of a text, if its letter and a digit are there. -/
def readExponent (letters : Raw) (raw : Raw) : Int × Raw :=
  match raw with
  | c :: rest =>
    if letters.contains c then
      let (sign, digits) : Int × Raw := match rest with
        | '-' :: rest => (-1, rest)
        | '+' :: rest => (1, rest)
        | rest => (1, rest)
      let valid := digits.takeWhile Char.isDigit
      if valid.isEmpty then (0, raw)
      else (sign * (Raw.valueIn 10 valid : Int), digits.drop valid.length)
    else (0, raw)
  | [] => (0, raw)

/-- Digits of some base with a point at the head of a text: their value without
the point, how many of them follow the point, and how many there are. -/
def readDigits (base : Nat) (isDigit : Char → Bool) (raw : Raw) : Nat × Nat × Nat × Raw :=
  let whole := raw.takeWhile isDigit
  let (part, rest) := match raw.drop whole.length with
    | '.' :: rest =>
      let part := rest.takeWhile isDigit
      if whole.isEmpty ∧ part.isEmpty then ([], '.' :: rest) else (part, rest.drop part.length)
    | rest => ([], rest)
  (Raw.valueIn base (whole ++ part), part.length, whole.length + part.length, rest)

/-- The letters at the head of a text if they spell a word in any case. -/
def dropWord? (word : String) (raw : Raw) : Option Raw :=
  let n := word.length
  if (raw.take n).map Char.toLower = word.toList then some (raw.drop n) else none

/-- The number at the head of a text: blanks, a sign, and decimal digits,
hexadecimal digits, or a word. -/
def read (format : FloatFormat) (raw : Raw) : Reading :=
  let trimmed := raw.dropWhile Raw.isSpace
  let (isNegative, body) := match trimmed with
    | '-' :: rest => (true, rest)
    | '+' :: rest => (false, rest)
    | rest => (false, rest)
  let ranged (value : Floating) (isZero : Bool) (rest : Raw) : Reading :=
    let isLost : Bool := match value with
      | .finite _ m e =>
        !isZero && (m == 0 || (e == format.least && m.log2 + 1 < format.width))
      | _ => true
    ⟨value, rest, true, isLost⟩
  let decimal : Reading :=
    let (digits, places, count, rest) := readDigits 10 Char.isDigit body
    if count = 0 then ⟨.zero, raw, false, false⟩
    else
      let (exponent, rest) := readExponent ['e', 'E'] rest
      ranged (format.ofDecimal isNegative digits (exponent - places)) (digits == 0) rest
  let hexadecimal (start : Raw) : Reading :=
    let (digits, places, count, rest) := readDigits 16 Raw.isHexadecimal start
    if count = 0 then ⟨.finite isNegative 0 0, body.drop 1, true, false⟩
    else
      let (exponent, rest) := readExponent ['p', 'P'] rest
      let exponent := max (-40000) (min 40000 exponent) - 4 * places
      let value :=
        if 0 ≤ exponent then format.round isNegative (digits <<< exponent.toNat) 1
        else format.round isNegative digits (1 <<< (-exponent).toNat)
      ranged value (digits == 0) rest
  match body with
  | '0' :: 'x' :: rest => hexadecimal rest
  | '0' :: 'X' :: rest => hexadecimal rest
  | _ =>
    match (dropWord? "infinity" body).or (dropWord? "inf" body) with
    | some rest => ⟨.infinite isNegative, rest, true, false⟩
    | none =>
      match dropWord? "nan" body with
      | some rest =>
        let rest := match rest with
          | '(' :: inner =>
            match inner.dropWhile Raw.inName with
            | ')' :: rest => rest
            | _ => '(' :: inner
          | rest => rest
        ⟨.undefined isNegative, rest, true, false⟩
      | none => decimal

end FloatFormat
end MakeTen
