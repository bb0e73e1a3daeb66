import MakeTen.Number.FloatSum
/-!
# Numbers with units

Large numbers are written for people with a letter for a power of a thousand, or of
1024.  All reckoning is with floating numbers of 64 binary digits, each step rounded,
so the last digit that is shown is that of the rounded steps and not that of the exact
number.

Main definitions:

- Type `Scale`: what letters stand for.
- Function `Scale.read`: a number with its letter.
- Function `Scale.write`: a number as text, with a letter.
-/

namespace MakeTen

/-- What the letters after numbers stand for. -/
inductive Scale where
  /-- There are no letters. -/
  | plain
  /-- A letter stands for a power of a thousand, and of 1024 if an `i` follows. -/
  | auto
  | thousand
  | binary
  /-- A letter stands for a power of 1024, and an `i` follows it. -/
  | marked
  deriving Repr, DecidableEq

/-- Which way a number is rounded. -/
inductive Rounding where
  | up
  | down
  | fromZero
  | towardsZero
  | nearest
  deriving Repr, DecidableEq

namespace Scale

/-- What a letter multiplies by. -/
def base : Scale → Nat
  | .binary => 1024
  | .marked => 1024
  | _ => 1000

/-- The letters, of which the first stands for the first power. -/
def letters : Raw := "KMGTPEZY".toList

/-! ## Steps of reckoning -/

/-- The format of all steps. -/
def format : FloatFormat := .extended

/-- A whole number. -/
def whole (n : Nat) : Floating := format.ofInt n

/-- A power of a whole number, made step by step. -/
def power (base : Nat) (n : Nat) : Floating :=
  (List.replicate n (whole base)).foldl format.product (whole 1)

/-- A number divided by a base until it is below it, and how often. -/
def reduceWithin (base : Nat) : Nat → Floating → Nat → Floating × Nat
  | 0, x, n => (x, n)
  | fuel + 1, x, n =>
    if x.magnitude.isLess (whole base) then (x, n)
    else reduceWithin base fuel (format.quotient x (whole base)) (n + 1)

/-- A number divided by a base until it is below it, and how often. -/
def reduce (base : Nat) (x : Floating) : Floating × Nat :=
  reduceWithin base 20000 x 0

/-- The greatest whole number that a machine word holds. -/
def wordLimit : Nat := 9223372036854775807

/-- The whole number that a number is rounded to. -/
def roundWord (r : Rounding) (x : Floating) : Int :=
  let cut (y : Floating) : Int := y.truncate?.getD 0
  let ceiling (y : Floating) : Int :=
    if (format.ofInt (cut y)).isLess y then cut y + 1 else cut y
  let floor (y : Floating) : Int := -ceiling y.negated
  let isBelow := x.isLess .zero
  match r with
  | .up => ceiling x
  | .down => floor x
  | .fromZero => if isBelow then floor x else ceiling x
  | .towardsZero => cut x
  | .nearest =>
    let half : Floating := .finite isBelow 1 (-1)
    cut (format.sum x half)

/-- A number rounded to a whole one. -/
def round (r : Rounding) (x : Floating) : Floating :=
  let limit := whole wordLimit
  let times : Int := (format.quotient x limit).truncate?.getD 0
  let most := format.product limit (format.ofInt times)
  format.sum most (format.ofInt (roundWord r (format.sum x most.negated)))

/-! ## Reading -/

/-- What is wrong with a number. -/
inductive Fault where
  | tooLarge
  | noNumber
  | forbiddenLetter
  | unknownLetter
  | missingMark
  deriving Repr, DecidableEq

/-- A number at the head of a text. -/
structure Reading where
  value : Floating
  /-- How many digits follow the point, and whether so many digits are there that some
  may be lost. -/
  places : Nat
  isLossy : Bool
  rest : Raw

/-- How many digits a number may have without a letter, and at all. -/
def digitLimits : Nat × Nat := (18, 27)

/-- Digits at the head of a text as a whole number, step by step. -/
def readWhole (raw : Raw) : Except Fault Reading :=
  let digits := raw.takeWhile Char.isDigit
  let rest := raw.drop digits.length
  let count := (digits.dropWhile (· = '0')).length
  if digitLimits.2 < count then .error .tooLarge
  else if digits.isEmpty ∧ rest.head? ≠ some '.' then .error .noNumber
  else
    let value := digits.foldl
      (fun x c => format.sum (format.product x (whole 10)) (whole (Raw.digitValue c))) .zero
    .ok ⟨value, 0, digitLimits.1 < count, rest⟩

/-- A number with a point at the head of a text. -/
def readPoint (raw : Raw) : Except Fault Reading := do
  let isNegative := raw.head? = some '-'
  let start ← readWhole (if isNegative then raw.drop 1 else raw)
  let value := if isNegative then start.value.negated else start.value
  match start.rest with
  | '.' :: '-' :: rest =>
    let _ ← readWhole rest
    .error .noNumber
  | '.' :: rest =>
    let part ← readWhole rest
    let places := rest.length - part.rest.length
    let fraction := format.quotient part.value (power 10 places)
    let fraction := if isNegative then fraction.negated else fraction
    return ⟨format.sum value fraction, places, start.isLossy || part.isLossy, part.rest⟩
  | rest => return ⟨value, 0, start.isLossy, rest⟩

/-- A number with its letter at the head of a text. -/
def read (scale : Scale) (raw : Raw) : Except Fault Reading := do
  let number ← readPoint raw
  let finish (base power : Nat) (n : Reading) : Except Fault Reading := do
    let value := format.product n.value (Scale.power base power)
    if scale = .marked then
      match n.rest with
      | 'i' :: rest => return { n with value, rest }
      | _ => .error .missingMark
    else return { n with value }
  if number.rest.isEmpty then finish scale.base 0 number
  else
    match number.rest.dropWhile Raw.isBlank with
    | [] =>
      if scale = .plain then .error .forbiddenLetter
      else finish scale.base 0 { number with places := 0, rest := [] }
    | c :: rest =>
      match letters.idxOf? c with
      | none => .error .unknownLetter
      | some n =>
        if scale = .plain then .error .forbiddenLetter
        else
          match scale, rest with
          | .auto, 'i' :: rest => finish 1024 (n + 1) { number with places := 0, rest }
          | _, rest => finish scale.base (n + 1) { number with places := 0, rest }

/-! ## Writing -/

/-- A number with so many places, and its sign. -/
def signed (x : Floating) (places : Nat) : Raw :=
  (if x.isNegative then ['-'] else []) ++ x.fixed places false

/-- A number filled up with zeros. -/
def fill (width : Nat) (raw : Raw) : Raw :=
  match raw with
  | '-' :: digits => '-' :: Raw.padStart (width - 1) '0' digits
  | digits => Raw.padStart width '0' digits

/-- A number as text.  The number of places is asked for, or hangs on the number. -/
def write (scale : Scale) (r : Rounding) (asked : Option Nat) (places width : Nat)
    (x : Floating) : Raw :=
  let rounded (x : Floating) (places : Nat) : Floating :=
    format.quotient (round r (format.product x (power 10 places))) (power 10 places)
  if scale = .plain then fill width (signed (rounded x places) places)
  else
    let (y, n) := reduce scale.base x
    let isSmall := y.magnitude.isLess (whole 10)
    let y := rounded y (match asked with
      | some p => min (n * 3) p
      | none => if isSmall then 1 else 0)
    let (y, n) : Floating × Nat := if y.magnitude.isLess (whole scale.base) then (y, n)
      else (format.quotient y (whole scale.base), n + 1)
    let isPointed : Bool := !y.isEqual .zero && y.magnitude.isLess (whole 10) && decide (0 < n)
    let places := asked.getD (if isPointed then 1 else 0)
    let letter : Raw := if n = 0 then [] else match letters[n - 1]? with
      | some c => [c]
      | none => "(error)".toList
    fill width (signed y places) ++ letter ++ (if scale = .marked ∧ 0 < n then ['i'] else [])

end Scale
end MakeTen
