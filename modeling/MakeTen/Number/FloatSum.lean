import MakeTen.Number.FloatText
/-!
# Sums, products and quotients of floating numbers

The exact sum, product or quotient of two floating numbers, rounded once, and the
order of such numbers.

Main definitions:

- Functions `FloatFormat.sum`, `FloatFormat.product` and `FloatFormat.quotient`: results
  in a format.
- Function `Floating.isLess`: whether a number is less than another one.
-/

namespace MakeTen

namespace Floating

/-- A finite number as a whole number times two to an exponent. -/
def signed (isNegative : Bool) (magnitude : Nat) : Int :=
  if isNegative then -(magnitude : Int) else magnitude

/-- Two whole numbers times powers of two, brought to the smaller exponent. -/
def aligned (a : Int) (e : Int) (b : Int) (f : Int) : Int × Int × Int :=
  let low := min e f
  (a * (1 <<< (e - low).toNat : Nat), b * (1 <<< (f - low).toNat : Nat), low)

/-- Whether a number is less than another one.  A number that is none is less than
nothing. -/
def isLess : Floating → Floating → Bool
  | .undefined _, _ => false
  | _, .undefined _ => false
  | .infinite a, .infinite b => a && !b
  | .infinite a, .finite _ _ _ => a
  | .finite _ _ _, .infinite b => !b
  | .finite s m e, .finite t n f =>
    let (a, b, _) := aligned (signed s m) e (signed t n) f
    decide (a < b)

/-- A number without its sign. -/
def magnitude : Floating → Floating
  | .finite _ m e => .finite false m e
  | .infinite _ => .infinite false
  | .undefined _ => .undefined false

/-- A number with the other sign. -/
def negated : Floating → Floating
  | .finite s m e => .finite (!s) m e
  | .infinite s => .infinite (!s)
  | .undefined s => .undefined (!s)

/-- Whether two numbers are equal. -/
def isEqual (a b : Floating) : Bool :=
  match a, b with
  | .undefined _, _ => false
  | _, .undefined _ => false
  | _, _ => !isLess a b && !isLess b a

end Floating

namespace FloatFormat

/-- The number nearest to a whole number times two to an exponent. -/
def ofScaled (format : FloatFormat) (n exponent : Int) : Floating :=
  if 0 ≤ exponent then format.round (n < 0) (n.natAbs <<< exponent.toNat) 1
  else format.round (n < 0) n.natAbs (1 <<< (-exponent).toNat)

/-- The sum of two numbers. -/
def sum (format : FloatFormat) : Floating → Floating → Floating
  | .finite s m e, .finite t n f =>
    let (a, b, low) := Floating.aligned (Floating.signed s m) e (Floating.signed t n) f
    if a + b = 0 then .finite (s && t) 0 0 else format.ofScaled (a + b) low
  | .infinite s, .infinite t => if s == t then .infinite s else .undefined true
  | .infinite s, .finite _ _ _ => .infinite s
  | .finite _ _ _, .infinite t => .infinite t
  | .undefined s, _ => .undefined s
  | _, .undefined t => .undefined t

/-- The product of two numbers. -/
def product (format : FloatFormat) : Floating → Floating → Floating
  | .finite s m e, .finite t n f =>
    if m * n = 0 then .finite (s != t) 0 0
    else format.ofScaled (Floating.signed (s != t) (m * n)) (e + f)
  | .undefined s, _ => .undefined s
  | _, .undefined t => .undefined t
  | .infinite s, .finite t n _ => if n = 0 then .undefined true else .infinite (s != t)
  | .finite s m _, .infinite t => if m = 0 then .undefined true else .infinite (s != t)
  | .infinite s, .infinite t => .infinite (s != t)

/-- The quotient of two numbers. -/
def quotient (format : FloatFormat) : Floating → Floating → Floating
  | .finite s m e, .finite t n f =>
    if n = 0 then (if m = 0 then .undefined true else .infinite (s != t))
    else
      let shift := e - f
      format.round (s != t) (m <<< shift.toNat) (n <<< (-shift).toNat)
  | .undefined s, _ => .undefined s
  | _, .undefined t => .undefined t
  | .infinite s, .finite t _ _ => .infinite (s != t)
  | .finite s _ _, .infinite t => .finite (s != t) 0 0
  | .infinite _, .infinite _ => .undefined true

end FloatFormat
end MakeTen
