import MakeTen.Number.FloatBits
import MakeTen.Tool.Printing
/-!
# Values of scripts

A value is a number or a text, and each can be used as the other.  A text that comes
from outside and looks like a number is compared as a number.

Main definitions:

- Type `Script.Cell`: values.
- Functions `Script.Cell.toNumber` and `Script.Cell.toText`: their uses.
- Function `Script.format`: values put into a format.
-/

namespace MakeTen
namespace Script

/-- A value. -/
inductive Cell where
  /-- Nothing has been assigned yet. -/
  | missing
  | number (x : Float)
  /-- What is no number, without a minus sign; what is no number has one otherwise. -/
  | plainNaN
  | text (raw : Raw)
  /-- A text that comes from outside. -/
  | given (raw : Raw)

/-! ## Numbers -/

/-- The number of a bit. -/
def ofBool (b : Bool) : Cell :=
  .number (if b then 1 else 0)

/-- The number that a whole number is. -/
def ofNat (n : Nat) : Cell :=
  .number (Float.ofNat n)

/-- The greatest whole number. -/
def wholeBound : Int := 2147483647

/-- The whole part of a number, or the nearest one that is as great as whole numbers may
be. -/
def wholePart (x : Float) : Int :=
  if x.isNaN then -wholeBound else max (-wholeBound) (min wholeBound x.toInt64.toInt)

/-- The number that a text from outside looks like, if it does. -/
def numberLike? (raw : Raw) : Option Float :=
  let isGap (c : Char) : Bool := Raw.isSpace c && c != '\n'
  let trimmed := Raw.dropEnd isGap (raw.dropWhile isGap)
  match trimmed.head?, trimmed.getLast? with
  | some first, some last =>
    if (first.isDigit ∨ first = '+' ∨ first = '-' ∨ first = '.') ∧ (last.isDigit ∨ last = '.')
    then
      if trimmed.length < 16 ∧ trimmed.all Char.isDigit then
        some (Float.ofNat (Raw.valueIn 10 trimmed))
      else
        let reading := FloatFormat.double.read trimmed
        if reading.isNumber ∧ reading.rest.isEmpty then some reading.value.toFloat else none
    else none
  | _, _ => none

/-- A value as a number. -/
def Cell.toNumber : Cell → Float
  | .missing => 0
  | .number x => x
  | .plainNaN => 0.0 / 0.0
  | .text raw => Floating.ofRawFloat raw
  | .given raw => Floating.ofRawFloat raw

/-- Whether what is no number is one without a minus sign. -/
def Cell.isPlain : Cell → Bool
  | .missing => false
  | .number _ => false
  | .plainNaN => true
  | .text raw => (raw.dropWhile Raw.isSpace).head? != some '-'
  | .given raw => (raw.dropWhile Raw.isSpace).head? != some '-'

/-- A number as a value; what is no number takes after the first of some values that is
none either. -/
def ofResult (x : Float) (origins : List Cell) : Cell :=
  if x.isNaN ∧ (origins.find? (·.toNumber.isNaN)).any Cell.isPlain then .plainNaN else .number x

/-- The number that a value is, or looks like. -/
def Cell.numeric? : Cell → Option Float
  | .missing => some 0
  | .number x => some x
  | .plainNaN => some (0.0 / 0.0)
  | .text _ => none
  | .given raw => numberLike? raw

/-! ## Formats -/

/-- What is wrong with a format. -/
inductive FormatFault where
  | tooFewArguments
  /-- The conversion of this number is none. -/
  | badConversion (n : Nat)

/-- The text of a whole number that is not too great. -/
def wholeText? (x : Float) : Option Raw :=
  let n := wholePart x
  if Float.ofInt n == x then some (Raw.ofInt n) else none

/-- A number in the style of a conversion. -/
def floatingText (k : Tool.Conversion) (c : Cell) : Raw :=
  let x := Floating.ofFloat c.toNumber
  let isNegative := if c.toNumber.isNaN then !c.isPlain else x.isNegative
  let places := k.precision.getD 6
  let body := match k.kind.toLower with
    | 'f' => x.fixed places k.alternate
    | 'e' => x.scientific places k.alternate
    | 'g' => x.general places k.alternate
    | _ => x.hexadecimal .double k.precision k.alternate
  let body := if k.kind.isUpper then body.map Char.toUpper else body
  let sign := k.sign (if isNegative then -1 else 0)
  let body :=
    if k.zeroFilled ∧ ¬ k.leftAligned ∧ x.isFinite then
      Raw.padStart (k.width - sign.length) '0' body
    else body
  k.fill (sign ++ body)

/-- A width or a precision at the head of a format: digits, or a star that takes a
value.  Nothing follows if there is no value left. -/
def readSize (raw : Raw) (arguments : List Cell) : Option (Option Int × Raw × List Cell) :=
  match raw with
  | '*' :: rest =>
    match arguments with
    | argument :: arguments => some (some (wholePart argument.toNumber), rest, arguments)
    | [] => none
  | _ =>
    let digits := raw.takeWhile Char.isDigit
    some (Raw.toInt? digits, raw.drop digits.length, arguments)

/-- A conversion after its percent sign, what follows it, and the values that are left.
Nothing comes of it if there are too few values. -/
def readConversion (raw : Raw) (arguments : List Cell) :
    Option (Tool.Conversion × Raw × List Cell) :=
  let flags := raw.takeWhile ("-+ #0".toList.contains ·)
  (readSize (raw.drop flags.length) arguments).bind fun (width, rest, arguments) =>
    let precision : Option (Option Int × Raw × List Cell) := match rest with
      | '.' :: rest => (readSize rest arguments).map fun (p, r) => (some (p.getD 0), r)
      | rest => some (none, rest, arguments)
    precision.bind fun (precision, rest, arguments) =>
      let rest := rest.dropWhile fun c => c == 'l' || c == 'h'
      let width := width.getD 0
      if arguments.isEmpty then none
      else
        some (⟨flags.contains '-' || decide (width < 0), flags.contains '0', flags.contains '+',
          flags.contains ' ', flags.contains '#', width.natAbs,
          precision.bind fun p => if p < 0 then none else some p.toNat, rest.headD ' '⟩,
          rest.drop 1, arguments)

/-- A value in the style of a conversion, if there is such a conversion. -/
def convert? (toText : Cell → Raw) (k : Tool.Conversion) (c : Cell) : Option Raw :=
  let unsigned (digits : Nat → Raw) (lead : Raw) : Option Raw :=
    let x := c.toNumber
    let n := if x.isNaN then 0 else min x.toUInt64.toNat (2 * wholeBound.toNat + 1)
    some (k.fillNumber (if k.alternate ∧ n ≠ 0 then lead else []) (digits n))
  let signed : Option Raw :=
    let n := wholePart c.toNumber
    some (k.fillNumber (k.sign n) (Raw.ofNat n.natAbs))
  let cut (raw : Raw) : Raw := match k.precision with
    | some p => raw.take p
    | none => raw
  match k.kind with
  | 'd' => signed
  | 'i' => signed
  | 'u' => unsigned Raw.ofNat []
  | 'o' => unsigned (Raw.digits 8) ['0']
  | 'x' => unsigned (Raw.digits 16) ['0', 'x']
  | 'X' => unsigned (fun n => (Raw.digits 16 n).map Char.toUpper) ['0', 'X']
  | 's' => some (k.fill (cut (toText c)))
  | 'c' =>
    match c.numeric?, c with
    | _, .missing => some (k.fill [Raw.nul])
    | some x, _ => some (k.fill [Char.ofNat (wholePart x % 256).toNat])
    | none, c => some (k.fill ((toText c).headD Raw.nul :: []))
  | letter => if "eEfFgGaA".toList.contains letter then some (floatingText k c) else none

/-- Values put into a format; `toText` says how values become texts, and `count`
conversions have been done. -/
def formatWith (toText : Cell → Raw) : Nat → Nat → Raw → List Cell → Raw × Option FormatFault
  | 0, _, _, _ => ([], none)
  | fuel + 1, count, raw, arguments =>
    let lead := raw.takeWhile (· ≠ '%')
    match raw.drop lead.length with
    | [] => (lead, none)
    | _ :: '%' :: rest =>
      let (text, fault) := formatWith toText fuel (count + 1) rest arguments
      (lead ++ '%' :: text, fault)
    | _ :: rest =>
      match readConversion rest arguments with
      | none => (lead, some .tooFewArguments)
      | some (k, rest, arguments) =>
        match convert? toText k (arguments.headD .missing) with
        | none => (lead, some (.badConversion (count + 1)))
        | some converted =>
          let (text, fault) := formatWith toText fuel (count + 1) rest (arguments.drop 1)
          (lead ++ converted ++ text, fault)

/-- A number as a text; those that are not whole are put into a format. -/
def numberText (style : Raw) (x : Float) : Raw :=
  match wholeText? x with
  | some raw => raw
  | none =>
    if style = "%.6g".toList then
      let sign : Raw := if x.isNaN ∨ x < 0 then ['-'] else []
      sign ++ (Floating.ofFloat x).general 6 false
    else (formatWith (fun _ => []) (style.length + 1) 0 style [.number x]).1

/-- A value as a text. -/
def Cell.toText (style : Raw) : Cell → Raw
  | .missing => []
  | .number x => numberText style x
  | .plainNaN => "nan".toList
  | .text raw => raw
  | .given raw => raw

/-- Values put into a format, as far as that goes, and what is wrong with it. -/
def format (style template : Raw) (arguments : List Cell) : Raw × Option FormatFault :=
  formatWith (Cell.toText style) (template.length + 1) 0 template arguments

/-! ## Tests -/

/-- Whether a value counts as true. -/
def Cell.isTrue : Cell → Bool
  | .missing => false
  | .number x => x != 0
  | .plainNaN => true
  | .text raw => !raw.isEmpty
  | .given raw =>
    match numberLike? raw with
    | some x => x != 0
    | none => !raw.isEmpty

/-- The order of two values: as numbers if both are numbers or look like numbers, and
otherwise as texts. -/
def Cell.order (style : Raw) (a b : Cell) : Ordering :=
  let asTexts (_ : Unit) : Ordering :=
    let (s, t) := (a.toText style, b.toText style)
    if s = t then .eq else if Raw.le s t then .lt else .gt
  match a.numeric?, b.numeric? with
  | some x, some y => if x < y then .lt else if x == y then .eq else if y < x then .gt else .lt
  | _, _ => asTexts ()

end Script
end MakeTen
