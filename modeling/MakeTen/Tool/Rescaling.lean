import MakeTen.Number.Scale
import MakeTen.Tool.Columns
/-!
# Numbers in other units

The program `numfmt` finds numbers in the fields of lines and writes them in other
units, rounded, filled up and with letters for large powers.

Main definitions:

- Structure `Tool.Rescaling`: what is to be done with numbers.
- Function `Tool.readNumberFormat`: what a format asks for.
- Function `Tool.numfmt`: the program.
-/

namespace MakeTen
namespace Tool

/-- What comes of fields that are no numbers. -/
inductive Invalid where
  /-- The program ends. -/
  | abort
  /-- It complains, and has failed in the end. -/
  | fail
  | warn
  | ignore
  deriving DecidableEq

/-- What is to be done with numbers. -/
structure Rescaling where
  source : Scale
  target : Scale
  sourceUnit : Nat
  targetUnit : Nat
  rounding : Rounding
  /-- The width to be filled up with blanks, at the end if the text is on the left. -/
  padding : Nat
  isLeft : Bool
  /-- The width to be filled up with zeros. -/
  zeros : Nat
  places : Option Nat
  unit : Raw
  /-- What is written before and after each number. -/
  before : Raw
  after : Raw
  delimiter : Option Char
  ending : Char
  fields : Option (List Span)
  invalid : Invalid
  /-- Whether more is said about what is done. -/
  isTalkative : Bool
  /-- How many lines stay as they are. -/
  header : Nat

/-- Complain about a field, which may end the program. -/
def Rescaling.refuse (r : Rescaling) (raw : Raw) : Job Unit := do
  match r.invalid with
  | .ignore => pure ()
  | .abort =>
    flush
    giveUp 2 raw
  | _ =>
    flush
    complain raw

/-- What is wrong with a number, in words. -/
def scaleComplaint (fault : Scale.Fault) (raw : Raw) : Raw :=
  let quoted := Quoting.forReader raw
  match fault with
  | .tooLarge => "value too large to be converted: ".toList ++ quoted
  | .noNumber => "invalid number: ".toList ++ quoted
  | .forbiddenLetter =>
    "rejecting suffix in input: ".toList ++ quoted ++ " (consider using --from)".toList
  | .unknownLetter => "invalid suffix in input: ".toList ++ quoted
  | .missingMark =>
    "missing 'i' suffix in input: ".toList ++ quoted ++ " (e.g Ki/Mi/Gi)".toList

/-- A number in at most six digits. -/
def briefly (x : Floating) : Raw :=
  (if x.isNegative then ['-'] else []) ++ x.general 6 false

/-- Write a number, unless there is no good way to do so.  Text with letters and digits
has at most 127 characters. -/
def Rescaling.write (r : Rescaling) (padding : Nat) (x : Floating) (places : Nat) :
    Job Bool := do
  let used := r.places.getD places
  let (_, size) := Scale.reduce 10 x
  if r.target = .plain ∧ Scale.digitLimits.1 < size + used then
    if 0 < used then
      r.refuse ("value/precision too large to be printed: '".toList ++ briefly x ++ '/' ::
        Raw.ofNat used ++ "' (consider using --to)".toList)
    else
      r.refuse ("value too large to be printed: '".toList ++ briefly x ++
        "' (consider using --to)".toList)
    return false
  else if Scale.digitLimits.2 - 1 < size then
    r.refuse ("value too large to be printed: '".toList ++ briefly x ++
      "' (cannot handle values > 999Y)".toList)
    return false
  else
    let text := Scale.write r.target r.rounding r.places used r.zeros x
    if 128 ≤ text.length then
      flush
      giveUp 1 ("failed to prepare value '".toList ++ Scale.signed x 6 ++
        "' for printing".toList)
    else
      let text := (text ++ r.unit).take 127
      let text := if r.isLeft then Raw.padEnd padding ' ' text else Raw.padStart padding ' ' text
      say (r.before ++ text ++ r.after)
      return true

/-- Do what is to be done with a field; the answer is whether that worked. -/
def Rescaling.field (r : Rescaling) (n : Nat) (raw : Raw) : Job Bool := do
  let isMeant : Bool := match r.fields with
    | none => n == 1
    | some spans => spans.any (·.holds n)
  if ¬ isMeant then
    say raw
    return true
  else
    let cut := raw.length - r.unit.length
    let text := if ¬ r.unit.isEmpty ∧ r.unit.length < raw.length ∧ raw.drop cut = r.unit
      then raw.take cut else raw
    let body := text.dropWhile Raw.isBlank
    let padding := if 0 < r.padding ∨ r.delimiter.isSome then r.padding
      else if body.length < text.length ∨ 1 < n then text.length else 0
    match Scale.read r.source body with
    | .error fault =>
      r.refuse (scaleComplaint fault body)
      say text
      return false
    | .ok reading =>
      if ¬ reading.rest.isEmpty then
        r.refuse ("invalid suffix in input ".toList ++ Quoting.forReader body ++ ": ".toList ++
          Quoting.forReader reading.rest)
        say text
        return false
      else
        if reading.isLossy ∧ r.isTalkative then
          flush
          complain ("large input value ".toList ++ Quoting.forReader body ++
            ": possible precision loss".toList)
        let value := if r.sourceUnit = 1 ∧ r.targetUnit = 1 then reading.value
          else Scale.format.quotient
            (Scale.format.product reading.value (Scale.whole r.sourceUnit))
            (Scale.whole r.targetUnit)
        let isWritten ← r.write padding value reading.places
        if ¬ isWritten then say text
        return isWritten

/-- The field at the head of a line, and what follows it. -/
def Rescaling.nextField (r : Rescaling) (line : Raw) : Raw × Raw :=
  let isGap (c : Char) : Bool := Raw.isBlank c || c == '\n'
  let field := match r.delimiter with
    | some d => line.takeWhile (· ≠ d)
    | none =>
      let gap := line.takeWhile isGap
      gap ++ (line.drop gap.length).takeWhile (!isGap ·)
  (field, line.drop field.length)

/-- Do what is to be done with the fields of a line from one on. -/
def Rescaling.fieldsFrom (r : Rescaling) : Nat → Nat → Raw → Job Bool
  | 0, _, _ => return true
  | fuel + 1, n, line => do
    let (field, rest) := r.nextField line
    let isGood ← r.field n field
    match rest with
    | [] => return isGood
    | _ :: rest =>
      say [r.delimiter.getD ' ']
      let isRestGood ← r.fieldsFrom fuel (n + 1) rest
      return isGood && isRestGood

/-- Do what is to be done with a line; the answer is whether that worked. -/
def Rescaling.line (r : Rescaling) (line : Raw) (isEnded : Bool) : Job Bool := do
  let isGood ← r.fieldsFrom (line.length + 1) 1 line
  if isEnded then say [r.ending]
  return isGood

/-! ## Formats -/

/-- What a format asks for. -/
structure NumberFormat where
  before : Raw
  after : Raw
  /-- The width, less than zero for text on the left. -/
  width : Int
  hasZeros : Bool
  places : Option Nat

/-- What is wrong with a format, in words in front of it and after it. -/
abbrev NumberFormatFault := String × String

/-- The length of what is in front of the number in a format, and where it starts.  A
percent sign that is written twice counts once. -/
def formatStart? (count : Nat) : Raw → Option (Nat × Raw)
  | '%' :: '%' :: rest => formatStart? (count + 1) rest
  | '%' :: rest => some (count, rest)
  | _ :: rest => formatStart? (count + 1) rest
  | [] => none

/-- Whether a text has a percent sign that stands alone. -/
def hasLonePercent : Raw → Bool
  | '%' :: '%' :: rest => hasLonePercent rest
  | '%' :: _ => true
  | _ :: rest => hasLonePercent rest
  | [] => false

/-- A whole number at the head of a text, if there is one, and what follows it. -/
def leadingInt (raw : Raw) : Option Int × Raw :=
  let body := raw.dropWhile Raw.isSpace
  let (isNegative, body) : Bool × Raw := match body with
    | '-' :: rest => (true, rest)
    | '+' :: rest => (false, rest)
    | rest => (false, rest)
  let digits := body.takeWhile Char.isDigit
  let n : Int := Raw.valueIn 10 digits
  if digits.isEmpty then (none, raw)
  else (some (if isNegative then -n else n), body.drop digits.length)

/-- The number of places at the head of the rest of a format, if it asks for one. -/
def formatPlaces (raw : Raw) : Except NumberFormatFault (Option Nat × Raw) :=
  match raw with
  | '.' :: rest =>
    let (n, after) := leadingInt rest
    if n.any (fun n => n < 0 ∨ (Scale.wordLimit : Int) < n) ∨
        rest.head?.any (fun c => Raw.isBlank c || c == '+') then
      .error ("invalid precision in format ", "")
    else .ok (some (n.getD 0).toNat, after)
  | rest => .ok (none, rest)

/-- What a format asks for. -/
def readNumberFormat (raw : Raw) : Except NumberFormatFault NumberFormat := do
  match formatStart? 0 raw with
  | none => .error ("format ", " has no % directive")
  | some (count, rest) =>
    let marks := rest.takeWhile (" '0".toList.contains ·)
    let (width, rest) := leadingInt (rest.drop marks.length)
    if width.any fun n => n < -(Scale.wordLimit : Int) ∨ (Scale.wordLimit : Int) < n then
      .error ("invalid format ", " (width overflow)")
    else if rest.isEmpty then .error ("format ", " ends in %")
    else
      let (places, rest) ← formatPlaces rest
      match rest with
      | 'f' :: after =>
        if hasLonePercent after then .error ("format ", " has too many % directives")
        else return ⟨raw.take count, after, width.getD 0, marks.contains '0', places⟩
      | _ => .error ("invalid format ", ", directive must be %[0]['][-][N][.][N]f")

/-! ## The program -/

/-- The size of a unit. -/
def unitSize (raw : Raw) : Job Nat := do
  let powers := "KMGTPEZY"
  let answer := match raw.reverse with
    | 'i' :: c :: rest => if c.isDigit then scaled? 10 (powers ++ "0") (raw ++ ['B'])
      else scaled? 10 powers (c :: rest).reverse
    | c :: _ => if c.isDigit then scaled? 10 powers raw
      else scaled? 10 (powers ++ "0") (raw ++ ['B'])
    | [] => .error .none
  match answer with
  | .ok (n + 1) => return n + 1
  | _ => giveUp 1 ("invalid unit size: ".toList ++ Quoting.forReader raw)

/-- The scale of a word. -/
def scaleOf (word : String) : Scale :=
  match word with
  | "auto" => .auto
  | "si" => .thousand
  | "iec" => .binary
  | "iec-i" => .marked
  | _ => .plain

/-- The rescaling with one more option; the width of a padding is kept as it is given. -/
def Rescaling.withOption (r : Rescaling) (key : String) (value : Raw) : Job Rescaling := do
  let choose (key : String) (words : List String) : Job String :=
    chooseWord 1 ("--" ++ key) true (words.map fun w => [w]) value
  match key with
  | "from" =>
    return { r with source := scaleOf (← choose key ["none", "auto", "si", "iec", "iec-i"]) }
  | "to" => return { r with target := scaleOf (← choose key ["none", "si", "iec", "iec-i"]) }
  | "from-unit" => return { r with sourceUnit := ← unitSize value }
  | "to-unit" => return { r with targetUnit := ← unitSize value }
  | "round" =>
    let rounding : Rounding := match ← choose key
        ["up", "down", "from-zero", "towards-zero", "nearest"] with
      | "up" => .up
      | "down" => .down
      | "towards-zero" => .towardsZero
      | "nearest" => .nearest
      | _ => .fromZero
    return { r with rounding }
  | "padding" =>
    match leadingInt value with
    | (some n, []) =>
      if n ≠ 0 ∧ n.natAbs ≤ Scale.wordLimit then
        return { r with padding := n.natAbs, isLeft := r.isLeft || n < 0 }
      else giveUp 1 ("invalid padding value ".toList ++ Quoting.forReader value)
    | _ => giveUp 1 ("invalid padding value ".toList ++ Quoting.forReader value)
  | "field" =>
    if r.fields.isSome then giveUp 1 "multiple field specifications".toList
    else
      match if value = ['-'] then .ok [⟨1, none⟩] else readSpans true false value with
      | .ok spans => return { r with fields := some spans }
      | .error text => giveUsage 1 text
  | "d" =>
    match value with
    | [] => return { r with delimiter := some Raw.nul }
    | [c] => return { r with delimiter := some c }
    | _ => giveUp 1 "the delimiter must be a single character".toList
  | "z" => return { r with ending := Raw.nul }
  | "suffix" => return { r with unit := value }
  | "debug" => return { r with isTalkative := true }
  | "invalid" =>
    let invalid : Invalid := match ← choose key ["abort", "fail", "warn", "ignore"] with
      | "fail" => .fail
      | "warn" => .warn
      | "ignore" => .ignore
      | _ => .abort
    return { r with invalid }
  | "header" =>
    if value.isEmpty then return { r with header := 1 }
    else
      match scaled? 10 "" value with
      | .ok (n + 1) => return { r with header := n + 1 }
      | _ => giveUp 1 ("invalid header value ".toList ++ Quoting.forReader value)
  | _ => return r

/-- The rescaling with what a format asks for. -/
def Rescaling.withFormat (r : Rescaling) (raw : Raw) : Job Rescaling := do
  match readNumberFormat raw with
  | .error (lead, tail) =>
    giveUp 1 (lead.toList ++ Quoting.forReader raw ++ tail.toList)
  | .ok f =>
    let isOver : Bool := decide (f.width ≠ 0 ∧ 0 < r.padding ∧ ¬ (f.hasZeros ∧ 0 < f.width))
    if r.isTalkative ∧ isOver then complain "--format padding overriding --padding".toList
    let r := { r with before := f.before, after := f.after, places := f.places }
    if f.width < 0 then return { r with padding := f.width.natAbs, isLeft := true }
    else if f.width = 0 then return r
    else if f.hasZeros then return { r with zeros := f.width.toNat }
    else return { r with padding := f.width.toNat }

/-- Write numbers in other units. -/
def numfmt : Job Unit := do
  let start : Rescaling := ⟨.plain, .plain, 1, 1, .fromZero, 0, false, 0, none, [], [], [], none,
    '\n', none, .abort, false, 0⟩
  let (settled, o) ← foldOptions ("d,delimiter: z,zero-terminated from: from-unit: to: " ++
    "to-unit: round: padding: suffix: grouping field: debug header? format: invalid:")
    true 1 (← get).call.arguments start fun r key value _ => r.withOption key value
  let mut r := settled
  let format := o.value? "format"
  if o.has "grouping" ∧ format.isSome then
    giveUp 1 "--grouping cannot be combined with --format".toList
  if r.isTalkative ∧ r.source = .plain ∧ r.target = .plain ∧ ¬ o.has "grouping" ∧ r.padding = 0 ∧
      format.isNone then
    complain "no conversion option specified".toList
  if let some raw := format then
    r ← r.withFormat raw
  let isGrouped := o.has "grouping" || format.any fun raw =>
    match formatStart? 0 raw with
    | some (_, rest) => (rest.takeWhile (" '0".toList.contains ·)).contains '\''
    | none => false
  if isGrouped then
    if r.target ≠ .plain then giveUp 1 "grouping cannot be combined with --to".toList
    if r.isTalkative then complain "grouping has no effect in this locale".toList
  let mut isGood := true
  if o.operands.isEmpty then
    if let some fault := (← get).call.inputFault then
      giveUp 1 ("error reading input: ".toList ++ faultText fault)
    let mut left := r.header
    let lines := linesEnding r.ending (← readAll)
    for line in lines do
      if 0 < left then
        say (if line.isEnded then line.raw ++ [r.ending] else line.raw)
        left := left - 1
      else if ¬ (← r.line line.raw line.isEnded) then isGood := false
  else
    if r.isTalkative ∧ 0 < r.header then
      complain "--header ignored with command-line input".toList
    for line in o.operands do
      if ¬ (← r.line line true) then isGood := false
  if ¬ isGood ∧ r.isTalkative then
    flush
    complain "failed to convert some of the input numbers".toList
  exit (if isGood ∨ r.invalid = .warn ∨ r.invalid = .ignore then 0 else 2)

end Tool
end MakeTen
