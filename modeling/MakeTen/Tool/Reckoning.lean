import MakeTen.Number.FloatSum
import MakeTen.Regex.Matching
import MakeTen.Regex.Reader
import MakeTen.Tool.Options
import MakeTen.Tool.Printing
/-!
# Reckoning

Programs that work with numbers: one counts from a number to another, one finds
the value of an expression, and one finds the prime factors of numbers.

Main definitions:

- Function `Tool.seq`: numbers one after the other.
- Function `Tool.expr`: the value of an expression.
- Function `Tool.factor`: prime factors.
-/

namespace MakeTen
namespace Tool

/-! ## Counting -/

/-- A number as it was given. -/
structure Bound where
  value : Floating
  /-- How many characters it takes to write it. -/
  width : Int
  /-- How many places it has, unless that cannot be said. -/
  places : Option Nat

/-- The width and the places of a number without blanks and signs in front. -/
def boundSize (text : Raw) : Int × Option Nat :=
  let point := text.idxOf? '.'
  let part := match point with
    | some i => (text.drop (i + 1)).takeWhile fun c => c ≠ 'e' ∧ c ≠ 'E'
    | none => []
  let beforePoint := point.bind fun i => if i = 0 then none else text[i - 1]?
  let width : Int := (text.length : Int) +
    (if point.isNone then 0
      else if part.isEmpty then -1
      else if beforePoint.any Char.isDigit then 0 else 1)
  let mark := (text.idxOf? 'e').or (text.idxOf? 'E')
  match mark with
  | none => (width, some part.length)
  | some i =>
    let (exponent, _) := FloatFormat.readExponent ['e', 'E'] (text.drop i)
    let width := width - ((text.length - i : Nat) : Int)
    let power := exponent.natAbs
    if exponent < 0 then
      let undone : Int := match point with
        | some p => if i = p + 1 then 1 else 0
        | none => 1
      (width + undone + power, some (part.length + power))
    else
      let places := part.length - power
      let width := if point.isSome ∧ places = 0 ∧ ¬ part.isEmpty then width - 1 else width
      (width + ((power - part.length : Nat) : Int), some places)

/-- A number that is given as an argument. -/
def readBound (argument : Raw) : Job Bound := do
  let r := FloatFormat.extended.read argument
  if argument.isEmpty ∨ ¬ r.isNumber ∨ ¬ r.rest.isEmpty then
    giveUsage 1 ("invalid floating point argument: ".toList ++ Quoting.forReader argument)
  let text := argument.dropWhile fun c => Raw.isSpace c || c == '+'
  match r.value with
  | .undefined _ =>
    giveUsage 1 ("invalid ".toList ++ Quoting.forReader "not-a-number".toList ++
      " argument: ".toList ++ Quoting.forReader argument)
  | value =>
    let isPlain := !text.contains 'x' && !text.contains 'X'
    if isPlain ∧ value.isFinite then
      let (width, places) := boundSize text
      return ⟨value, width, places⟩
    else return ⟨value, 0, if text.contains '.' ∨ text.contains 'p' then none else some 0⟩

/-- How the numbers of a sequence are written: what stands before and after them,
and the conversion. -/
structure TermStyle where
  before : Raw
  conversion : Conversion
  after : Raw

/-- A number in a style, without what stands around it. -/
def TermStyle.body (s : TermStyle) (x : Floating) : Raw :=
  let k := s.conversion
  let places := k.precision.getD 6
  let body := match k.kind.toLower with
    | 'f' => x.fixed places k.alternate
    | 'e' => x.scientific places k.alternate
    | 'g' => x.general places k.alternate
    | _ => x.hexadecimal .extended k.precision k.alternate
  let body := if k.kind.isUpper then body.map Char.toUpper else body
  let sign := k.sign (if x.isNegative then -1 else 0)
  let body :=
    if k.zeroFilled ∧ ¬ k.leftAligned ∧ x.isFinite then
      Raw.padStart (k.width - sign.length) '0' body
    else body
  k.fill (sign ++ body)

/-- What is wrong with a format for numbers. -/
def badNumberFormat {α : Type} (format : Raw) (problem : String) : Job α :=
  giveUp 1 ("format ".toList ++ Quoting.forReader format ++ ' ' :: problem.toList)

/-- The text at the head of a format up to its first conversion, with double
percent signs as single ones, and what follows. -/
def plainPart : Nat → Raw → Raw × Option Raw
  | 0, _ => ([], none)
  | fuel + 1, format =>
    let (lead, rest) := (format.takeWhile (· ≠ '%'), format.dropWhile (· ≠ '%'))
    match rest with
    | '%' :: '%' :: rest =>
      let (more, left) := plainPart fuel rest
      (lead ++ '%' :: more, left)
    | '%' :: rest => (lead, some rest)
    | _ => (lead, none)

/-- The style that a format asks for. -/
def readTermStyle (format : Raw) : Job TermStyle := do
  match plainPart (format.length + 1) format with
  | (_, none) => badNumberFormat format "has no % directive"
  | (before, some rest) =>
    let flags := rest.takeWhile fun c => "-+#0 '".toList.contains c
    let rest := rest.drop flags.length
    let width := rest.takeWhile Char.isDigit
    let rest := rest.drop width.length
    let (precision, rest) : Option Nat × Raw := match rest with
      | '.' :: rest =>
        let digits := rest.takeWhile Char.isDigit
        (some (Raw.valueIn 10 digits), rest.drop digits.length)
      | rest => (none, rest)
    let rest := if rest.head? = some 'L' then rest.drop 1 else rest
    match rest with
    | [] => badNumberFormat format "ends in %"
    | kind :: rest =>
      if ¬ "efgaEFGA".toList.contains kind then
        badNumberFormat format ("has unknown %" ++ String.ofList [kind] ++ " directive")
      else
        match plainPart (rest.length + 1) rest with
        | (_, some _) => badNumberFormat format "has too many % directives"
        | (after, none) =>
          let k : Conversion := ⟨flags.contains '-', flags.contains '0', flags.contains '+',
            flags.contains ' ', flags.contains '#', Raw.valueIn 10 width, precision, kind⟩
          return ⟨before, k, after⟩

/-- The usual style for numbers from one to another. -/
def usualTermStyle (isEven : Bool) (first step last : Bound) : TermStyle :=
  let plain (width : Nat) (precision : Option Nat) (kind : Char) : TermStyle :=
    ⟨[], ⟨false, isEven, false, false, false, width, precision, kind⟩, []⟩
  match first.places, step.places, last.places with
  | some p, some q, some r =>
    let places := max p q
    if isEven then
      let firstWidth := first.width + ((places : Int) - p) +
        (if p = 0 ∧ places ≠ 0 then 1 else 0)
      let lastWidth := last.width + ((places : Int) - r) +
        (if r ≠ 0 ∧ places = 0 then -1 else if r = 0 ∧ places ≠ 0 then 1 else 0)
      plain (max firstWidth lastWidth).toNat (some places) 'f'
    else plain 0 (some places) 'f'
  | _, _, _ => plain 0 none 'g'

/-- How many numbers are counted at most. -/
def countLimit : Nat := 1000000

/-- How many numbers are counted without a pause. -/
def countBlock : Nat := 16384

/-- Count whole numbers upwards; `isFirst` says that none has been written. -/
def countUp (separator : Raw) (step last : Nat) : Nat → Nat → Bool → Job Unit
  | 0, _, _ => say ['\n']
  | fuel + 1, n, isFirst => do
    if last < n then
      if ¬ isFirst then say ['\n']
    else
      if ¬ isFirst then say separator
      say (Raw.ofNat n)
      if fuel % countBlock = 0 then
        let _ ← ask (.pause 1000)
      countUp separator step last fuel (n + step) false

/-- Whether a number that lies past the last one is written all the same, as it
looks like the last one and not like the one before. -/
def looksLast (s : TermStyle) (before x last : Floating) : Bool :=
  let text := s.body x
  let r := FloatFormat.extended.read text
  r.isNumber && r.rest.isEmpty && r.value.isEqual last && s.body before != text

/-- Count from a number; `n` steps have been taken, and `x` is where they led. -/
def countSteps (s : TermStyle) (separator : Raw) (first step last : Floating) :
    Nat → Nat → Floating → Job Unit
  | 0, _, _ => say ['\n']
  | fuel + 1, n, x => do
    say (s.before ++ s.body x ++ s.after)
    let next := FloatFormat.extended.sum first
      (FloatFormat.extended.product (FloatFormat.extended.ofInt ((n : Int) + 1)) step)
    let isPast := if step.isNegative then next.isLess last else last.isLess next
    if isPast then
      if looksLast s x next last then say (separator ++ s.before ++ s.body next ++ s.after)
      say ['\n']
    else
      say separator
      if fuel % countBlock = 0 then
        let _ ← ask (.pause 1000)
      countSteps s separator first step last fuel (n + 1) next

/-- Whether an argument is a number below zero rather than an option: a hyphen with a
digit or a point after it. -/
def isNegativeNumber : Raw → Bool
  | '-' :: c :: _ => c == '.' || c.isDigit
  | _ => false

/-- Numbers from the first to the last. -/
def seq : Job Unit := do
  let reading := arrangedReading "f,format: s,separator: w,equal-width"
    (.before isNegativeNumber) (← get).call.arguments
  let (_, o) ← reading.foldJob 1 () fun _ _ _ _ => pure ()
  let operands := o.operands
  let separator := (o.value? "s").getD ['\n']
  let one : Bound := ⟨FloatFormat.extended.ofInt 1, 1, some 0⟩
  if operands.isEmpty then missingOperand 1
  match operands.drop 3 with
  | extra :: _ => extraOperand 1 extra
  | [] => pure ()
  let style ← match o.value? "f" with
    | some format => pure (some (← readTermStyle format))
    | none => pure none
  if style.isSome ∧ o.has "w" then
    giveUsage 1 "format string may not be specified when printing equal width strings".toList
  let isWhole (raw : Raw) : Bool := !raw.isEmpty && raw.all Char.isDigit
  let isFast := operands.all isWhole && style.isNone && !o.has "w" && separator.length == 1
  let whole := operands.map (Raw.valueIn 10)
  match isFast, whole with
  | true, [last] => countUp separator 1 last countLimit 1 true
  | true, [first, last] => countUp separator 1 last countLimit first true
  | true, [first, step, last] =>
    if step = 0 then
      giveUsage 1 ("invalid Zero increment value: ".toList ++
        Quoting.forReader ((operands.drop 1).headD []))
    countUp separator step last countLimit first true
  | _, _ =>
    let bounds ← match operands with
      | [last] => do pure (one, one, ← readBound last)
      | [first, last] => do
        let first ← readBound first
        pure (first, one, ← readBound last)
      | _ => do
        let first ← readBound (operands.headD [])
        let step ← readBound ((operands.drop 1).headD [])
        if step.value.isEqual .zero then
          giveUsage 1 ("invalid Zero increment value: ".toList ++
            Quoting.forReader ((operands.drop 1).headD []))
        pure (first, step, ← readBound ((operands.drop 2).headD []))
    let (first, step, last) := bounds
    let style := style.getD (usualTermStyle (o.has "w") first step last)
    let isPast := if step.value.isNegative then first.value.isLess last.value
      else last.value.isLess first.value
    if ¬ isPast then
      countSteps style separator first.value step.value last.value countLimit 0 first.value

/-! ## Expressions -/

/-- What an expression comes to. -/
inductive Amount where
  | number (n : Int)
  | text (raw : Raw)

namespace Amount

/-- An amount as text. -/
def raw : Amount → Raw
  | .number n => Raw.ofInt n
  | .text raw => raw

/-- Whether a text is a whole number. -/
def isWhole (raw : Raw) : Bool :=
  let digits := match raw with
    | '-' :: rest => rest
    | rest => rest
  !digits.isEmpty && digits.all Char.isDigit

/-- The whole number that an amount is. -/
def int? : Amount → Option Int
  | .number n => some n
  | .text raw => if isWhole raw then Raw.toInt? raw else none

/-- Whether an amount counts as nothing. -/
def isNull : Amount → Bool
  | .number n => n == 0
  | .text raw =>
    let digits := match raw with
      | '-' :: rest => rest
      | rest => rest
    raw.isEmpty || (!digits.isEmpty && digits.all (· == '0'))

/-- How two amounts compare: as numbers if both are, else as texts. -/
def compareWith (a b : Amount) : Ordering :=
  match a.int?, b.int? with
  | some m, some n => compare m n
  | _, _ => if a.raw = b.raw then .eq else if Raw.le a.raw b.raw then .lt else .gt

end Amount

/-- The arguments of an expression that have not been used, and the one before
them. -/
structure ExprState where
  before : Raw
  rest : List Raw

/-- Steps through an expression; a fault is given in words. -/
abbrev ExprStep := StateT ExprState (Except Raw)

/-- Use the next argument if it is a certain one. -/
def takeWord (word : String) : ExprStep Bool := do
  match (← get).rest with
  | next :: rest =>
    if next = word.toList then
      set (⟨next, rest⟩ : ExprState)
      return true
    else return false
  | [] => return false

/-- Use the first of some words that comes next. -/
def takeAnyWord (words : List String) : ExprStep (Option String) := do
  match words with
  | [] => return none
  | word :: more => if ← takeWord word then return some word else takeAnyWord more

/-- Use the next argument. -/
def takeArgument : ExprStep Raw := do
  let s ← get
  match s.rest with
  | next :: rest =>
    set (⟨next, rest⟩ : ExprState)
    return next
  | [] =>
    throw ("syntax error: missing argument after ".toList ++ Quoting.forReader s.before)

/-- A text matched by a pattern from its start: the first group, or the number of
characters. -/
def matchStart (text pattern : Raw) : Except Raw Amount := do
  match Regex.read .basicEdit (pattern) with
  | .error fault => throw fault.text.toList
  | .ok r =>
    let found := Regex.matchAt? (.ofLine false text) r 0
    if r.hasGroups then
      match found.bind (·.group? 1) with
      | some (first, last) => return .text ((text.take last).drop first)
      | none => return .text []
    else
      return .number (match found with
        | some m => m.last
        | none => 0)

/-- A part of a text, counted from one; nothing if the numbers make no sense. -/
def partOf (text : Raw) (start count : Amount) : Raw :=
  match start.int?, count.int? with
  | some i, some n =>
    if i ≤ 0 ∨ n ≤ 0 then []
    else (text.drop (i.toNat - 1)).take n.toNat
  | _, _ => []

/-- The first position of one of some characters, counted from one. -/
def firstOf (text letters : Raw) : Nat :=
  match text.findIdx? letters.contains with
  | some n => n + 1
  | none => 0

/-- The result of an operation on two whole numbers. -/
def reckon (operator : String) (a b : Amount) : Except Raw Amount :=
  match a.int?, b.int? with
  | some m, some n =>
    match operator with
    | "+" => .ok (.number (m + n))
    | "-" => .ok (.number (m - n))
    | "*" => .ok (.number (m * n))
    | "/" => if n = 0 then .error "division by zero".toList else .ok (.number (m.tdiv n))
    | _ => if n = 0 then .error "division by zero".toList else .ok (.number (m.tmod n))
  | _, _ => .error "non-integer argument".toList

/-- Whether a comparison holds. -/
def comparisonHolds (operator : String) (order : Ordering) : Bool :=
  match operator with
  | "<" => order == .lt
  | "<=" => order != .gt
  | ">" => order == .gt
  | ">=" => order != .lt
  | "!=" => order != .eq
  | _ => order == .eq

/-- The operators of each level, the loosest first. -/
def exprOperators : Nat → List String
  | 0 => ["|"]
  | 1 => ["&"]
  | 2 => ["<=", "<", "==", "=", "!=", ">=", ">"]
  | 3 => ["+", "-"]
  | 4 => ["*", "/", "%"]
  | _ => [":"]

/-- The result of an operation; where `isLive` is false, no result is wanted, and
nothing can be wrong. -/
def combine (isLive : Bool) (operator : String) (a b : Amount) : Except Raw Amount :=
  match operator with
  | "|" => .ok (if ¬ a.isNull then a else if b.isNull then .number 0 else b)
  | "&" => .ok (if a.isNull ∨ b.isNull then .number 0 else a)
  | operator =>
    if ¬ isLive then .ok a
    else if operator = ":" then matchStart a.raw b.raw
    else if (exprOperators 2).contains operator then
      .ok (.number (if comparisonHolds operator (a.compareWith b) then 1 else 0))
    else reckon operator a b

mutual

/-- The value of an expression whose operators are of a level or of a tighter
one. -/
def exprLevel : Nat → Bool → Nat → ExprStep Amount
  | 0, _, _ => throw []
  | fuel + 1, isLive, level => do
    if level < 6 then
      let a ← exprLevel fuel isLive (level + 1)
      exprMore fuel isLive level a
    else exprWord fuel isLive

/-- The value of an operation after its first operand. -/
def exprMore : Nat → Bool → Nat → Amount → ExprStep Amount
  | 0, _, _, _ => throw []
  | fuel + 1, isLive, level, a => do
    match ← takeAnyWord (exprOperators level) with
    | none => return a
    | some operator =>
      let isWanted := isLive &&
        (operator != "|" || a.isNull) && (operator != "&" || !a.isNull)
      let b ← exprLevel fuel isWanted (level + 1)
      let c ← combine isLive operator a b
      exprMore fuel isLive level c

/-- The value of a function or an operand. -/
def exprWord : Nat → Bool → ExprStep Amount
  | 0, _ => throw []
  | fuel + 1, isLive => do
    if ← takeWord "+" then return .text (← takeArgument)
    else if ← takeWord "length" then
      let a ← exprWord fuel isLive
      return .number a.raw.length
    else if ← takeWord "match" then
      let a ← exprWord fuel isLive
      let b ← exprWord fuel isLive
      if isLive then matchStart a.raw b.raw else return a
    else if ← takeWord "index" then
      let a ← exprWord fuel isLive
      let b ← exprWord fuel isLive
      return .number (firstOf a.raw b.raw)
    else if ← takeWord "substr" then
      let a ← exprWord fuel isLive
      let b ← exprWord fuel isLive
      let c ← exprWord fuel isLive
      return .text (partOf a.raw b c)
    else if ← takeWord "(" then
      let a ← exprLevel fuel isLive 0
      let s ← get
      match s.rest with
      | [] => throw ("syntax error: expecting ')' after ".toList ++ Quoting.forReader s.before)
      | next :: _ =>
        if ← takeWord ")" then return a
        else throw ("syntax error: expecting ')' instead of ".toList ++ Quoting.forReader next)
    else if ← takeWord ")" then throw "syntax error: unexpected ')'".toList
    else return .text (← takeArgument)

end

/-- The value of an expression of some arguments. -/
def exprValue (arguments : List Raw) : Except Raw Amount := do
  let (a, s) ← (exprLevel (16 * arguments.length + 16) true 0).run ⟨[], arguments⟩
  match s.rest with
  | next :: _ => throw ("syntax error: unexpected argument ".toList ++ Quoting.forReader next)
  | [] => return a

/-- The value of an expression. -/
def expr : Job Unit := do
  let arguments := match (← get).call.arguments with
    | ['-', '-'] :: rest => rest
    | arguments => arguments
  if arguments.isEmpty then missingOperand 2
  match exprValue arguments with
  | .error text => giveUp 2 text
  | .ok a =>
    sayLine a.raw
    exit (if a.isNull then 1 else 0)

/-! ## Factors -/

/-- The prime factors of a number from a divisor on. -/
def factorsFrom : Nat → Nat → Nat → List Nat
  | 0, _, n => [n]
  | fuel + 1, d, n =>
    if n < d * d then (if 1 < n then [n] else [])
    else if n % d = 0 then d :: factorsFrom fuel d (n / d)
    else factorsFrom fuel (if d = 2 then 3 else d + 2) n

/-- How many divisors are tried. -/
def divisorLimit : Nat := 4000000

/-- The prime factors of numbers. -/
def factor : Job Unit := do
  let o ← options "h,exponents"
  if let some fault := (← get).call.inputFault then
    if o.operands.isEmpty then giveUp 1 ("error reading input: ".toList ++ faultText fault)
  let texts ← if o.operands.isEmpty then pure (Raw.words (← readAll)) else pure o.operands
  let mut isGood := true
  for text in texts do
    let trimmed := Raw.trim text
    let digits := if trimmed.head? = some '+' then trimmed.drop 1 else trimmed
    match Raw.toNat? digits with
    | some n =>
      let factors := if n = 0 then [] else factorsFrom divisorLimit 2 n
      let parts := if o.has "h" then
        factors.eraseDups.map fun p =>
          let k := factors.count p
          Raw.ofNat p ++ if 1 < k then '^' :: Raw.ofNat k else []
        else factors.map Raw.ofNat
      sayLine (Raw.ofNat n ++ ':' :: parts.flatMap (' ' :: ·))
    | none =>
      complain (Quoting.forReader text ++ " is not a valid positive integer".toList)
      isGood := false
  exitGood isGood

end Tool
end MakeTen
