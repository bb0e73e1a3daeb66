import MakeTen.Text.Raw
/-!
# Arithmetic

Expressions over whole numbers of 64 bits, as a script may write them between
double parentheses.  A name stands for the number that its value spells, and
for zero if it has none; an assignment gives it another value.  What a choice or
a logical operator leaves out is read but not evaluated.

Main definitions:

- Type `Shell.SumFault`: what is wrong with an expression.
- Function `Shell.numberOf?`: the number that a value spells.
- Function `Shell.evaluate`: the value of an expression, and its assignments.
-/

namespace MakeTen
namespace Shell

/-- What is wrong with an expression. -/
inductive SumFault where
  | divisionByZero
  /-- A quotient is too great for the processor, which ends the shell. -/
  | overflow
  /-- Something is missing, or stands where it should not. -/
  | expecting (what : String)
  /-- The value of a name spells no number. -/
  | badNumber (text : Raw)
  /-- A name keeps its value. -/
  | readOnly (name : String)

/-! ## Numbers -/

/-- A number brought into the range of 64 bits with a sign. -/
def wrap (n : Int) : Int :=
  Int.bmod n UInt64.size

/-- The nearest number in the range of 64 bits with a sign. -/
def clamp (n : Int) : Int :=
  max (-Raw.numberBound) (min (Raw.numberBound - 1) n)

/-- A truth value as a number. -/
def ofTruth (b : Bool) : Int :=
  if b then 1 else 0

/-- The bits of a number. -/
def bits (n : Int) : Nat :=
  (n % Raw.wordSize).toNat

/-- The number that the digits at the head of a text spell, in the base that
their start tells, and what follows. -/
def readNumber (raw : Raw) : Nat × Raw :=
  let based (base : Nat) (raw : Raw) : Nat × Raw :=
    let digits := raw.takeWhile fun c => c.isAlphanum && Raw.digitValue c < base
    (Raw.valueIn base digits, raw.drop digits.length)
  let hexadecimal (rest : Raw) : Nat × Raw :=
    if rest.head?.any Raw.isHexadecimal then based 16 rest else (0, raw.drop 1)
  match raw with
  | '0' :: 'x' :: rest => hexadecimal rest
  | '0' :: 'X' :: rest => hexadecimal rest
  | '0' :: rest => based 8 ('0' :: rest)
  | raw => based 10 raw

/-- The number that a value spells: blanks, a sign, digits, and blanks.  A value
of blanks alone spells zero. -/
def numberOf? (raw : Raw) : Option Int :=
  let trimmed := raw.dropWhile Raw.isSpace
  let (sign, digits) : Int × Raw := match trimmed with
    | '-' :: rest => (-1, rest)
    | '+' :: rest => (1, rest)
    | rest => (1, rest)
  if trimmed.isEmpty then some 0
  else if ¬ digits.head?.any Char.isDigit then none
  else
    let (n, rest) := readNumber digits
    if rest.all Raw.isSpace then some (clamp (sign * (n : Int))) else none

/-! ## Tokens -/

/-- A token of an expression. -/
inductive SumToken where
  | number (n : Int)
  | name (name : String)
  | operator (name : String)
  /-- A character that no expression has. -/
  | stray
  deriving DecidableEq

/-- All operators; longer ones stand before those that they start with. -/
def operatorNames : List String :=
  ["<<=", ">>=", "||", "&&", "<<", ">>", "<=", ">=", "==", "!=", "*=", "/=", "%=", "+=", "-=",
    "&=", "^=", "|=", "|", "^", "&", "<", ">", "+", "-", "*", "/", "%", "=", "!", "~", "?", ":",
    "(", ")"]

/-- The tokens of an expression.  The fuel is its length. -/
def sumTokens : Nat → Raw → List SumToken
  | 0, _ => []
  | fuel + 1, raw =>
    match raw with
    | [] => []
    | c :: rest =>
      if c = ' ' ∨ c = '\t' ∨ c = '\n' then sumTokens fuel rest
      else if c.isDigit then
        let (n, rest) := readNumber raw
        .number (clamp n) :: sumTokens fuel rest
      else if Raw.startsName c then
        .name (String.ofList (raw.takeWhile Raw.inName)) ::
          sumTokens fuel (raw.dropWhile Raw.inName)
      else
        match operatorNames.find? fun name => name.toList.isPrefixOf raw with
        | some name => .operator name :: sumTokens fuel (raw.drop name.length)
        | none => .stray :: sumTokens fuel rest

/-- The level of an operator of two operands; the tightest have level zero. -/
def level? (name : String) : Option Nat :=
  [("*", 0), ("/", 0), ("%", 0), ("+", 1), ("-", 1), ("<<", 2), (">>", 2), ("<", 3), ("<=", 3),
    (">", 3), (">=", 3), ("==", 4), ("!=", 4), ("&", 5), ("^", 6), ("|", 7)].lookup name

/-- The loosest level of an operator of two operands. -/
def loosest : Nat := 7

/-- The operator that an assignment applies before it assigns, if any; nothing if
an operator does not assign. -/
def assigned? (name : String) : Option (Option String) :=
  if name = "=" then some none
  else if ["<<=", ">>=", "*=", "/=", "%=", "+=", "-=", "&=", "^=", "|="].contains name then
    some (some (String.ofList name.toList.dropLast))
  else none

/-- The value of an operator. -/
def applyOperator (name : String) (a b : Int) : Except SumFault Int :=
  match name with
  | "|" => .ok (wrap (bits a ||| bits b : Nat))
  | "^" => .ok (wrap (bits a ^^^ bits b : Nat))
  | "&" => .ok (wrap (bits a &&& bits b : Nat))
  | "==" => .ok (ofTruth (a == b))
  | "!=" => .ok (ofTruth (a != b))
  | "<" => .ok (ofTruth (a < b))
  | "<=" => .ok (ofTruth (a ≤ b))
  | ">" => .ok (ofTruth (b < a))
  | ">=" => .ok (ofTruth (b ≤ a))
  | "<<" => .ok (wrap (a * (Nat.pow 2 (bits b % 64) : Nat)))
  | ">>" => .ok (a / (Nat.pow 2 (bits b % 64) : Nat))
  | "+" => .ok (wrap (a + b))
  | "-" => .ok (wrap (a - b))
  | "*" => .ok (wrap (a * b))
  | operator =>
    if b = 0 then .error .divisionByZero
    else if b = -1 ∧ wrap (-a) ≠ -a then .error .overflow
    else .ok (if operator = "/" then Int.tdiv a b else Int.tmod a b)

/-! ## Evaluation -/

/-- An expression on its way. -/
structure SumState where
  /-- The tokens that are left. -/
  tokens : List SumToken
  /-- The assignments made, the latest first. -/
  assignments : List (String × Int)

/-- Steps of an evaluation.  Assignments in front of a fault have been made. -/
abbrev Sum := ExceptT SumFault (StateM SumState)

/-- What the names of an expression stand for before it. -/
structure SumNames where
  value? : String → Option Raw
  isReadOnly : String → Bool

/-- Whether an operator comes next; it is taken if it does. -/
def takeOperator (name : String) : Sum Bool := do
  let s ← get
  if s.tokens.head? = some (.operator name) then
    set { s with tokens := s.tokens.drop 1 }
    return true
  else return false

/-- The number of a name. -/
def sumValue (names : SumNames) (name : String) : Sum Int := do
  match (← get).assignments.lookup name with
  | some n => return n
  | none =>
    let raw := (names.value? name).getD []
    match numberOf? raw with
    | some n => return n
    | none => throw (.badNumber raw)

mutual

/-- An assignment or a choice.  What is not `live` is not evaluated. -/
def sumAssignment (names : SumNames) (fuel : Nat) (live : Bool) : Sum Int :=
  match fuel with
  | 0 => throw (.expecting "primary")
  | fuel + 1 => do
    let s ← get
    match s.tokens with
    | .name name :: .operator operator :: rest =>
      match assigned? operator with
      | none => sumChoice names fuel live
      | some before => do
        set { s with tokens := rest }
        let n ← sumAssignment names fuel live
        if ¬ live then return n
        let n ← match before with
          | none => pure n
          | some before => do
            let old ← sumValue names name
            liftM (applyOperator before old n)
        if names.isReadOnly name then throw (.readOnly name)
        modify fun s => { s with assignments := (name, n) :: s.assignments }
        return n
    | _ => sumChoice names fuel live

/-- A choice between two values. -/
def sumChoice (names : SumNames) (fuel : Nat) (live : Bool) : Sum Int :=
  match fuel with
  | 0 => throw (.expecting "primary")
  | fuel + 1 => do
    let test ← sumEither names fuel live
    if ¬ (← takeOperator "?") then return test
    let first ← sumAssignment names fuel (live && test ≠ 0)
    if ¬ (← takeOperator ":") then throw (.expecting "':'")
    let second ← sumChoice names fuel (live && test = 0)
    return if test = 0 then second else first

/-- Alternatives. -/
def sumEither (names : SumNames) (fuel : Nat) (live : Bool) : Sum Int :=
  match fuel with
  | 0 => throw (.expecting "primary")
  | fuel + 1 => do
    let first ← sumBoth names fuel live
    if ¬ (← takeOperator "||") then return first
    let second ← sumEither names fuel (live && first = 0)
    return ofTruth (first ≠ 0 || second ≠ 0)

/-- Conditions that all have to hold. -/
def sumBoth (names : SumNames) (fuel : Nat) (live : Bool) : Sum Int :=
  match fuel with
  | 0 => throw (.expecting "primary")
  | fuel + 1 => do
    let first ← sumLevel names fuel loosest live
    if ¬ (← takeOperator "&&") then return first
    let second ← sumBoth names fuel (live && first ≠ 0)
    return ofTruth (first ≠ 0 && second ≠ 0)

/-- Operators that are at least as tight as a level. -/
def sumLevel (names : SumNames) (fuel level : Nat) (live : Bool) : Sum Int :=
  match fuel with
  | 0 => throw (.expecting "primary")
  | fuel + 1 => do
    let first ← match level with
      | 0 => sumPrimary names fuel live
      | level + 1 => sumLevel names fuel level live
    sumMore names fuel level live first

/-- More operands on a level. -/
def sumMore (names : SumNames) (fuel level : Nat) (live : Bool) (first : Int) :
    Sum Int :=
  match fuel with
  | 0 => throw (.expecting "primary")
  | fuel + 1 => do
    let s ← get
    match s.tokens with
    | .operator name :: rest =>
      if level? name = some level then
        set { s with tokens := rest }
        let second ← match level with
          | 0 => sumPrimary names fuel live
          | level + 1 => sumLevel names fuel level live
        let n ← if live then liftM (applyOperator name first second) else pure second
        sumMore names fuel level live n
      else return first
    | _ => return first

/-- A number, a name, an operand with a sign, or an expression in parentheses. -/
def sumPrimary (names : SumNames) (fuel : Nat) (live : Bool) : Sum Int :=
  match fuel with
  | 0 => throw (.expecting "primary")
  | fuel + 1 => do
    let s ← get
    set { s with tokens := s.tokens.drop 1 }
    match s.tokens with
    | .number n :: _ => return n
    | .name name :: _ => if live then sumValue names name else return 0
    | .operator "(" :: _ =>
      let n ← sumAssignment names fuel live
      if ← takeOperator ")" then return n else throw (.expecting "')'")
    | .operator "-" :: _ => return wrap (-(← sumPrimary names fuel live))
    | .operator "+" :: _ => sumPrimary names fuel live
    | .operator "!" :: _ => return ofTruth ((← sumPrimary names fuel live) = 0)
    | .operator "~" :: _ => return wrap (-(← sumPrimary names fuel live) - 1)
    | _ => throw (.expecting "primary")

end

/-- The value of an expression or what is wrong with it, and the assignments that have
been made, the latest first. -/
def evaluate (names : SumNames) (raw : Raw) : Except SumFault Int × List (String × Int) :=
  let tokens := sumTokens (raw.length + 1) raw
  let whole : Sum Int := do
    let n ← sumAssignment names (20 * tokens.length + 40) true
    if (← get).tokens.isEmpty then return n else throw (.expecting "EOF")
  let (result, s) := whole.run.run ⟨tokens, []⟩
  (result, s.assignments)

end Shell
end MakeTen
