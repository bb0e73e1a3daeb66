import MakeTen.Regex.Reader
import MakeTen.Script.Syntax
import MakeTen.Script.Token
/-!
# Reading scripts

The words of a script are put together.  Of the operators, assignments bind least,
then the choice between two values, then connections, matches and comparisons, then
texts one after the other, and then the operations on numbers.

Whether a name is a table follows from its uses; names that are handed to functions
are what the functions take them for.

Main definitions:

- Structure `Script.BadScript`: complaints about a script.
- Function `Script.read`: the script that a text describes.
-/

namespace MakeTen
namespace Script

/-! ## States of reading -/

/-- What a name stands for. -/
inductive NameKind where
  | unknown
  | scalar
  | table
  deriving DecidableEq

/-- A function that has been called or written. -/
structure FunctionEntry where
  name : Raw
  /-- What its parameters are, once it has been written. -/
  parameters : Array (Raw × NameKind)
  body : Option Statement

/-- An argument of a call. -/
structure Argument where
  position : Nat
  kind : NameKind
  /-- The name that is handed over, if what it stands for is not known yet. -/
  slot : Option Slot

/-- A call of a function whose arguments are not all known yet. -/
structure OpenCall where
  /-- The function in which the call is. -/
  giver : Option Nat
  taker : Nat
  line : Nat
  /-- Whether the number of arguments has been looked at. -/
  isCounted : Bool
  /-- The arguments that are left, the last one first. -/
  arguments : List Argument

/-- Where reading has come to. -/
structure Reading where
  words : List Placed
  line : Nat
  parentheses : Nat
  braces : Nat
  /-- What is wrong so far, the latest first. -/
  complaints : List Raw
  globals : Array (Raw × NameKind)
  functions : Array FunctionEntry
  /-- The function that is read. -/
  current : Option Nat
  /-- Calls to look at in the end, the latest first. -/
  calls : List OpenCall
  loops : Nat
  ranges : Nat
  /-- Whether what is read is done for records. -/
  isForRecords : Bool

/-- Complaints about a script. -/
structure BadScript where
  lines : List Raw

/-- Steps of reading. -/
abbrev ReadStep := StateT Reading (Except BadScript)

/-! ## Complaints -/

/-- A complaint about a line. -/
def complaintAt (line : Nat) (text : Raw) : Raw :=
  let number := Raw.ofNat line ++ ": ".toList ++ text
  if text.take 10 = "unexpected".toList then number else "line ".toList ++ number

/-- The number of complaints after which reading ends. -/
def complaintLimit : Nat := 5

/-- Note a complaint and go on, unless there are too many. -/
def note (text : Raw) : ReadStep Unit := do
  modify fun s => { s with complaints := complaintAt s.line text :: s.complaints }
  let complaints := (← get).complaints
  if complaintLimit ≤ complaints.length then throw ⟨complaints.reverse⟩

/-- Give up with a complaint. -/
def refuse {α : Type} (text : Raw) : ReadStep α := do
  note text
  throw ⟨(← get).complaints.reverse⟩

/-- The next word, after complaints that reading can go on from. -/
def peekAfter : Nat → ReadStep Token
  | 0 => return .finish
  | fuel + 1 => do
    let s ← get
    match s.words with
    | [] => return .finish
    | ⟨.bad text goesOn, line⟩ :: rest =>
      set { s with words := rest, line }
      if goesOn then
        note text
        peekAfter fuel
      else refuse text
    | ⟨token, line⟩ :: _ =>
      set { s with line }
      return token

/-- The next word. -/
def peek : ReadStep Token := do
  peekAfter ((← get).words.length + 1)

/-- Go past the next word. -/
def advance : ReadStep Unit := do
  let token ← peek
  modify fun s =>
    { s with
      words := s.words.drop 1
      parentheses := if token == .mark "(" then s.parentheses + 1
        else if token == .mark ")" then s.parentheses - 1 else s.parentheses
      braces := if token == .mark "\x7b" then s.braces + 1
        else if token == .mark "\x7d" then s.braces - 1 else s.braces }

/-- Whether a word ends a statement. -/
def Token.endsStatement (token : Token) : Bool :=
  token == .newline || token == .mark ";" || token == .supplied || token == .mark "\x7d" ||
    token == .finish

/-- Give up because the next word makes no sense. -/
def refuseWord {α : Type} : ReadStep α := do
  let token ← peek
  let s ← get
  if token.endsStatement ∧ 0 < s.parentheses then
    refuse ("missing ) near ".toList ++ token.shown)
  else if token == .finish ∧ 0 < s.braces then
    refuse ("missing \x7d near ".toList ++ token.shown)
  else refuse ("syntax error at or near ".toList ++ token.shown)

/-- Go past a mark that has to be there. -/
def expect (spelt : String) : ReadStep Unit := do
  if (← peek) == .mark spelt then advance else refuseWord

/-- Go past a mark if it is there. -/
def passMark (spelt : String) : ReadStep Bool := do
  if (← peek) == .mark spelt then
    advance
    return true
  else return false

/-- Go past the end of a line if it is there. -/
def passLines : ReadStep Unit := do
  if (← peek) == .newline then advance

/-- Go past the end of a statement. -/
def passEnd : ReadStep Unit := do
  let token ← peek
  if token == .newline ∨ token == .mark ";" ∨ token == .supplied then advance else refuseWord

/-! ## Names -/

/-- The index of a name in a list of names. -/
def indexOf? {α : Type} (names : Array (Raw × α)) (name : Raw) : Option Nat :=
  names.findIdx? (·.1 = name)

/-- The parameters of the function that is read. -/
def ownNames : ReadStep (Array (Raw × NameKind)) := do
  let s ← get
  match s.current with
  | some f => return ((s.functions[f]?).map FunctionEntry.parameters).getD #[]
  | none => return #[]

/-- What a slot stands for in a function. -/
def kindIn (function : Option Nat) (slot : Slot) : ReadStep NameKind := do
  let s ← get
  match slot, function with
  | .shared n, _ => return ((s.globals[n]?).map Prod.snd).getD .unknown
  | .own n, some f =>
    return (((s.functions[f]?).bind fun e => e.parameters[n]?).map Prod.snd).getD .unknown
  | .own _, none => return .unknown

/-- Say what a slot stands for in a function. -/
def setKindIn (function : Option Nat) (slot : Slot) (kind : NameKind) : ReadStep Unit :=
  modify fun s =>
    let mark (names : Array (Raw × NameKind)) (n : Nat) : Array (Raw × NameKind) :=
      names.modify n fun p => (p.1, kind)
    match slot, function with
    | .shared n, _ => { s with globals := mark s.globals n }
    | .own n, some f =>
      { s with functions := s.functions.modify f fun e =>
          { e with parameters := mark e.parameters n } }
    | .own _, none => s

/-- What a slot stands for. -/
def kindOf (slot : Slot) : ReadStep NameKind := do
  kindIn (← get).current slot

/-- Say what a slot stands for. -/
def setKind (slot : Slot) (kind : NameKind) : ReadStep Unit := do
  setKindIn (← get).current slot kind

/-- The slot of a name. -/
def slotOf (name : Raw) : ReadStep Slot := do
  match indexOf? (← ownNames) name with
  | some n => return .own n
  | none =>
    let s ← get
    match indexOf? s.globals name with
    | some n => return .shared n
    | none =>
      set { s with globals := s.globals.push (name, .unknown) }
      return .shared s.globals.size

/-- The slot of a name that is used as a table or not. -/
def slotAs (kind : NameKind) (name : Raw) : ReadStep Slot := do
  let slot ← slotOf name
  match ← kindOf slot with
  | .unknown => setKind slot kind
  | known =>
    if known ≠ kind then
      let word := if known = .table then "array " else "variable "
      note ("illegal reference to ".toList ++ word.toList ++ name)
  return slot

/-- The number of a function. -/
def functionOf (name : Raw) : ReadStep Nat := do
  let s ← get
  match s.functions.findIdx? (·.name = name) with
  | some n => return n
  | none =>
    set { s with functions := s.functions.push ⟨name, #[], none⟩ }
    return s.functions.size

/-- Whether a name is that of a variable that is known. -/
def isVariable (name : Raw) : ReadStep Bool := do
  return (indexOf? (← ownNames) name).isSome || (indexOf? (← get).globals name).isSome

/-- Whether a name is that of a function that is known. -/
def isFunction (name : Raw) : ReadStep Bool := do
  return (← get).functions.any (·.name = name)

/-- The pattern that a text describes. -/
def patternOf (raw : Raw) : ReadStep Regex := do
  match Regex.read .script raw with
  | .ok regex => return regex
  | .error fault =>
    refuse ("regular expression compile failed (".toList ++ fault.scriptText.toList ++
      ")\n".toList ++ raw)

/-! ## Expressions -/

/-- An expression in a place where a pattern is wanted: a text is a pattern there. -/
def asPattern (e : Expression) : ReadStep Expression := do
  match e with
  | .text raw => return .pattern (← patternOf raw)
  | e => return e

/-- The operation of an assignment. -/
def assignment? : Token → Option (Option Arithmetic)
  | .mark "=" => some none
  | .mark "+=" => some (some .add)
  | .mark "-=" => some (some .subtract)
  | .mark "*=" => some (some .multiply)
  | .mark "/=" => some (some .divide)
  | .mark "%=" => some (some .remainder)
  | .mark "^=" => some (some .power)
  | _ => none

/-- The comparison of a mark. -/
def comparison? : Token → Option Comparison
  | .mark "<" => some .less
  | .mark "<=" => some .notGreater
  | .mark "==" => some .equal
  | .mark "!=" => some .unequal
  | .mark ">=" => some .notLess
  | .mark ">" => some .greater
  | _ => none

/-- The operation of a mark that binds weakly. -/
def sum? : Token → Option Arithmetic
  | .mark "+" => some .add
  | .mark "-" => some .subtract
  | _ => none

/-- The operation of a mark that binds strongly. -/
def product? : Token → Option Arithmetic
  | .mark "*" => some .multiply
  | .mark "/" => some .divide
  | .mark "%" => some .remainder
  | _ => none

/-- Whether a word can start a value that is put after another one. -/
def startsPart : Token → Bool
  | .number _ _ => true
  | .text _ => true
  | .pattern _ => true
  | .name _ _ => true
  | .builtIn _ => true
  | .keyword word => word == "length" || word == "getline"
  | .mark spelt => spelt == "(" || spelt == "!" || spelt == "$" || spelt == "++" || spelt == "--"
  | _ => false

/-- How strongly operators bind. -/
inductive Level where
  | or
  | and
  | isIn
  | isMatch
  | compare
  | join
  | sum
  | product

/-- Look at the number of arguments of a function that all scripts know. -/
def checkCount (name : String) (count : Nat) : ReadStep Unit := do
  match builtIns.lookup name with
  | some (least, most) =>
    if count < least ∨ most < count then
      note ("wrong number of arguments in call to ".toList ++ name.toList)
  | none => pure ()

/-- The name of a table. -/
def readTableName : ReadStep Slot := do
  match ← peek with
  | .name raw _ =>
    if isPlainVariable raw then refuseWord
    advance
    slotAs .table raw
  | _ => refuseWord

/-! ## Calls -/

/-- The arguments of a call, the last one first. -/
def argumentsOf (e : List Expression) : ReadStep (List Argument) := do
  let arguments ← e.zipIdx.mapM fun (e, position) => do
    match e with
    | .variable slot =>
      let kind ← kindOf slot
      return ⟨position, kind, if kind = .unknown then some slot else none⟩
    | _ => return ⟨position, .scalar, none⟩
  return arguments.reverse

/-- Whether a call does not have too many arguments. -/
def countArguments (call : OpenCall) : ReadStep Bool := do
  match (← get).functions[call.taker]? with
  | some entry =>
    if ((call.arguments.head?).map Argument.position).any (entry.parameters.size ≤ ·) then
      modify fun s => { s with line := call.line }
      note ("too many arguments in call to ".toList ++ entry.name)
      return false
    else return true
  | none => return true

/-- Find out what an argument is from the name and from the function, and what the
function takes from the argument; nothing is left of an argument that is known. -/
def settleArgument (call : OpenCall) (argument : Argument) : ReadStep (Option Argument) := do
  let taken ← kindIn (some call.taker) (.own argument.position)
  let kind ← match argument.slot with
    | some slot =>
      match ← kindIn call.giver slot with
      | .unknown =>
        if taken ≠ .unknown then setKindIn call.giver slot taken
        pure taken
      | known => pure known
    | none => pure argument.kind
  if kind = .unknown then return some argument
  if taken = .unknown then setKindIn (some call.taker) (.own argument.position) kind
  else if taken ≠ kind then
    let name := (((← get).functions[call.taker]?).map FunctionEntry.name).getD []
    modify fun s => { s with line := call.line }
    note ("type error in arg(".toList ++ Raw.ofNat (argument.position + 1) ++
      ") in call to ".toList ++ name)
  return none

/-- Find out what the arguments of a call are; those that stay unknown are left. -/
def settleCall (call : OpenCall) : ReadStep OpenCall := do
  let left ← call.arguments.filterMapM (settleArgument call)
  return { call with arguments := left.reverse }

/-- Look at a call of a function, or keep it if that is too early. -/
def noteCall (call : OpenCall) (isWritten : Bool) : ReadStep Unit := do
  let keep (call : OpenCall) : ReadStep Unit :=
    modify fun s => { s with calls := call :: s.calls }
  if ¬ isWritten then keep call
  else if ← countArguments call then
    let call ← settleCall { call with isCounted := true }
    if ¬ call.arguments.isEmpty then keep call

/-- Look at a call that has been kept, with all functions known: whether it is to be kept
further. -/
def reviewCall (call : OpenCall) : ReadStep Bool := do
  match (← get).functions[call.taker]? with
  | some ⟨name, _, none⟩ =>
    note ("function ".toList ++ name ++ " never defined".toList)
    return false
  | _ =>
    if call.arguments.isEmpty then return false
    if call.isCounted then return true else countArguments call

/-- The number of arguments of some calls. -/
def argumentCount (calls : List OpenCall) : Nat :=
  (calls.map (·.arguments.length)).foldl (· + ·) 0

/-- Go through calls as long as something becomes known. -/
def settleCalls : Nat → List OpenCall → ReadStep Unit
  | 0, _ => return ()
  | rounds + 1, calls => do
    let left ← calls.mapM settleCall
    let kept := (left.filter (!·.arguments.isEmpty)).reverse
    if argumentCount kept < argumentCount calls then settleCalls rounds kept

/-- Look at all calls that have been kept. -/
def reviewCalls : ReadStep Unit := do
  let calls ← (← get).calls.filterM reviewCall
  settleCalls (argumentCount calls + 1) calls

/-! ## Expressions with operators -/

mutual

/-- An expression. -/
def readExpression : Nat → ReadStep Expression
  | 0 => refuseWord
  | fuel + 1 => do
    let first ← readOperand fuel .or
    if ← passMark "?" then
      let yes ← readExpression fuel
      expect ":"
      let no ← readExpression fuel
      return .choose first yes no
    else return first

/-- An operand of some level, or an assignment in its place. -/
def readOperand : Nat → Level → ReadStep Expression
  | 0, _ => refuseWord
  | fuel + 1, level => do
    let target ← readLevel fuel level
    match assignment? (← peek) with
    | some operation =>
      if target.isTarget then
        advance
        let value ← readExpression fuel
        return .assign target operation value
      else return target
    | none => return target

/-- An expression of some level. -/
def readLevel : Nat → Level → ReadStep Expression
  | 0, _ => refuseWord
  | fuel + 1, level => do
    let first ← match level with
      | .or => readLevel fuel .and
      | .and => readLevel fuel .isIn
      | .isIn => readLevel fuel .isMatch
      | .isMatch => readLevel fuel .compare
      | .compare => readLevel fuel .join
      | .join => readLevel fuel .sum
      | .sum => readLevel fuel .product
      | .product => readUnary fuel
    readMore fuel level first

/-- What follows the first operand of a level. -/
def readMore : Nat → Level → Expression → ReadStep Expression
  | 0, _, _ => refuseWord
  | fuel + 1, level, first => do
    let token ← peek
    match level with
    | .or =>
      if token == .mark "||" then
        advance
        let second ← readOperand fuel .and
        readMore fuel level (.or first second)
      else return first
    | .and =>
      if token == .mark "&&" then
        advance
        let second ← readOperand fuel .isIn
        readMore fuel level (.and first second)
      else return first
    | .isIn =>
      if token == .keyword "in" then
        advance
        let table ← readTableName
        readMore fuel level (.isIn [first] table)
      else return first
    | .isMatch =>
      if token == .mark "~" ∨ token == .mark "!~" then
        advance
        let second ← readOperand fuel .compare
        readMore fuel level (.isMatch (token == .mark "!~") first (← asPattern second))
      else return first
    | .compare =>
      match comparison? token with
      | some c =>
        advance
        let second ← readOperand fuel .join
        readMore fuel level (.compare c first second)
      | none => return first
    | .join =>
      if startsPart token then
        let second ← readLevel fuel .sum
        readMore fuel level (.join first second)
      else return first
    | .sum =>
      match sum? token with
      | some operation =>
        advance
        let second ← readLevel fuel .product
        readMore fuel level (.arithmetic operation first second)
      | none => return first
    | .product =>
      match product? token with
      | some operation =>
        advance
        let second ← readUnary fuel
        readMore fuel level (.arithmetic operation first second)
      | none => return first

/-- An expression with signs in front of it. -/
def readUnary : Nat → ReadStep Expression
  | 0 => refuseWord
  | fuel + 1 => do
    match ← peek with
    | .mark "!" =>
      advance
      return .not (← readUnary fuel)
    | .mark "-" =>
      advance
      return .negative (← readUnary fuel)
    | .mark "+" =>
      advance
      return .positive (← readUnary fuel)
    | _ => readPiped fuel (← readPower fuel)

/-- What reads the output of the command that has been read. -/
def readPiped : Nat → Expression → ReadStep Expression
  | 0, _ => refuseWord
  | fuel + 1, command => do
    if ← passMark "|" then
      if (← peek) == .keyword "getline" then
        advance
        let target ← readTarget? fuel
        readPiped fuel (.getLine .command (some command) target)
      else refuseWord
    else return command

/-- An expression with an exponent. -/
def readPower : Nat → ReadStep Expression
  | 0 => refuseWord
  | fuel + 1 => do
    let base ← readPostfix fuel
    if ← passMark "^" then return .arithmetic .power base (← readUnary fuel) else return base

/-- An expression that may be counted up or down after its use. -/
def readPostfix : Nat → ReadStep Expression
  | 0 => refuseWord
  | fuel + 1 => do
    let e ← readPrimary fuel
    if e.isTarget then
      if ← passMark "++" then return .count e true false
      else if ← passMark "--" then return .count e false false
      else return e
    else return e

/-- What something can be assigned to, if it follows. -/
def readTarget? : Nat → ReadStep (Option Expression)
  | 0 => refuseWord
  | fuel + 1 => do
    match ← peek with
    | .mark "$" => return some (← readPrimary fuel)
    | .name raw _ => if ← isFunction raw then return none else return some (← readPrimary fuel)
    | _ => return none

/-- What something has to be assigned to. -/
def readTarget : Nat → ReadStep Expression
  | 0 => refuseWord
  | fuel + 1 => do
    if ← passMark "(" then
      if (← peek) != .mark "$" ∧ (← peek) != .mark "(" then refuseWord
      let e ← readTarget fuel
      expect ")"
      return e
    match ← peek with
    | .name raw isCalled =>
      if (← isFunction raw) ∨ (isCalled ∧ ¬ (← isVariable raw)) then refuseWord
    | .mark "$" => pure ()
    | _ => refuseWord
    let e ← readPrimary fuel
    if e.isTarget then return e else refuseWord

/-- Expressions between commas. -/
def readList : Nat → ReadStep (List Expression)
  | 0 => refuseWord
  | fuel + 1 => do
    let e ← readExpression fuel
    if ← passMark "," then return e :: (← readList fuel) else return [e]

/-- Arguments in parentheses. -/
def readArguments : Nat → ReadStep (List Expression)
  | 0 => refuseWord
  | fuel + 1 => do
    expect "("
    if ← passMark ")" then return []
    let arguments ← readList fuel
    expect ")"
    return arguments

/-- The rest of a call of a function that all scripts know. -/
def readBuiltIn : Nat → String → ReadStep Expression
  | 0, _ => refuseWord
  | fuel + 1, name => do
    match name with
    | "split" =>
      expect "("
      let text ← readExpression fuel
      if (← peek) == .mark ")" then checkCount name 1
      expect ","
      let table ← readTableName
      let separator ← if ← passMark "," then
          match ← readExpression fuel with
          | .text (a :: b :: rest) => pure (some (← asPattern (.text (a :: b :: rest))))
          | e => pure (some e)
        else pure none
      expect ")"
      return .split text table separator
    | "length" =>
      expect "("
      match ← peek with
      | .mark ")" =>
        advance
        return .builtIn name [.field (.number 0)]
      | .name raw isCalled =>
        let s ← get
        if isCalled ∨ (← isFunction raw) then return ← readMeasured fuel
        advance
        if ← passMark ")" then return .measure (← slotOf raw)
        set s
        readMeasured fuel
      | _ => readMeasured fuel
    | _ =>
      let arguments ← readArguments fuel
      checkCount name arguments.length
      if name == "sub" || name == "gsub" then
        match arguments with
        | [pattern, replacement] =>
          return .replace (name == "gsub") (← asPattern pattern) replacement (.field (.number 0))
        | [pattern, replacement, target] =>
          return .replace (name == "gsub") (← asPattern pattern) replacement target
        | _ => return .builtIn name arguments
      else if name == "match" then
        match arguments with
        | [text, pattern] => return .builtIn name [text, ← asPattern pattern]
        | _ => return .builtIn name arguments
      else return .builtIn name arguments

/-- The rest of a call of the function for the length of a text. -/
def readMeasured : Nat → ReadStep Expression
  | 0 => refuseWord
  | fuel + 1 => do
    let arguments ← readList fuel
    expect ")"
    checkCount "length" arguments.length
    return .builtIn "length" arguments

/-- A use of a name. -/
def readName : Nat → Raw → Bool → ReadStep Expression
  | 0, _, _ => refuseWord
  | fuel + 1, raw, isCalled => do
    if (← isFunction raw) ∨ (isCalled ∧ ¬ (← isVariable raw)) then
      let function ← functionOf raw
      let arguments ← readArguments fuel
      let isWritten := ((← get).functions[function]?).any (·.body.isSome)
      let s ← get
      noteCall ⟨s.current, function, s.line, false, ← argumentsOf arguments⟩ isWritten
      return .call function arguments
    else if (← peek) == .mark "[" then
      if isPlainVariable raw then refuseWord
      advance
      let indexes ← readList fuel
      expect "]"
      return .element (← slotAs .table raw) indexes
    else
      let next ← peek
      let slot ← slotOf raw
      if next == .mark "," ∨ next == .mark ")" then return .variable slot
      else return .variable (← slotAs .scalar raw)

/-- An expression without operators. -/
def readPrimary : Nat → ReadStep Expression
  | 0 => refuseWord
  | fuel + 1 => do
    match ← peek with
    | .number x _ =>
      advance
      return .number x
    | .text raw =>
      advance
      return .text raw
    | .pattern raw =>
      let regex ← patternOf raw
      advance
      return .pattern regex
    | .name raw isCalled =>
      advance
      readName fuel raw isCalled
    | .builtIn name =>
      advance
      readBuiltIn fuel name
    | .keyword "length" =>
      advance
      return .builtIn "length" [.field (.number 0)]
    | .keyword "getline" =>
      advance
      let target ← readTarget? fuel
      if ← passMark "<" then return .getLine .file (some (← readPower fuel)) target
      else return .getLine .input none target
    | .mark "$" =>
      advance
      match ← peek with
      | .mark "-" =>
        advance
        return .field (.negative (← readPrimary fuel))
      | _ => return .field (← readPrimary fuel)
    | .mark "++" =>
      advance
      return .count (← readTarget fuel) true true
    | .mark "--" =>
      advance
      return .count (← readTarget fuel) false true
    | .mark "(" =>
      advance
      let items ← readList fuel
      expect ")"
      match items with
      | [.field index] => return .field index
      | [e] => return if e.isTarget then .group e else e
      | items =>
        if (← peek) == .keyword "in" then
          advance
          return .isIn items (← readTableName)
        else refuseWord
    | _ => refuseWord

end

/-! ## Statements -/

/-- Expressions that are printed.  Several in parentheses are no single one. -/
def readItems (fuel : Nat) : ReadStep (List Expression) := do
  let isOver : ReadStep Bool := do
    let token ← peek
    let isOutlet : Bool := match token with
      | .outlet _ => true
      | _ => false
    return token.endsStatement || isOutlet
  if ← isOver then return []
  let s ← get
  if ← passMark "(" then
    let group : Option (List Expression × Reading) :=
      match ((do
        let items ← if (← peek) == .mark ")" then pure [] else readList fuel
        expect ")"
        return (items, ← isOver) : ReadStep (List Expression × Bool))).run (← get) with
      | .ok ((items, true), t) => some (items, t)
      | _ => none
    match group with
    | some (items, t) =>
      set t
      return items
    | none =>
      set s
      readList fuel
  else readList fuel

/-- Where a statement prints to. -/
def readOutlet (fuel : Nat) : ReadStep (Option (Outlet × Expression)) := do
  match ← peek with
  | .outlet spelt =>
    advance
    let name ← readExpression fuel
    let outlet : Outlet := if spelt == ">" then .file else if spelt == ">>" then .fileEnd
      else .command
    return some (outlet, name)
  | _ => return none

/-- An expression in parentheses. -/
def readCondition (fuel : Nat) : ReadStep Expression := do
  expect "("
  let e ← readExpression fuel
  expect ")"
  return e

/-- An expression that ends a statement, if there is one. -/
def readLast? (fuel : Nat) : ReadStep (Option Expression) := do
  if (← peek).endsStatement then return none else return some (← readExpression fuel)

/-- A statement inside a loop. -/
def inLoop {α : Type} (body : ReadStep α) : ReadStep α := do
  modify fun s => { s with loops := s.loops + 1 }
  let result ← body
  modify fun s => { s with loops := s.loops - 1 }
  return result

/-- The head of a loop over a table, if it is one. -/
def readTableLoop? : ReadStep (Option (Expression × Slot)) := do
  match (← get).words with
  | ⟨.mark "(", _⟩ :: ⟨.name target _, _⟩ :: ⟨.keyword "in", _⟩ :: ⟨.name table _, _⟩ ::
      ⟨.mark ")", _⟩ :: _ =>
    if isPlainVariable target ∨ isPlainVariable table then return none
    for _ in List.range 5 do advance
    let slot ← slotAs .scalar target
    return some (.variable slot, ← slotAs .table table)
  | _ => return none

mutual

/-- A statement. -/
def readStatement : Nat → ReadStep Statement
  | 0 => refuseWord
  | fuel + 1 => do
    match ← peek with
    | .mark "\x7b" =>
      advance
      readBlock fuel []
    | .mark ";" =>
      advance
      return .nothing
    | .newline =>
      advance
      return .nothing
    | .supplied =>
      advance
      return .nothing
    | .keyword word => readWorded fuel word
    | _ =>
      let e ← readExpression fuel
      passEnd
      return .evaluate e

/-- The rest of a block; the statements so far are given in reverse. -/
def readBlock : Nat → List Statement → ReadStep Statement
  | 0, _ => refuseWord
  | fuel + 1, statements => do
    if ← passMark "\x7d" then return .block statements.reverse
    let statement ← readStatement fuel
    readBlock fuel (statement :: statements)

/-- A statement that starts with a word of its own. -/
def readWorded : Nat → String → ReadStep Statement
  | 0, _ => refuseWord
  | fuel + 1, word => do
    match word with
    | "if" =>
      advance
      let condition ← readCondition fuel
      passLines
      let yes ← readStatement fuel
      if (← peek) == .keyword "else" then
        advance
        passLines
        return .choice condition yes (← readStatement fuel)
      else return .choice condition yes .nothing
    | "while" =>
      advance
      let condition ← readCondition fuel
      passLines
      return .loop .nothing (some condition) .nothing (← inLoop (readStatement fuel)) false
    | "do" =>
      advance
      passLines
      let body ← inLoop (readStatement fuel)
      if (← peek) != .keyword "while" then refuseWord
      advance
      let condition ← readCondition fuel
      passEnd
      return .loop .nothing (some condition) .nothing body true
    | "for" =>
      advance
      readFor fuel
    | "print" =>
      advance
      let items ← readItems fuel
      let outlet ← readOutlet fuel
      passEnd
      return .print items outlet
    | "printf" =>
      advance
      let items ← readItems fuel
      let outlet ← readOutlet fuel
      passEnd
      if items.isEmpty then note "no arguments in call to printf".toList
      return .printf items outlet
    | "delete" =>
      advance
      let table ← readTableName
      if ← passMark "[" then
        let indexes ← readList fuel
        expect "]"
        passEnd
        return .delete table indexes
      else
        passEnd
        return .clear table
    | "next" =>
      if ¬ (← get).isForRecords then note "improper use of next".toList
      advance
      passEnd
      return .nextRecord
    | "nextfile" =>
      if ¬ (← get).isForRecords then note "improper use of nextfile".toList
      advance
      passEnd
      return .nextFile
    | "exit" =>
      advance
      let status ← readLast? fuel
      passEnd
      return .exit status
    | "return" =>
      if (← get).current.isNone then note "return outside function body".toList
      advance
      let value ← readLast? fuel
      passEnd
      return .giveBack value
    | "break" =>
      if (← get).loops = 0 then note "break statement outside of loop".toList
      advance
      passEnd
      return .leaveLoop
    | "continue" =>
      if (← get).loops = 0 then note "continue statement outside of loop".toList
      advance
      passEnd
      return .nextRound
    | _ =>
      let e ← readExpression fuel
      passEnd
      return .evaluate e

/-- A loop after its first word. -/
def readFor : Nat → ReadStep Statement
  | 0 => refuseWord
  | fuel + 1 => do
    match ← readTableLoop? with
    | some (target, table) =>
      passLines
      return .forEach target table (← inLoop (readStatement fuel))
    | none =>
      expect "("
      let part (mark : String) : ReadStep Statement := do
        if ← passMark mark then return .nothing
        let e ← readExpression fuel
        expect mark
        return .evaluate e
      let first ← part ";"
      let condition ← if ← passMark ";" then pure none
        else
          let e ← readExpression fuel
          expect ";"
          pure (some e)
      let step ← part ")"
      passLines
      return .loop first condition step (← inLoop (readStatement fuel)) false

end

/-! ## Rules and functions -/

/-- The parameters of a function up to the parenthesis. -/
def readParameters : Nat → Array (Raw × NameKind) → ReadStep (Array (Raw × NameKind))
  | 0, _ => refuseWord
  | fuel + 1, parameters => do
    match ← peek with
    | .name raw _ =>
      if isPlainVariable raw then refuseWord
      advance
      if (indexOf? parameters raw).isSome then
        note (raw ++ " is duplicated in argument list".toList)
      let parameters := parameters.push (raw, .unknown)
      if ← passMark "," then readParameters fuel parameters
      else
        expect ")"
        return parameters
    | _ => refuseWord

/-- A function after its first word. -/
def readFunction (fuel : Nat) : ReadStep Unit := do
  match ← peek with
  | .name raw _ =>
    if isPlainVariable raw then refuseWord
    advance
    let n ← functionOf raw
    if ((← get).functions[n]?).any (·.body.isSome) then note ("redefinition of ".toList ++ raw)
    expect "("
    let parameters ← if ← passMark ")" then pure #[] else readParameters fuel #[]
    passLines
    modify fun s => { s with
      current := some n
      isForRecords := false
      functions := s.functions.modify n fun e => { e with parameters } }
    expect "\x7b"
    let body ← readBlock fuel []
    modify fun s => { s with
      current := none
      functions := s.functions.modify n fun e => { e with body := some body } }
  | _ => refuseWord

/-- A block. -/
def readBody (fuel : Nat) : ReadStep Statement := do
  expect "\x7b"
  readBlock fuel []

/-- Rules and functions up to the end. -/
def readRules : Nat → Program → ReadStep Program
  | 0, program => return program
  | fuel + 1, program => do
    match ← peek with
    | .finish => return program
    | .keyword "BEGIN" =>
      modify fun s => { s with isForRecords := false }
      advance
      let body ← readBody fuel
      readRules fuel { program with starts := program.starts ++ [body] }
    | .keyword "END" =>
      modify fun s => { s with isForRecords := false }
      advance
      let body ← readBody fuel
      readRules fuel { program with finishes := program.finishes ++ [body] }
    | .keyword "function" =>
      advance
      readFunction fuel
      readRules fuel program
    | .keyword "func" =>
      advance
      readFunction fuel
      readRules fuel program
    | token =>
      modify fun s => { s with isForRecords := true }
      let pattern : RulePattern ← if token == .mark "\x7b" then pure .always
        else
          let first ← readExpression fuel
          if ← passMark "," then
            let last ← readExpression fuel
            let n := (← get).ranges
            modify fun s => { s with ranges := n + 1 }
            pure (.range n first last)
          else pure (.when first)
      let body ← if (← peek) == .mark "\x7b" then readBody fuel
        else
          let token ← peek
          if token == .newline ∨ token == .mark ";" then advance else refuseWord
          pure (.print [] none)
      readRules fuel { program with rules := program.rules ++ [(pattern, body)] }

/-! ## Scripts -/

/-- The variables that all scripts know, with what they stand for. -/
def knownNames : Array (Raw × NameKind) :=
  (knownVariables.map fun name =>
    (name.toList, if name == "ARGV" || name == "ENVIRON" then .table else .scalar)).toArray

/-- The script that a text describes, or what is wrong with it. -/
def read (raw : Raw) : Except BadScript Program := do
  let words := tokens raw
  let start : Reading :=
    { words
      line := 1
      parentheses := 0
      braces := 0
      complaints := []
      globals := knownNames
      functions := #[]
      current := none
      calls := []
      loops := 0
      ranges := 0
      isForRecords := true }
  let fuel := 40 * words.length + 100
  let (program, s) ← (readRules fuel ⟨[], [], [], #[], #[]⟩).run start
  if ¬ s.complaints.isEmpty then throw ⟨s.complaints.reverse⟩
  let ((), s) ← reviewCalls.run s
  if ¬ s.complaints.isEmpty then throw ⟨s.complaints.reverse⟩
  let functions := s.functions.map fun f =>
    { name := f.name
      parameters := f.parameters.toList.map fun p => p.2 == .table
      body := f.body.getD .nothing : Function }
  return { program with
    functions
    globals := s.globals.map fun p => (p.1, p.2 == .table) }

end Script
end MakeTen
