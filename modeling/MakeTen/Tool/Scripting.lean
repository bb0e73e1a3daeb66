import MakeTen.Number.FloatSum
import MakeTen.Script.Reader
import MakeTen.Tool.ScriptDesk
import MakeTen.Tool.Surroundings
/-!
# Running scripts

The program that runs scripts over records.  Expressions are worked out and
statements are carried out in a straightforward way; a function is called with
variables of its own, and tables are handed to it as they are.

Main definitions:

- Functions `Tool.evaluate` and `Tool.carryOut`: expressions and statements.
- Function `Tool.awk`: the program.
-/

namespace MakeTen
namespace Tool

open Script

/-! ## Operations -/

/-- An operation on two numbers. -/
def arithmetic (operation : Arithmetic) (x y : Float) : Float :=
  match operation with
  | .add => x + y
  | .subtract => x - y
  | .multiply => x * y
  | .divide => x / y
  | .power => Float.pow x y
  | .remainder =>
    match Floating.ofFloat x, Floating.ofFloat y with
    | .finite s m e, .finite _ n f =>
      if n = 0 then 0.0 / 0.0
      else
        let low := min e f
        let rest := (m <<< (e - low).toNat) % (n <<< (f - low).toNat)
        if rest = 0 then (if s then -0.0 else 0.0)
        else (FloatFormat.double.ofScaled (Floating.signed s rest) low).toFloat
    | .finite _ _ _, .infinite _ => x
    | _, _ => 0.0 / 0.0

/-- Whether an order is as a comparison asks. -/
def fits (c : Comparison) (o : Ordering) : Bool :=
  match c with
  | .less => o == .lt
  | .notGreater => o != .gt
  | .equal => o == .eq
  | .unequal => o != .eq
  | .notLess => o != .lt
  | .greater => o == .gt

/-- A part of a text from a position on, counted from one, with at most so many
characters. -/
def partAt (raw : Raw) (position : Int) (size : Option Int) : Raw :=
  let size : Option Int := if position < 1 then size.map (· - position) else size
  let tail := raw.drop (position - 1).toNat
  match size with
  | some n => tail.take n.toNat
  | none => tail

/-- The number of operands and variables that may wait for a result. -/
def waitingLimit : Nat := 1006

/-- A random number between zero and one. -/
def takeRandom : ScriptStep Cell := do
  let (n, state) := Feedback.next (← get).random
  modify fun d => { d with random := state }
  return .number (Float.ofNat n.toNat / 2147483647)

/-- Start random numbers again; the answer is the seed of before. -/
def seedRandom (seed : Option Cell) : ScriptStep Cell := do
  let d ← get
  let clock := (← (get : Job Desk)).call.clock
  let seed := ((seed.map Cell.toNumber).map Cell.number).getD (ofNat (clock / 1000000000))
  set { d with seed, random := Feedback.ofSeed (UInt32.ofInt (wholePart seed.toNumber)) }
  return d.seed

/-- The time of a number of seconds in a format. -/
def timeIn (format : Raw) (seconds : Int) : Raw :=
  formatTime (.ofSeconds seconds 0) (format.length + 1) format

/-- The seconds from the start of 1970 to a time that is given by its year, month, day, hour,
minute and second; each may go beyond its bounds.  An hour less is counted if it says that
it is summer. -/
def secondsOf? (numbers : List Int) : Option Int :=
  match numbers with
  | year :: month :: day :: hour :: minute :: second :: isSummer =>
    let months := year * 12 + month - 1
    let first := daysFrom (months.fdiv 12) ((months.fmod 12).toNat + 1) 1
    let clock := hour * 3600 + minute * 60 + second
    let summer : Int := if 0 < isSummer.headD 0 then 3600 else 0
    some ((first + day - 1) * 86400 + clock - summer)
  | _ => none

/-- What a format comes to, or a complaint about it. -/
def formatStep (name : String) (cells : List Cell) : ScriptStep (Raw × Option Raw) := do
  match cells with
  | [] => return ([], none)
  | template :: arguments =>
    let template ← textOf template
    let (raw, fault) := Script.format (← textStyle) template arguments
    let place := name.toList ++ "(\"".toList ++ template ++ "\")".toList
    return (raw, fault.map fun
      | .tooFewArguments => "not enough arguments passed to ".toList ++ place
      | .badConversion n =>
        "improper conversion(number ".toList ++ Raw.ofNat n ++ ") in ".toList ++ place)

/-- A function that all scripts know, with the values of its arguments. -/
def applyBuiltIn (name : String) (cells : List Cell) : ScriptStep Cell := do
  let first := cells.headD .missing
  let second := (cells.drop 1).headD .missing
  let real (f : Float → Float) : ScriptStep Cell := return ofResult (f first.toNumber) [first]
  match name with
  | "length" => return ofNat (← textOf first).length
  | "index" =>
    let (raw, part) := (← textOf first, ← textOf second)
    if part.isEmpty then return ofNat 1
    return ofNat (((Raw.find? part raw).map (· + 1)).getD 0)
  | "substr" =>
    let raw ← textOf first
    let size := (cells[2]?).map fun c => wholePart c.toNumber
    return .text (partAt raw (wholePart second.toNumber) size)
  | "sprintf" =>
    match ← formatStep name cells with
    | (_, some complaint) => failStep complaint
    | (raw, none) => return .text raw
  | "sin" => real Float.sin
  | "cos" => real Float.cos
  | "exp" => real Float.exp
  | "log" => real Float.log
  | "sqrt" => real Float.sqrt
  | "int" => real fun x => if x < 0 then x.ceil else x.floor
  | "atan2" => return .number (Float.atan2 first.toNumber second.toNumber)
  | "rand" => takeRandom
  | "srand" => seedRandom cells.head?
  | "toupper" => return .text ((← textOf first).map Char.toUpper)
  | "tolower" => return .text ((← textOf first).map Char.toLower)
  | "systime" => return ofNat ((← (get : Job Desk)).call.clock / 1000000000)
  | "strftime" =>
    let clock := (← (get : Job Desk)).call.clock
    let format ← if cells.isEmpty then pure "%c".toList else textOf first
    let seconds : Int := if cells.length < 2 then ((clock / 1000000000 : Nat) : Int)
      else second.toNumber.toInt64.toInt
    return .text (timeIn format seconds)
  | "mktime" =>
    let numbers := (Raw.words (← textOf first)).map Raw.toInt?
    return .number (Float.ofInt
      ((secondsOf? ((numbers.takeWhile Option.isSome).filterMap id)).getD (-1)))
  | "close" =>
    match ← closeNamed (← textOf first) with
    | some status => return ofNat status
    | none => return .number (-1)
  | "fflush" =>
    flushAll
    return ofNat 0
  | "system" =>
    flushAll
    return ofNat (statusValue (← runCommand (← textOf first) .shared false false))
  | _ => return .missing

/-! ## Expressions and statements -/

/-- What something is assigned to. -/
inductive Place where
  | variable (slot : Slot)
  | element (table : Nat) (key : Key)
  | field (n : Nat)

/-- The value at a place. -/
def Place.load : Place → ScriptStep Cell
  | .variable slot => variableOf slot
  | .element id key => withTable id fun t => t.find key
  | .field n => fieldOf n

/-- Put a value at a place. -/
def Place.save (c : Cell) : Place → ScriptStep Unit
  | .variable slot => setVariable slot c
  | .element id key => changeTable id fun t => t.insert key c
  | .field n => setField n c

/-- What follows a statement. -/
inductive ScriptFlow where
  | on
  | leaveLoop
  | nextRound
  | giveBack (c : Cell)

/-- The key of several values. -/
def keyOfAll (cells : List Cell) : ScriptStep Key := do
  match cells with
  | [c] => keyOf c
  | cells => return .text (← joinCells (← textOf (← known "SUBSEP")) cells)

/-- The size of a table, or the length of a text. -/
def measureOf (slot : Slot) : ScriptStep Cell := do
  let d ← get
  let id : Option Nat := match slot with
    | .shared n => if (d.program.globals[n]?).any Prod.snd then some n else none
    | .own n => match d.own[n]? with
      | some (.table id) => some id
      | _ => none
  match id with
  | some id => return ofNat (((d.tables[id]?).map fun t => t.cells.size).getD 0)
  | none => return ofNat (← textOf (← variableOf slot)).length

/-- A text with the first match or all matches replaced, and how many there are. -/
def replaceIn (isGlobal : Bool) (regex : Regex) (template raw : Raw) : Nat × Raw :=
  let subject := subjectOf raw
  let found := if isGlobal then Regex.findAll subject regex
    else (Regex.find? subject regex 0).toList
  (found.length, if found.isEmpty then raw else replaceAll template found 0 raw)

/-- Give up because a function calls itself too often. -/
def failDepth {α : Type} : ScriptStep α :=
  failRun "program limit exceeded: eval stack size=1024".toList

mutual

/-- The value of an expression; so many operands wait for it. -/
def evaluate : Nat → Nat → Expression → ScriptStep Cell
  | 0, _, _ => failDepth
  | fuel + 1, waiting, e => do
    match e with
    | .number x => return .number x
    | .text raw => return .text raw
    | .pattern regex => return ofBool (Regex.isIn (subjectOf (← recordText)) regex)
    | .variable slot => variableOf slot
    | .element _ _ => (← placeOf fuel waiting e).load
    | .field _ => (← placeOf fuel waiting e).load
    | .group e => evaluate fuel waiting e
    | .assign target operation value =>
      let place ← placeOf fuel waiting target
      let c ← evaluate fuel (waiting + 1) value
      let c ← match operation with
        | none => pure c
        | some o =>
          let old ← place.load
          pure (ofResult (arithmetic o old.toNumber c.toNumber) [old, c])
      place.save c
      return c
    | .count target isUp isAfter =>
      let place ← placeOf fuel waiting target
      let x := (← place.load).toNumber
      let y := if isUp then x + 1 else x - 1
      place.save (.number y)
      return .number (if isAfter then y else x)
    | .arithmetic operation first second =>
      let x ← evaluate fuel waiting first
      let y ← evaluate fuel (waiting + 1) second
      return ofResult (arithmetic operation x.toNumber y.toNumber) [x, y]
    | .negative e =>
      let c ← evaluate fuel waiting e
      let x := c.toNumber
      return if x.isNaN ∧ ¬ c.isPlain then .plainNaN else .number (-x)
    | .positive e =>
      let c ← evaluate fuel waiting e
      return ofResult c.toNumber [c]
    | .not e => return ofBool !(← evaluate fuel waiting e).isTrue
    | .compare c first second =>
      let a ← evaluate fuel waiting first
      let b ← evaluate fuel (waiting + 1) second
      return ofBool (fits c (a.order (← textStyle) b))
    | .join first second =>
      let a ← textOf (← evaluate fuel waiting first)
      let b ← textOf (← evaluate fuel (waiting + 1) second)
      return .text (a ++ b)
    | .isMatch isNegated text pattern =>
      let raw ← textOf (← evaluate fuel waiting text)
      let regex ← patternFrom fuel (waiting + 1) pattern
      return ofBool (Regex.isIn (subjectOf raw) regex != isNegated)
    | .and first second =>
      if (← evaluate fuel waiting first).isTrue then
        return ofBool (← evaluate fuel waiting second).isTrue
      else return ofBool false
    | .or first second =>
      if (← evaluate fuel waiting first).isTrue then return ofBool true
      else return ofBool (← evaluate fuel waiting second).isTrue
    | .choose condition yes no =>
      if (← evaluate fuel waiting condition).isTrue then evaluate fuel waiting yes
      else evaluate fuel waiting no
    | .isIn indexes table =>
      let key ← keyOfAll (← evaluateAll fuel waiting indexes)
      let isThere ← withTable (← tableOf table) fun t => t.look key
      return ofBool isThere
    | .measure slot => measureOf slot
    | .builtIn "match" [text, pattern] =>
      let raw ← textOf (← evaluate fuel waiting text)
      let regex ← patternFrom fuel (waiting + 1) pattern
      let (first, size) : Float × Float := match Regex.find? (subjectOf raw) regex 0 with
        | some m => (Float.ofNat (m.first + 1), Float.ofNat (m.last - m.first))
        | none => (0, -1)
      setKnown "RSTART" (.number first)
      setKnown "RLENGTH" (.number size)
      return .number first
    | .builtIn name arguments => applyBuiltIn name (← evaluateAll fuel waiting arguments)
    | .split text table separator =>
      let raw ← textOf (← evaluate fuel waiting text)
      let separator ← match separator with
        | some (.pattern regex) => pure (Separator.pattern regex)
        | some e => separatorOf (← textOf (← evaluate fuel (waiting + 1) e))
        | none => separatorOf (← textOf (← known "FS"))
      let parts := separator.cut raw
      changeTable (← tableOf table) fun _ => Table.ofList (parts.map .given)
      return ofNat parts.length
    | .replace isGlobal pattern replacement target =>
      let regex ← patternFrom fuel waiting pattern
      let template ← textOf (← evaluate fuel (waiting + 1) replacement)
      if target.isTarget then
        let place ← placeOf fuel (waiting + 2) target
        let (n, raw) := replaceIn isGlobal regex template (← textOf (← place.load))
        if n ≠ 0 then place.save (.text raw)
        return ofNat n
      else
        let raw ← textOf (← evaluate fuel (waiting + 2) target)
        return ofNat (replaceIn isGlobal regex template raw).1
    | .call function arguments => callFunction fuel waiting function arguments
    | .getLine origin name target =>
      let place ← match target with
        | some e => pure (some (← placeOf fuel waiting e))
        | none => pure none
      let (n, raw) ← match name with
        | some e => takeFrom origin (← textOf (← evaluate fuel waiting e))
        | none =>
          match ← takeInput with
          | some raw => pure (1, raw)
          | none => pure (0, [])
      if 0 < n then
        match place with
        | some place => place.save (.given raw)
        | none => setRecord raw
      return .number (Float.ofInt n)

/-- The values of expressions one after the other. -/
def evaluateAll : Nat → Nat → List Expression → ScriptStep (List Cell)
  | 0, _, _ => failDepth
  | _ + 1, _, [] => return []
  | fuel + 1, waiting, e :: rest => do
    let c ← evaluate fuel waiting e
    return c :: (← evaluateAll fuel (waiting + 1) rest)

/-- The pattern that an expression stands for. -/
def patternFrom : Nat → Nat → Expression → ScriptStep Regex
  | 0, _, _ => failDepth
  | fuel + 1, waiting, e => do
    match e with
    | .pattern regex => return regex
    | e => regexOf (← textOf (← evaluate fuel waiting e))

/-- The place that an expression stands for. -/
def placeOf : Nat → Nat → Expression → ScriptStep Place
  | 0, _, _ => failDepth
  | fuel + 1, waiting, e => do
    match e with
    | .variable slot => return .variable slot
    | .element table indexes =>
      let key ← keyOfAll (← evaluateAll fuel waiting indexes)
      return .element (← tableOf table) key
    | .field index => return .field (← fieldNumber (← evaluate fuel waiting index))
    | _ => failDepth

/-- What a function gives back. -/
def callFunction : Nat → Nat → Nat → List Expression → ScriptStep Cell
  | 0, _, _, _ => failDepth
  | fuel + 1, waiting, function, arguments => do
    match (← get).program.functions[function]? with
    | none => return .missing
    | some f =>
      let own ← bindAll fuel waiting f.parameters arguments
      let waiting := waiting + f.parameters.length
      if waitingLimit < waiting then failDepth
      let d ← get
      let size := d.tables.size
      set { d with own := own.toArray }
      let flow ← carryOut fuel waiting f.body
      modify fun t => { t with own := d.own, tables := t.tables.extract 0 size }
      match flow with
      | .giveBack c => return c
      | _ => return .missing

/-- What the parameters of a function stand for; parameters without an argument are
variables of the function. -/
def bindAll : Nat → Nat → List Bool → List Expression → ScriptStep (List Binding)
  | 0, _, _, _ => failDepth
  | _ + 1, _, [], _ => return []
  | fuel + 1, waiting, isTable :: parameters, arguments => do
    let binding : Binding ← match arguments.head?, isTable with
      | some (.variable slot), true => pure (.table (← tableOf slot))
      | none, true =>
        let id := (← get).tables.size
        modify fun d => { d with tables := d.tables.push .empty }
        pure (.table id)
      | some e, _ => pure (.cell (← evaluate fuel waiting e))
      | none, false => pure (.cell .missing)
    return binding :: (← bindAll fuel (waiting + 1) parameters (arguments.drop 1))

/-- Carry out a statement. -/
def carryOut : Nat → Nat → Statement → ScriptStep ScriptFlow
  | 0, _, _ => failDepth
  | fuel + 1, waiting, statement => do
    match statement with
    | .nothing => return .on
    | .evaluate e =>
      let _ ← evaluate fuel waiting e
      return .on
    | .print items outlet =>
      let raw ← match items with
        | [] => recordText
        | items =>
          let cells ← evaluateAll fuel waiting items
          let style ← textOf (← known "OFMT")
          pure (Raw.join (← textOf (← known "OFS")) (cells.map (Cell.toText style)))
      let raw := raw ++ (← textOf (← known "ORS"))
      writeOut (← outletOf fuel waiting outlet) raw
      return .on
    | .printf items outlet =>
      let (raw, complaint) ← formatStep "printf" (← evaluateAll fuel waiting items)
      writeOut (← outletOf fuel waiting outlet) raw
      match complaint with
      | some text => failStep text
      | none => return .on
    | .block statements => carryOutAll fuel waiting statements
    | .choice condition yes no =>
      if (← evaluate fuel waiting condition).isTrue then carryOut fuel waiting yes
      else carryOut fuel waiting no
    | .loop first condition step body isAfter =>
      let _ ← carryOut fuel waiting first
      if isAfter then
        match ← carryOut fuel waiting body with
        | .leaveLoop => return .on
        | .giveBack c => return .giveBack c
        | _ => carryOutLoop fuel waiting condition step body
      else carryOutLoop fuel waiting condition step body
    | .forEach target table body =>
      let keys ← withTable (← tableOf table) fun t => t.keys
      let place ← placeOf fuel waiting target
      carryOutEach fuel waiting place keys body
    | .delete table indexes =>
      let key ← keyOfAll (← evaluateAll fuel waiting indexes)
      changeTable (← tableOf table) fun t => t.erase key
      return .on
    | .clear table =>
      changeTable (← tableOf table) fun _ => .empty
      return .on
    | .nextRecord => throw .nextRecord
    | .nextFile => throw .nextFile
    | .exit status =>
      match status with
      | some e =>
        let n := wholePart (← evaluate fuel waiting e).toNumber
        modify fun d => { d with status := (n % 256).toNat }
      | none => pure ()
      throw .exit
    | .giveBack value =>
      match value with
      | some e => return .giveBack (← evaluate fuel waiting e)
      | none => return .giveBack .missing
    | .leaveLoop => return .leaveLoop
    | .nextRound => return .nextRound

/-- Where a statement writes to. -/
def outletOf : Nat → Nat → Option (Outlet × Expression) → ScriptStep (Option (Outlet × Raw))
  | 0, _, _ => failDepth
  | _ + 1, _, none => return none
  | fuel + 1, waiting, some (outlet, e) => do
    return some (outlet, ← textOf (← evaluate fuel waiting e))

/-- Carry out statements one after the other. -/
def carryOutAll : Nat → Nat → List Statement → ScriptStep ScriptFlow
  | 0, _, _ => failDepth
  | _ + 1, _, [] => return .on
  | fuel + 1, waiting, statement :: rest => do
    match ← carryOut fuel waiting statement with
    | .on => carryOutAll fuel waiting rest
    | flow => return flow

/-- Carry out a body as long as a condition holds. -/
def carryOutLoop : Nat → Nat → Option Expression → Statement → Statement → ScriptStep ScriptFlow
  | 0, _, _, _, _ => failDepth
  | fuel + 1, waiting, condition, step, body => do
    let goesOn ← match condition with
      | some e => pure (← evaluate fuel waiting e).isTrue
      | none => pure true
    if ¬ goesOn then return .on
    match ← carryOut fuel waiting body with
    | .leaveLoop => return .on
    | .giveBack c => return .giveBack c
    | _ =>
      let _ ← carryOut fuel waiting step
      carryOutLoop fuel waiting condition step body

/-- Carry out a body for some keys. -/
def carryOutEach : Nat → Nat → Place → List Raw → Statement → ScriptStep ScriptFlow
  | 0, _, _, _, _ => failDepth
  | _ + 1, _, _, [], _ => return .on
  | fuel + 1, waiting, place, key :: rest, body => do
    place.save (.text key)
    match ← carryOut fuel waiting body with
    | .leaveLoop => return .on
    | .giveBack c => return .giveBack c
    | _ => carryOutEach fuel waiting place rest body

end

/-! ## Rules -/

/-- How many steps follow each other at most. -/
def scriptLimit : Nat := 1000000000000

/-- Whether a rule is for the current record. -/
def isMeant (pattern : RulePattern) : ScriptStep Bool := do
  match pattern with
  | .always => return true
  | .when e => return (← evaluate scriptLimit 0 e).isTrue
  | .range n first last =>
    let begins ← if (← get).ranges.contains n then pure true
      else pure (← evaluate scriptLimit 0 first).isTrue
    if ¬ begins then return false
    let ends := (← evaluate scriptLimit 0 last).isTrue
    modify fun d =>
      let others := d.ranges.filter (· ≠ n)
      { d with ranges := if ends then others else n :: others }
    return true

/-- Carry out the rules for the current record. -/
def applyRules (rules : List (RulePattern × Statement)) : ScriptStep Unit := do
  for (pattern, body) in rules do
    if ← isMeant pattern then
      let _ ← carryOut scriptLimit 0 body

/-- Carry out statements one after the other. -/
def carryOutBlocks (blocks : List Statement) : ScriptStep Unit := do
  for body in blocks do
    let _ ← carryOut scriptLimit 0 body

/-- Go through the records; the answer is whether the script has ended itself. -/
def runRecords (rules : List (RulePattern × Statement)) : Nat → ScriptStep Unit
  | 0 => return ()
  | fuel + 1 => do
    match ← takeInput with
    | none => return ()
    | some raw =>
      setRecord raw
      let leave : Option Leave ← try
          applyRules rules
          pure none
        catch leave => pure (some leave)
      match leave with
      | some .exit => throw .exit
      | some .nextFile =>
        modify fun d => { d with source := match d.source with
          | .text _ => .next
          | source => source }
        runRecords rules fuel
      | _ => runRecords rules fuel

/-- Run a script from its start to its end. -/
def runScript : ScriptStep Unit := do
  let program := (← get).program
  let wantsRecords := !program.rules.isEmpty || !program.finishes.isEmpty
  try
    carryOutBlocks program.starts
    if wantsRecords then runRecords program.rules scriptLimit
  catch _ => pure ()
  try carryOutBlocks program.finishes
  catch _ => pure ()
  closeAll

/-! ## The program -/

/-- How the program is used. -/
def awkUsage : String :=
  "Usage: mawk [Options] [Program] [file ...]\n\nProgram:\n" ++
  "    The -f option value is the name of a file containing program text.\n" ++
  "    If no -f option is given, a \"--\" ends option processing; the following\n" ++
  "    parameters are the program text.\n\nOptions:\n" ++
  "    -f program-file  Program  text is read from file instead of from the\n" ++
  "                     command-line.  Multiple -f options are accepted.\n" ++
  "    -F value         sets the field separator, FS, to value.\n" ++
  "    -v var=value     assigns value to program variable var.\n" ++
  "    --               unambiguous end of options.\n\n" ++
  "    Implementation-specific options are prefixed with \"-W\".  They can be\n" ++
  "    abbreviated:\n\n" ++
  "    -W version       show version information and exit.\n" ++
  "    -W dump          show assembler-like listing of program and exit.\n" ++
  "    -W help          show this message and exit.\n" ++
  "    -W interactive   set unbuffered output, line-buffered input.\n" ++
  "    -W exec file     use file as program as well as last option.\n" ++
  "    -W random=number set initial random seed.\n" ++
  "    -W sprintf=number adjust size of sprintf buffer.\n" ++
  "    -W posix_space   do not consider \"\\n\" a space.\n" ++
  "    -W usage         show this message and exit.\n"

/-- What the options of the program ask for. -/
structure ScriptCall where
  /-- Texts of the script, each with the file that it comes from. -/
  texts : List (Raw × Raw)
  assignments : List (Raw × Raw)
  rest : List Raw
  /-- What random numbers start from. -/
  seed : Option UInt32

/-- The options of the program. -/
def scriptOptions : Nat → ScriptCall → Job ScriptCall
  | 0, o => return o
  | fuel + 1, o => do
    match o.rest with
    | ('-' :: letter :: value) :: rest =>
      let withValue (use : Raw → List Raw → Job ScriptCall) : Job ScriptCall :=
        match value, rest with
        | [], [] => giveUp 2 ("option -".toList ++ [letter] ++ " lacks argument".toList)
        | [], next :: rest => use next rest
        | value, rest => use value rest
      match letter with
      | '-' =>
        if value.isEmpty then return { o with rest }
        giveUp 2 ("not an option: --".toList ++ value)
      | 'f' =>
        withValue fun name rest => do
          match ← operand name with
          | .ok raw =>
            scriptOptions fuel { o with texts := o.texts ++ [(name, raw)], rest }
          | .error fault =>
            giveUp 2 ("cannot open ".toList ++ name ++ " (".toList ++ faultText fault ++ [')'])
      | 'F' =>
        withValue fun value rest =>
          scriptOptions fuel
            { o with
              assignments := o.assignments ++ [("FS".toList, Script.unescape 0 value)], rest }
      | 'v' =>
        withValue fun value rest => do
          match assignmentOf? value with
          | some assignment =>
            scriptOptions fuel { o with assignments := o.assignments ++ [assignment], rest }
          | none => giveUp 2 ("improper assignment: -v ".toList ++ value)
      | 'W' =>
        withValue fun value rest => do
          if value.head? = some 'v' then
            say "mawk 1.3.4 20200120\n".toList
            exit 0
          if value.head? = some 'h' ∨ value.head? = some 'u' then
            put 2 awkUsage.toList
            exit 0
          match value.head?, value.dropWhile (· ≠ '=') with
          | some 'r', '=' :: number =>
            let seed := UInt32.ofInt (wholePart (Floating.ofRawFloat number))
            scriptOptions fuel { o with rest, seed }
          | _, _ => scriptOptions fuel { o with rest }
      | _ => giveUp 2 ("not an option: -".toList ++ letter :: value)
    | _ => return o

/-- The values that variables have from the start. -/
def startCells (program : Program) : Array Cell :=
  let start : List (String × Cell) :=
    [("NF", .number 0), ("NR", .number 0), ("FNR", .number 0), ("FS", .text [' ']),
      ("OFS", .text [' ']), ("ORS", .text ['\n']), ("RS", .text ['\n']), ("FILENAME", .text []),
      ("RSTART", .number 0), ("RLENGTH", .number (-1)), ("SUBSEP", .text [Char.ofNat 28]),
      ("CONVFMT", .text "%.6g".toList), ("OFMT", .text "%.6g".toList)]
  program.globals.map fun (name, _) => (start.lookup (String.ofList name)).getD .missing

/-- The tables that variables have from the start. -/
def startTables (program : Program) (arguments : List Raw) (environment : List (Raw × Raw)) :
    Array Table :=
  let tables := program.globals.map fun _ => Table.empty
  let withArguments : Table := ((arguments.zipIdx).foldl
    (fun t (raw, n) => t.insert (.whole n) (.given raw)) .empty)
  let withVariables : Table := environment.foldl
    (fun t (name, value) => t.insert (.text name) (.given value)) .empty
  (tables.set! (knownSlot "ARGV") withArguments).set! (knownSlot "ENVIRON") withVariables

/-- Run a script over records. -/
def awk : Job Unit := do
  let call := (← get).call
  let o ← scriptOptions (call.arguments.length + 1) ⟨[], [], call.arguments, none⟩
  let (file, raw, operands) ← match o.texts, o.rest with
    | [], [] =>
      put 2 awkUsage.toList
      exit 0
    | [], script :: operands => pure ([], script, operands)
    | (name, raw) :: more, operands =>
      pure (name, Raw.join ['\n'] (raw :: more.map Prod.snd), operands)
  match Script.read raw with
  | .error bad =>
    for line in bad.lines do
      complain (if file.isEmpty then line else file ++ ": ".toList ++ line)
    exit 2
  | .ok program =>
    let arguments := call.name :: operands
    let desk : ScriptDesk :=
      { program
        shared := startCells program
        tables := startTables program arguments call.environment
        own := #[]
        record := []
        isJoined := true
        between := [' ']
        style := "%.6g".toList
        fields := #[]
        isSplit := true
        source := .next
        argument := 1
        readers := []
        writers := []
        patterns := []
        ranges := []
        seed := .number 0
        random := Feedback.ofSeed (o.seed.getD (UInt32.ofNat (call.clock / 1000)))
        status := 0 }
    let body : ScriptStep Unit := do
      setKnown "ARGC" (ofNat arguments.length)
      for (name, value) in o.assignments do setNamed name (.given value)
      runScript
    let (_, desk) ← (ExceptT.run body).run desk
    match desk.source with
    | .next => pure ()
    | _ => modify fun d => { d with input := [] }
    exit desk.status

end Tool
end MakeTen
