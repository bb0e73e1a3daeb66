import MakeTen.Random.Feedback
import MakeTen.Script.Record
import MakeTen.Script.Syntax
import MakeTen.Script.Table
import MakeTen.Script.Token
import MakeTen.Tool.Job
/-!
# What a script works with

A script that runs has its variables, the record with its fields, the texts that it
reads, and those that it writes.

Main definitions:

- Structure `Tool.ScriptDesk`: all of that.
- Type `Tool.ScriptStep`: steps of a script.
- Functions `Tool.fieldOf` and `Tool.setField`: the fields of the record.
- Function `Tool.takeInput`: the next record of the input.
- Function `Tool.writeOut`: writing.
-/

namespace MakeTen
namespace Tool

open Script

/-! ## State -/

/-- What a variable of a function stands for. -/
inductive Binding where
  | cell (c : Cell)
  | table (n : Nat)

instance : Inhabited Binding := ⟨.cell .missing⟩

/-- A text that is read record by record. -/
structure Reader where
  name : Raw
  rest : Raw
  /-- The status of the command that wrote it. -/
  status : Nat

/-- Something that is written to. -/
structure Writer where
  name : Raw
  outlet : Outlet
  /-- What has not been passed on, the latest first. -/
  held : List Raw

/-- Where the records of the input come from. -/
inductive InputSource where
  /-- The next argument. -/
  | next
  /-- The input of the job. -/
  | standard
  | text (rest : Raw)
  | over

/-- What a script works with. -/
structure ScriptDesk where
  program : Program
  shared : Array Cell
  tables : Array Table
  /-- The variables of the function that is carried out. -/
  own : Array Binding
  /-- The record, unless its fields have been changed since. -/
  record : Raw
  isJoined : Bool
  /-- What was between fields, and how numbers became texts, when the fields were changed. -/
  between : Raw
  style : Raw
  /-- The fields, unless the record has been changed since. -/
  fields : Array Cell
  isSplit : Bool
  source : InputSource
  /-- The number of the argument that comes next. -/
  argument : Nat
  readers : List Reader
  writers : List Writer
  /-- Patterns that texts have been read as. -/
  patterns : List (Raw × Regex)
  /-- Which ranges of records have begun. -/
  ranges : List Nat
  /-- The seed of random numbers, and the state that they come from. -/
  seed : Cell
  random : Feedback.State
  status : Nat

/-- Why a script stops what it is doing. -/
inductive Leave where
  | nextRecord
  | nextFile
  | exit

/-- Steps of a script. -/
abbrev ScriptStep := ExceptT Leave (StateT ScriptDesk Job)

/-! ## Faults -/

/-- What a fault says about where the script is. -/
def whereText (d : ScriptDesk) : Raw :=
  let cell (name : String) : Raw :=
    ((d.shared[knownSlot name]?).getD .missing).toText "%.6g".toList
  "\tFILENAME=\"".toList ++ cell "FILENAME" ++ "\" FNR=".toList ++ cell "FNR" ++
    " NR=".toList ++ cell "NR" ++ ['\n']

/-- Give up with a complaint about a step. -/
def failStep {α : Type} (text : Raw) : ScriptStep α := do
  let d ← get
  (complain ("run time error: ".toList ++ text) : Job Unit)
  (put 2 (whereText d) : Job Unit)
  (exit 2 : Job α)

/-- Give up with a complaint. -/
def failRun {α : Type} (text : Raw) : ScriptStep α :=
  (giveUp 2 text : Job α)

/-! ## Variables -/

/-- The value of a variable that all scripts know. -/
def known (name : String) : ScriptStep Cell := do
  return ((← get).shared[knownSlot name]?).getD .missing

/-- Set a variable that all scripts know. -/
def setKnown (name : String) (c : Cell) : ScriptStep Unit :=
  modify fun d => { d with shared := d.shared.set! (knownSlot name) c }

/-- How numbers become texts. -/
def textStyle : ScriptStep Raw := do
  match ← known "CONVFMT" with
  | .text raw => return raw
  | c => return c.toText "%.6g".toList

/-- A value as a text. -/
def textOf (c : Cell) : ScriptStep Raw := do
  match c with
  | .text raw => return raw
  | .given raw => return raw
  | .missing => return []
  | .plainNaN => return "nan".toList
  | .number x => return numberText (← textStyle) x

/-- The number of a table. -/
def tableOf (slot : Slot) : ScriptStep Nat := do
  match slot with
  | .shared n => return n
  | .own n =>
    match (← get).own[n]? with
    | some (.table id) => return id
    | _ =>
      let id := (← get).tables.size
      modify fun d => { d with tables := d.tables.push .empty, own := d.own.set! n (.table id) }
      return id

/-- Change a table and say what comes of it. -/
def withTable {α : Type} (id : Nat) (f : Table → α × Table) : ScriptStep α := do
  let d ← get
  let t := (d.tables[id]?).getD .empty
  let (a, t) := f t
  set { d with tables := d.tables.set! id t }
  return a

/-- Change a table. -/
def changeTable (id : Nat) (f : Table → Table) : ScriptStep Unit :=
  modify fun d => { d with tables := d.tables.modify id f }

/-- The pattern that a text describes. -/
def regexOf (raw : Raw) : ScriptStep Regex := do
  match (← get).patterns.lookup raw with
  | some regex => return regex
  | none =>
    match Regex.read .script raw with
    | .ok regex =>
      modify fun d => { d with patterns := (raw, regex) :: d.patterns.take 20 }
      return regex
    | .error fault =>
      failStep ("regular expression compile failed (".toList ++ fault.scriptText.toList ++
        ")\n".toList ++ raw)

/-- The separator that a text describes. -/
def separatorOf (raw : Raw) : ScriptStep Separator := do
  match raw with
  | _ :: _ :: _ => return .pattern (← regexOf raw)
  | raw =>
    match Separator.read raw with
    | .ok s => return s
    | .error _ => return .blanks

/-! ## Fields -/

/-- Put another record in place of the record. -/
def setRecord (raw : Raw) : ScriptStep Unit :=
  modify fun d => { d with record := raw, isJoined := true, fields := #[], isSplit := false }

/-- Cut the record into fields if that has not been done. -/
def splitRecord : ScriptStep Unit := do
  if ¬ (← get).isSplit then
    let separator ← separatorOf (← textOf (← known "FS"))
    modify fun d =>
      let fields := ((separator.cut d.record).map Cell.given).toArray
      { d with fields, isSplit := true,
               shared := d.shared.set! fieldCountSlot (ofNat fields.size) }

/-- The texts of values between others. -/
def joinCells (between : Raw) (cells : List Cell) : ScriptStep Raw := do
  let style ← textStyle
  return Raw.join between (cells.map (Cell.toText style))

/-- The record as a text. -/
def recordText : ScriptStep Raw := do
  let d ← get
  if d.isJoined then return d.record
  let raw := Raw.join d.between (d.fields.toList.map (Cell.toText d.style))
  set { d with record := raw, isJoined := true }
  return raw

/-- Note that fields have been changed. -/
def noteFields : ScriptStep Unit := do
  let between ← textOf (← known "OFS")
  let style ← textStyle
  modify fun d => { d with isJoined := false, between, style }

/-- Set the number of fields. -/
def setFieldCount (n : Int) : ScriptStep Unit := do
  splitRecord
  if n < 0 then failStep "negative value assigned to NF".toList
  let size := n.toNat
  modify fun d =>
    let fields := if d.fields.size ≤ size then
        d.fields ++ Array.replicate (size - d.fields.size) (Cell.text [])
      else d.fields.extract 0 size
    { d with fields, shared := d.shared.set! fieldCountSlot (ofNat size) }
  noteFields

/-- The number of a field. -/
def fieldNumber (c : Cell) : ScriptStep Nat := do
  let n := wholePart c.toNumber
  if n < 0 then failStep ("negative field index $".toList ++ Raw.ofInt n)
  return n.toNat

/-- A field of the record, or the record for zero. -/
def fieldOf (n : Nat) : ScriptStep Cell := do
  if n = 0 then return .given (← recordText)
  splitRecord
  return ((← get).fields[n - 1]?).getD (.given [])

/-- Set a field of the record, or the record for zero. -/
def setField (n : Nat) (c : Cell) : ScriptStep Unit := do
  if n = 0 then setRecord (← textOf c)
  else
    splitRecord
    if (← get).fields.size < n then setFieldCount n
    modify fun d => { d with fields := d.fields.set! (n - 1) c }
    noteFields

/-! ## Assignments -/

/-- The value of a variable. -/
def variableOf (slot : Slot) : ScriptStep Cell := do
  match slot with
  | .shared n =>
    if n = fieldCountSlot then splitRecord
    return ((← get).shared[n]?).getD .missing
  | .own n =>
    match (← get).own[n]? with
    | some (.cell c) => return c
    | _ => return .missing

/-- Set a variable. -/
def setVariable (slot : Slot) (c : Cell) : ScriptStep Unit := do
  match slot with
  | .shared n =>
    if n = fieldCountSlot then setFieldCount (wholePart c.toNumber)
    else
      if n = separatorSlot then splitRecord
      modify fun d => { d with shared := d.shared.set! n c }
  | .own n => modify fun d => { d with own := d.own.set! n (.cell c) }

/-- Set a variable of the script by its name, if the script knows it. -/
def setNamed (name : Raw) (c : Cell) : ScriptStep Unit := do
  match (← get).program.globals.findIdx? (·.1 = name) with
  | some n => setVariable (.shared n) c
  | none => pure ()

/-- An argument that assigns to a variable: its name and the text. -/
def assignmentOf? (argument : Raw) : Option (Raw × Raw) :=
  let name := argument.takeWhile Raw.inName
  match argument.drop name.length with
  | '=' :: value => if Raw.isName name then some (name, Script.unescape 0 value) else none
  | _ => none

/-- The key of a value. -/
def keyOf (c : Cell) : ScriptStep Key := do
  match c with
  | .number x =>
    let n := wholePart x
    if (n.natAbs < 2147483648) && x.floor == x then return .whole n
    else return .text (numberText (← textStyle) x)
  | c => return .text (← textOf c)

/-! ## Writing -/

/-- Pass on what is held for a file. -/
def flushWriter (w : Writer) : ScriptStep Writer := do
  if w.outlet = .command ∨ w.held.isEmpty then return w
  let _ ← (store w.name true w.held.reverse.flatten : Job _)
  return { w with held := [] }

/-- Pass on what is held for files. -/
def flushFiles : ScriptStep Unit := do
  let writers ← (← get).writers.mapM flushWriter
  modify fun d => { d with writers }

/-- Pass on all that is held. -/
def flushAll : ScriptStep Unit := do
  flushFiles
  (flush : Job Unit)

/-- What a status tells a script. -/
def statusValue (a : Answer) : Nat :=
  if a.isKilled then 256 + (a.status - 128) else a.status

/-- Run a command of the shell. -/
def runCommand (command : Raw) (input : Source) (isCaught holdsOutput : Bool) :
    ScriptStep Answer := do
  let call := (← (get : Job Desk)).call
  let start : Start :=
    ⟨["/bin/sh".toList, "-c".toList, command], call.environment, input, isCaught, [], holdsOutput⟩
  if holdsOutput then (askHolding (.start start) : Job Answer)
  else (ask (.start start) : Job Answer)

/-- Close something that has been written to; the answer is its status. -/
def closeWriter (w : Writer) : ScriptStep Nat := do
  match w.outlet with
  | .command =>
    let answer ← runCommand w.name (.given w.held.reverse.flatten) false true
    return statusValue answer
  | _ =>
    let _ ← flushWriter w
    return 0

/-- Close all that is written to, commands first. -/
def closeAll : ScriptStep Unit := do
  let writers := (← get).writers
  modify fun d => { d with writers := [] }
  for w in writers do
    if w.outlet = .command then
      let _ ← closeWriter w
  for w in writers do
    if w.outlet ≠ .command then
      let _ ← closeWriter w

/-- Close what has a name; the answer is its status, or nothing if there is none. -/
def closeNamed (name : Raw) : ScriptStep (Option Nat) := do
  let d ← get
  set { d with writers := d.writers.filter (·.name ≠ name),
               readers := d.readers.filter (·.name ≠ name) }
  let reader := d.readers.find? (·.name = name)
  match d.writers.find? (·.name = name) with
  | some w => return some (← closeWriter w)
  | none => return reader.map Reader.status

/-- Open something to write to, if it has not been opened. -/
def openWriter (outlet : Outlet) (name : Raw) : ScriptStep Unit := do
  if (← get).writers.any (·.name = name) then return
  match outlet with
  | .command => flushAll
  | _ =>
    match ← (store name (outlet == .fileEnd) [] : Job _) with
    | .ok () => pure ()
    | .error fault =>
      failRun ("cannot open \"".toList ++ name ++ "\" for output (".toList ++ faultText fault ++
        [')'])
  modify fun d => { d with writers := ⟨name, outlet, []⟩ :: d.writers }

/-- Write a text to where a statement writes to. -/
def writeOut (outlet : Option (Outlet × Raw)) (raw : Raw) : ScriptStep Unit := do
  match outlet with
  | none => (say raw : Job Unit)
  | some (outlet, name) =>
    let isFile := outlet ≠ .command
    if isFile ∧ (name = "/dev/stdout".toList ∨ name = ['-']) then (say raw : Job Unit)
    else if isFile ∧ name = "/dev/stderr".toList then (put 2 raw : Job Unit)
    else
      openWriter outlet name
      modify fun d => { d with
        writers := d.writers.map fun w =>
          if w.name = name then { w with held := raw :: w.held } else w }

/-! ## Reading -/

/-- What separates records. -/
def recordSeparator : ScriptStep Separator := do
  match ← textOf (← known "RS") with
  | [c] => return .char c
  | raw => separatorOf raw

/-- The next record of the input of the job. -/
def takeStandard : ScriptStep (Option Raw) := do
  let separator ← recordSeparator
  let d ← (get : Job Desk)
  if let some fault := d.call.inputFault then
    failRun ("read error (".toList ++ faultText fault ++ [')'])
  match takeRecord separator d.isEnded d.input with
  | .later => (throw .input : Job (Option Raw))
  | .none =>
    (set { d with input := [] } : Job Unit)
    return none
  | .record raw rest =>
    (set { d with input := rest } : Job Unit)
    return some raw

/-- The next record of a text, and the rest of the text. -/
def takeText (rest : Raw) : ScriptStep (Option (Raw × Raw)) := do
  match takeRecord (← recordSeparator) true rest with
  | .record raw rest => return some (raw, rest)
  | _ => return none

/-- The contents of a file that is to be read as input. -/
def inputFile (name : Raw) : ScriptStep Raw := do
  match ← (contents name : Job _) with
  | .ok raw => return raw
  | .error .isDirectory => failRun "read error (Is a directory)".toList
  | .error fault =>
    failRun ("cannot open ".toList ++ name ++ " (".toList ++ faultText fault ++ [')'])

/-- Turn to the next argument; `isFirst` says that no file has been among them. -/
def openNext : Nat → Bool → ScriptStep Unit
  | 0, _ => modify fun d => { d with source := .over }
  | fuel + 1, isFirst => do
    let d ← get
    let count := (wholePart (← known "ARGC").toNumber).toNat
    if count ≤ d.argument then
      set { d with source := if isFirst then .standard else .over }
    else
      set { d with argument := d.argument + 1 }
      let key : Key := .whole d.argument
      let argument := ((d.tables[knownSlot "ARGV"]?).bind fun t => t.cells[key.toRaw]?).getD
        .missing
      let raw ← textOf argument
      if raw.isEmpty then openNext fuel isFirst
      else
        match assignmentOf? raw with
        | some (name, value) =>
          setNamed name (.given value)
          openNext fuel isFirst
        | none =>
          setKnown "FILENAME" (.text raw)
          setKnown "FNR" (.number 0)
          if raw = ['-'] ∨ raw = "/dev/stdin".toList then
            modify fun t => { t with source := .standard }
          else
            let text ← inputFile raw
            modify fun t => { t with source := .text text }

/-- The next record of the input; at most `fuel` files are opened on the way. -/
def takeInputWithin : Nat → ScriptStep (Option Raw)
  | 0 => return none
  | fuel + 1 => do
    let d ← get
    let count := (wholePart (← known "ARGC").toNumber).toNat
    let afterEnd : ScriptStep (Option Raw) := do
      modify fun t => { t with source := if count ≤ t.argument then .over else .next }
      takeInputWithin fuel
    match d.source with
    | .over => return none
    | .next =>
      openNext (count + 1) (d.argument == 1)
      match (← get).source with
      | .over => return none
      | _ => takeInputWithin fuel
    | .standard =>
      match ← takeStandard with
      | some raw => return some raw
      | none => afterEnd
    | .text rest =>
      match ← takeText rest with
      | some (raw, rest) =>
        modify fun t => { t with source := .text rest }
        return some raw
      | none => afterEnd

/-- One more in a variable that all scripts know. -/
def countRecord (name : String) : ScriptStep Unit := do
  setKnown name (.number ((← known name).toNumber + 1))

/-- The next record of the input. -/
def takeInput : ScriptStep (Option Raw) := do
  let count := (wholePart (← known "ARGC").toNumber).toNat
  match ← takeInputWithin (count + 3) with
  | some raw =>
    countRecord "NR"
    countRecord "FNR"
    return some raw
  | none => return none

/-- The next record of a file or of the output of a command; the answer is negative if
it cannot be read. -/
def takeFrom (origin : Origin) (name : Raw) : ScriptStep (Int × Raw) := do
  if origin = .file ∧ (name = ['-'] ∨ name = "/dev/stdin".toList) then
    match ← takeStandard with
    | some raw => return (1, raw)
    | none => return (0, [])
  let d ← get
  let reader : Option Reader ← match d.readers.find? (·.name = name) with
    | some r => pure (some r)
    | none =>
      if origin = .command then
        flushAll
        let answer ← runCommand name .shared true false
        pure (some ⟨name, answer.output, statusValue answer⟩)
      else
        flushFiles
        match ← (contents name : Job _) with
        | .ok raw => pure (some ⟨name, raw, 0⟩)
        | .error .isDirectory => failRun "read error (Is a directory)".toList
        | .error _ => pure none
  match reader with
  | none => return (-1, [])
  | some r =>
    let found ← takeText r.rest
    let rest := (found.map Prod.snd).getD []
    modify fun t => { t with
      readers := { r with rest } :: t.readers.filter (·.name ≠ name) }
    match found with
    | some (raw, _) => return (1, raw)
    | none => return (0, [])

end Tool
end MakeTen
