import MakeTen.Edit.Reader
import MakeTen.Tool.Lines
/-!
# Editing lines

The program that edits lines.  A line is read into the working space, the
commands that are for it are carried out, and what is in the space is written;
then comes the next line.  A second space keeps text from one line to another.

Main definitions:

- Structure `Tool.Editor`: the spaces and what else an editor remembers.
- Function `Tool.perform`: what a command does.
- Function `Tool.sed`: the program.
-/

namespace MakeTen
namespace Tool

/-! ## The editor -/

/-- Where text is written. -/
inductive EditTarget where
  | output
  /-- The new text of the file that is edited. -/
  | inPlace
  | file (path : Raw)
  deriving DecidableEq

/-- Where a range of lines is. -/
inductive RangeState where
  | idle
  /-- The range has begun; it may end at a known line. -/
  | active (last : Option Nat)
  /-- A range that starts at a line of some number is over. -/
  | closed

/-- What is written when a line is done. -/
inductive Queued where
  | text (raw : Raw)
  | file (path : Raw)

/-- How an editor works. -/
structure EditStyle where
  script : Edit.Script
  isSilent : Bool
  /-- Whether every file has a last line of its own. -/
  isSeparate : Bool
  /-- The ending of the names of copies, if files are edited in place. -/
  inPlace : Option Raw
  /-- What ends lines. -/
  mark : Char
  listWidth : Nat
  /-- Whether the input is read no further than needed. -/
  isLazy : Bool

/-- What an editor remembers. -/
structure Editor where
  space : List Char
  /-- Whether the line in the space had an end. -/
  isEnded : Bool
  kept : List Char
  isKeptEnded : Bool
  number : Nat
  isReplaced : Bool
  /-- What is written when the line is done, the latest first. -/
  queue : List Queued
  lastPattern : Option Edit.Pattern
  ranges : Array RangeState
  /-- Files that have not been opened. -/
  files : List Raw
  /-- The file that is read. -/
  file : Raw
  lines : List Line
  /-- Whether the lines come from the input as they are needed. -/
  isReading : Bool
  /-- Where the last line that was written has no end. -/
  unfinished : List EditTarget
  /-- New text of the file that is edited, the latest first. -/
  replaced : List Raw
  /-- Lines of files that are read line by line. -/
  readers : List (Raw × List Line)
  status : Nat

/-- Steps of an editor. -/
abbrev EditStep := StateT Editor Job

/-! ## Writing -/

/-- Write text as it is. -/
def writeTo (target : EditTarget) (raw : Raw) : EditStep Unit := do
  match target with
  | .output => (say raw : Job Unit)
  | .inPlace => modify fun e => { e with replaced := raw :: e.replaced }
  | .file path =>
    if path = "/dev/stdout".toList then (say raw : Job Unit)
    else
      let _ ← (store path true raw : Job _)

/-- End the last line that was written, if it has no end. -/
def finishLine (s : EditStyle) (target : EditTarget) : EditStep Unit := do
  if (← get).unfinished.contains target then
    modify fun e => { e with unfinished := e.unfinished.filter (· ≠ target) }
    writeTo target [s.mark]

/-- Write a text. -/
def writeText (s : EditStyle) (target : EditTarget) (raw : Raw) : EditStep Unit := do
  finishLine s target
  writeTo target raw

/-- Write a line, with or without an end. -/
def writeLine (s : EditStyle) (target : EditTarget) (chars : List Char) (isEnded : Bool) :
    EditStep Unit := do
  writeText s target (if isEnded then chars ++ [s.mark] else chars)
  if ¬ isEnded then modify fun e => { e with unfinished := target :: e.unfinished }

/-- Where lines go that are written by themselves. -/
def mainTarget (s : EditStyle) : EditTarget :=
  if s.inPlace.isSome then .inPlace else .output

/-- Write the space. -/
def writeSpace (s : EditStyle) (target : EditTarget) : EditStep Unit := do
  let e ← get
  writeLine s target e.space e.isEnded

/-- Write what has been put off until the line is done. -/
def writeQueue (s : EditStyle) : EditStep Unit := do
  let queue := (← get).queue.reverse
  modify fun e => { e with queue := [] }
  for item in queue do
    finishLine s (mainTarget s)
    match item with
    | .text raw => writeTo (mainTarget s) raw
    | .file path =>
      match ← (contents path : Job _) with
      | .ok raw => writeTo (mainTarget s) raw
      | .error _ => pure ()

/-! ## Reading -/

/-- The name of the copy of a file that is edited in place. -/
def copyName (ending path : Raw) : Raw :=
  let name := (path.reverse.takeWhile (· ≠ '/')).reverse
  let above := path.take (path.length - name.length)
  if ending.contains '*' then
    let copy := ending.flatMap fun c => if c = '*' then name else [c]
    if copy.contains '/' then copy else above ++ copy
  else path ++ ending

/-- Put the new text into the file that is edited. -/
def closeFile (s : EditStyle) : EditStep Unit := do
  let e ← get
  match s.inPlace with
  | none => pure ()
  | some ending =>
    if ¬ e.file.isEmpty then
      if ¬ ending.isEmpty then
        match ← (contents e.file : Job _) with
        | .ok old =>
          let _ ← (store (copyName ending e.file) false old : Job _)
        | .error _ => pure ()
      let _ ← (store e.file false e.replaced.reverse.flatten : Job _)
      set { e with replaced := [], file := [],
                   unfinished := e.unfinished.filter (· ≠ EditTarget.inPlace) }

/-- Open the file that comes next. -/
def openFile (s : EditStyle) (path : Raw) (rest : List Raw) : EditStep Unit := do
  closeFile s
  modify fun e => { e with files := rest, lines := [], isReading := false }
  let fresh (raw : Raw) : EditStep Unit := do
    modify fun e => { e with
      file := path
      lines := linesEnding s.mark raw
      number := if s.isSeparate then 0 else e.number
      readers := if s.isSeparate then [] else e.readers
      kept := if s.isSeparate then [] else e.kept
      ranges := if s.isSeparate then
          s.script.commands.map fun c => match c.lines.first with
            | some (.line 0) => .active none
            | _ => .idle
        else e.ranges }
  if path = ['-'] ∧ s.inPlace.isNone then
    match (← (get : Job Desk)).call.inputFault with
    | some fault =>
      (complain ("read error on stdin: ".toList ++ faultText fault) : Job Unit)
      (exit 4 : Job Unit)
    | none => pure ()
    if s.isLazy ∧ s.mark = '\n' then
      fresh []
      modify fun e => { e with isReading := true }
    else fresh (← (readAll : Job Raw))
  else
    let isPlain : Bool := match ← (node? path : Job _) with
      | some (.file _) => true
      | some .directory => false
      | some _ => s.inPlace.isNone
      | none => true
    if s.inPlace.isSome ∧ ¬ isPlain then
      (giveUp 4 ("couldn't edit ".toList ++ path ++ ": not a regular file".toList) : Job Unit)
    match ← (contents path : Job _) with
    | .ok raw => fresh raw
    | .error .isDirectory =>
      (giveUp 4 ("read error on ".toList ++ path ++ ": Is a directory".toList) : Job Unit)
    | .error fault =>
      (flush : Job Unit)
      (complain ("can't read ".toList ++ path ++ ": ".toList ++ faultText fault) : Job Unit)
      modify fun e => { e with status := 2 }

/-- The next line, from the next files if need be. -/
def takeLine (s : EditStyle) : Nat → EditStep (Option Line)
  | 0 => return none
  | fuel + 1 => do
    let e ← get
    match e.lines with
    | line :: rest =>
      set { e with lines := rest }
      return some line
    | [] =>
      let line ← if e.isReading then (readLine? : Job _) else pure none
      match line with
      | some (raw, isEnded) => return some ⟨raw, isEnded⟩
      | none =>
        modify fun t => { t with isReading := false }
        match e.files with
        | [] => return none
        | path :: rest =>
          openFile s path rest
          takeLine s fuel

/-- Whether no line follows. -/
def isAtEnd (s : EditStyle) : EditStep Bool := do
  let e ← get
  if ¬ e.lines.isEmpty then return false
  let isOver ← if e.isReading then
      let d ← (get : Job Desk)
      if ¬ d.input.isEmpty then pure false
      else if d.isEnded then pure true
      else (throw .input : Job Bool)
    else pure true
  return isOver && (s.isSeparate || e.files.isEmpty)

/-- Read the next line, after what is in the space if that is wanted, and say whether
there is one. -/
def readSpace (s : EditStyle) (appends : Bool) : EditStep Bool := do
  writeQueue s
  match ← takeLine s ((← get).files.length + 2) with
  | none => return false
  | some line =>
    modify fun e => { e with
      space := if appends then e.space ++ s.mark :: line.raw else line.raw
      isEnded := line.isEnded
      number := e.number + 1
      isReplaced := false }
    return true

/-! ## Choosing lines -/

/-- The pattern that is meant, which is the last one if none is given. -/
def patternOf (p : Edit.Pattern) : EditStep (Edit.Pattern × Regex) := do
  let p ← match p.regex with
    | some _ => pure p
    | none =>
      match (← get).lastPattern with
      | some last => pure last
      | none =>
        (giveUp 1 "-e expression #1, char 0: no previous regular expression".toList :
          Job Edit.Pattern)
  modify fun e => { e with lastPattern := some p }
  return (p, p.regex.getD .empty)

/-- Whether the space has a part that a pattern matches. -/
def matchesPattern (p : Edit.Pattern) : EditStep Bool := do
  let (p, regex) ← patternOf p
  let text := (← get).space.toArray
  return Regex.isIn ⟨text, p.foldsCase, p.hasLines, true, true, false⟩ regex

/-- Whether a description fits the current line. -/
def matchesSpot (s : EditStyle) : Edit.Spot → EditStep Bool
  | .line n => return (← get).number == n
  | .every first step => do
    let n := (← get).number
    return first ≤ n && (n - first) % step == 0
  | .last => isAtEnd s
  | .pattern p => matchesPattern p

/-- The state of the range of a command. -/
def rangeState (index : Nat) : EditStep RangeState := do
  return ((← get).ranges[index]?).getD .idle

/-- Set the state of the range of a command. -/
def setRange (index : Nat) (state : RangeState) : EditStep Unit :=
  modify fun e => { e with ranges := e.ranges.setIfInBounds index state }

/-- Whether the current line is in a range that has begun. -/
def isInRange (s : EditStyle) (index : Nat) (known : Option Nat) (last : Edit.RangeEnd) :
    EditStep Bool := do
  let n := (← get).number
  match known, last with
  | some m, .spot (.line _) =>
    if m ≤ n then setRange index .closed
    return n ≤ m
  | some m, _ =>
    if m ≤ n then setRange index .closed
    return true
  | none, .spot spot =>
    if ← matchesSpot s spot then setRange index .closed
    return true
  | none, _ => return true

/-- Whether the current line begins a range. -/
def beginsRange (s : EditStyle) (index : Nat) (first : Edit.Spot) (last : Edit.RangeEnd)
    (isClosed : Bool) : EditStep Bool := do
  let n := (← get).number
  let (begins, isExact) ← match first with
    | .line m => pure (decide (m ≤ n) && !isClosed, m == n)
    | spot =>
      let found ← matchesSpot s spot
      pure (found, found)
  if ¬ begins then return false
  let known : Option Nat := match last with
    | .spot (.line m) => some m
    | .later m => some (n + m)
    | .multiple m => some ((n / m + 1) * m)
    | .spot _ => none
  match known with
  | some m =>
    if m ≤ n then
      setRange index .closed
      return isExact || n ≤ m
    else
      setRange index (.active (some m))
      return true
  | none =>
    setRange index (.active none)
    return true

/-- Whether a command is for the current line. -/
def isChosen (s : EditStyle) (index : Nat) (lines : Edit.Lines) : EditStep Bool := do
  let found ← match lines.first, lines.last with
    | none, _ => pure true
    | some first, none => matchesSpot s first
    | some first, some last => do
      match ← rangeState index with
      | .active known => isInRange s index known last
      | .closed => beginsRange s index first last true
      | .idle => beginsRange s index first last false
  return found != lines.isNegated

/-! ## Commands -/

/-- How the space looks if everything in it can be seen: pieces that stay whole. -/
def visiblePieces (raw : Raw) : List Raw :=
  raw.map fun c =>
    match c.toNat with
    | 7 => ['\\', 'a']
    | 8 => ['\\', 'b']
    | 9 => ['\\', 't']
    | 10 => ['\\', 'n']
    | 11 => ['\\', 'v']
    | 12 => ['\\', 'f']
    | 13 => ['\\', 'r']
    | 92 => ['\\', '\\']
    | n =>
      if 32 ≤ n ∧ n < 127 then [c]
      else '\\' :: Raw.padStart 3 '0' (Raw.digits 8 n)

/-- Pieces on lines that are no longer than a width. -/
def wrapPieces (width : Nat) : Nat → List Raw → Raw
  | _, [] => []
  | column, piece :: rest =>
    if 0 < width ∧ width - 1 < column + piece.length then
      ['\\', '\n'] ++ piece ++ wrapPieces width piece.length rest
    else piece ++ wrapPieces width (column + piece.length) rest

/-- The output of a shell command. -/
def shellOutput (command : Raw) : Job Raw := do
  let call := (← get).call
  let answer ← ask (.start ⟨["sh".toList, "-c".toList, command], call.environment, .shared, true,
    [], false⟩)
  return answer.output

/-- A text without one mark at its end. -/
def dropMark (mark : Char) (raw : Raw) : Raw :=
  if raw.getLast? = some mark then raw.dropLast else raw

/-- A text that a script gives, with the mark that ends lines. -/
def endText (s : EditStyle) (text : Raw) : Raw :=
  if s.mark ≠ '\n' ∧ text.getLast? = some '\n' then text.dropLast ++ [s.mark] else text

/-- What follows a command. -/
inductive EditFlow where
  | on
  | goTo (index : Nat)
  /-- The line is done; the space is written or not. -/
  | done (prints : Bool)
  /-- The commands are carried out once more for what is in the space. -/
  | again
  | quit (status : Nat)

/-- Replace matches in the space. -/
def substitute (s : EditStyle) (b : Edit.Substitution) : EditStep Unit := do
  let (pattern, regex) ← patternOf b.pattern
  match b.apply? pattern regex (← get).space with
  | none => pure ()
  | some space =>
    modify fun e => { e with space, isReplaced := true }
    if b.prints ∧ b.printsFirst then writeSpace s (mainTarget s)
    if b.evaluates then
      let output ← (shellOutput space : Job Raw)
      modify fun e => { e with space := (dropMark s.mark output) }
    if b.prints ∧ ¬ b.printsFirst then writeSpace s (mainTarget s)
    match b.output with
    | some path => writeSpace s (.file path)
    | none => pure ()

/-- The next line of a file that is read line by line. -/
def nextOf (s : EditStyle) (path : Raw) : EditStep (Option Line) := do
  let e ← get
  let lines ← match e.readers.lookup path with
    | some lines => pure lines
    | none =>
      match ← (contents path : Job _) with
      | .ok raw => pure (linesEnding s.mark raw)
      | .error _ => pure []
  set { e with readers := (path, lines.drop 1) :: e.readers.filter (·.1 ≠ path) }
  return lines.head?

/-- Carry out a command. -/
def perform (s : EditStyle) (index : Nat) (action : Edit.Action) : EditStep EditFlow := do
  let e ← get
  let jump (label : Raw) : EditFlow :=
    match s.script.labels.lookup label with
    | some target => .goTo target
    | none => .done true
  let firstLine := e.space.takeWhile (· ≠ s.mark)
  match action with
  | .block _ => return .on
  | .nothing => return .on
  | .jump .always label => return jump label
  | .jump .ifReplaced label =>
    set { e with isReplaced := false }
    return if e.isReplaced then jump label else .on
  | .jump .unlessReplaced label =>
    set { e with isReplaced := false }
    return if e.isReplaced then .on else jump label
  | .append text =>
    set { e with queue := .text (endText s text) :: e.queue }
    return .on
  | .insert text =>
    writeText s (mainTarget s) (endText s text)
    return .on
  | .change text =>
    match ← rangeState index with
    | .active _ => pure ()
    | _ => writeText s (mainTarget s) (endText s text)
    return .done false
  | .substitute b =>
    substitute s b
    return .on
  | .exchangeLetters pairs =>
    set { e with space := e.space.map fun c => (pairs.lookup c).getD c }
    return .on
  | .print =>
    writeSpace s (mainTarget s)
    return .on
  | .printFirst =>
    writeLine s (mainTarget s) firstLine
      (e.isEnded || firstLine.length < e.space.length)
    return .on
  | .delete => return .done false
  | .deleteFirst =>
    match e.space.drop firstLine.length with
    | [] => return .done false
    | _ :: rest =>
      set { e with space := rest }
      return .again
  | .next =>
    if ← isAtEnd s then return .done true
    if ¬ s.isSilent then writeSpace s (mainTarget s)
    if ← readSpace s false then return .on else return .done false
  | .nextAppended =>
    if ← isAtEnd s then return .done true
    if ← readSpace s true then return .on else return .done true
  | .keep =>
    set { e with kept := e.space, isKeptEnded := e.isEnded }
    return .on
  | .keepAppended =>
    set { e with kept := e.kept ++ s.mark :: e.space, isKeptEnded := e.isEnded }
    return .on
  | .fetch =>
    set { e with space := e.kept, isEnded := e.isKeptEnded }
    return .on
  | .fetchAppended =>
    set { e with space := e.space ++ s.mark :: e.kept, isEnded := e.isKeptEnded }
    return .on
  | .exchange =>
    set { e with space := e.kept, kept := e.space,
                 isEnded := e.isKeptEnded, isKeptEnded := e.isEnded }
    return .on
  | .clear =>
    set { e with space := [] }
    return .on
  | .number =>
    writeText s (mainTarget s) (Raw.ofNat e.number ++ [s.mark])
    return .on
  | .fileName =>
    writeText s (mainTarget s) (e.file ++ [s.mark])
    return .on
  | .list width =>
    let body := wrapPieces (width.getD s.listWidth) 0 (visiblePieces (e.space))
    writeText s (mainTarget s) (body ++ ['$', s.mark])
    return .on
  | .quit status prints =>
    if prints then
      if ¬ s.isSilent then writeSpace s (mainTarget s)
      finishLine s (mainTarget s)
      writeQueue s
    return .quit status
  | .readFile path =>
    set { e with queue := .file path :: e.queue }
    return .on
  | .readLine path =>
    match ← nextOf s path with
    | some line =>
      let text := if line.isEnded then line.raw ++ [s.mark] else line.raw
      modify fun t => { t with queue := .text text :: t.queue }
    | none => pure ()
    return .on
  | .writeFile path =>
    writeSpace s (.file path)
    return .on
  | .writeFirst path =>
    writeLine s (.file path) firstLine true
    return .on
  | .execute command =>
    if command.isEmpty then
      let output ← (shellOutput e.space : Job Raw)
      modify fun t => { t with space := (dropMark s.mark output), isEnded := true }
    else
      let output ← (shellOutput command : Job Raw)
      writeText s (mainTarget s) output
    return .on

/-! ## Lines one after the other -/

/-- Carry out the commands from an index on, with at most `fuel` steps. -/
def runCommands (s : EditStyle) : Nat → Nat → EditStep EditFlow
  | 0, _ => return .done true
  | fuel + 1, index => do
    match s.script.commands[index]? with
    | none => return .done true
    | some c =>
      if ← isChosen s index c.lines then
        match ← perform s index c.action with
        | .on => runCommands s fuel (index + 1)
        | .goTo target => runCommands s fuel target
        | flow => return flow
      else
        match c.action with
        | .block target => runCommands s fuel target
        | _ => runCommands s fuel (index + 1)

/-- How many commands are carried out for a line at most. -/
def commandLimit : Nat := 2000000

/-- How many lines are edited at most. -/
def lineLimit : Nat := 1000000000

/-- Edit line after line; the answer is the status.  If `isAgain`, the first line is
what is in the space. -/
def runLines (s : EditStyle) : Nat → Bool → EditStep Nat
  | 0, _ => return 0
  | fuel + 1, isAgain => do
    let isThere ← if isAgain then
        writeQueue s
        pure true
      else readSpace s false
    if ¬ isThere then return (← get).status
    match ← runCommands s commandLimit 0 with
    | .quit status => return status
    | .again => runLines s fuel true
    | .done true =>
      if ¬ s.isSilent then writeSpace s (mainTarget s)
      runLines s fuel false
    | _ => runLines s fuel false

/-! ## The program -/

/-- The options of the program. -/
def sedFlags : String :=
  "n,quiet,silent e,expression: f,file: E,r,regexp-extended i,in-place? l,line-length: " ++
    "s,separate u,unbuffered z,null-data,zero-terminated b,binary posix debug sandbox " ++
    "follow-symlinks"

/-- How the program is used. -/
def sedUsage : String :=
  "Usage: sed [OPTION]... \x7bscript-only-if-no-other-script\x7d [input-file]...\n"

/-- Complain, and say how the program is used. -/
def refuseEdit {α : Type} (complaint : Option Raw) : Job α := do
  match complaint with
  | some text => complain text
  | none => pure ()
  put 2 sedUsage.toList
  exit 1

/-- The pieces of the script that options give. -/
def scriptPieces : Nat → List (String × Raw) → Job (List Edit.Piece)
  | _, [] => return []
  | n, (key, value) :: rest => do
    if key == "e" then return ⟨.given n, value⟩ :: (← scriptPieces (n + 1) rest)
    else if key == "f" then
      match ← operand value with
      | .ok raw => return ⟨.file value, raw⟩ :: (← scriptPieces n rest)
      | .error fault =>
        giveUp 4 ("couldn't open file ".toList ++ value ++ ": ".toList ++ faultText fault)
    else scriptPieces n rest

/-- Edit the lines of files. -/
def sed : Job Unit := do
  let o ← match chosenOf sedFlags true (← get).call.arguments with
    | .ok o => pure o
    | .error fault => refuseEdit (some fault.text)
  if o.has "help" ∨ o.has "version" then
    say (if o.has "help" then sedUsage else "sed (GNU sed) 4.9\n").toList
    exit 0
  let (pieces, files) ← if o.has "e" ∨ o.has "f" then
      pure (← scriptPieces 1 o.options, o.operands)
    else
      match o.operands with
      | script :: files => pure ([⟨.given 1, script⟩], files)
      | [] => refuseEdit none
  let script ← match Edit.readScript ⟨o.has "E", o.has "sandbox", !o.has "z"⟩ pieces with
    | .ok script => pure script
    | .error fault => giveUp fault.status fault.text
  for path in script.outputs do
    if path ≠ "/dev/stdout".toList ∧ path ≠ "/dev/stderr".toList then
      match ← store path false [] with
      | .ok () => pure ()
      | .error fault =>
        giveUp 4 ("couldn't open file ".toList ++ path ++ ": ".toList ++ faultText fault)
  let isInPlace := o.has "i"
  if isInPlace ∧ files.isEmpty then giveUp 4 "no input files".toList
  let style : EditStyle :=
    { script
      isSilent := o.has "n" || script.isSilent
      isSeparate := o.has "s" || isInPlace
      inPlace := if isInPlace then some ((o.value? "i").getD []) else none
      mark := if o.has "z" then Raw.nul else '\n'
      listWidth := ((o.value? "l").map fun v => Raw.valueIn 10 (v.takeWhile Char.isDigit)).getD 70
      isLazy := script.quits || o.has "u" }
  let start : Editor :=
    { space := []
      isEnded := true
      kept := []
      isKeptEnded := true
      number := 0
      isReplaced := false
      queue := []
      lastPattern := none
      ranges := script.commands.map fun c => match c.lines.first with
        | some (.line 0) => .active none
        | _ => .idle
      files := if files.isEmpty then [['-']] else files
      file := []
      lines := []
      isReading := false
      unfinished := []
      replaced := []
      readers := []
      status := 0 }
  let (status, editor) ← (runLines style lineLimit false).run start
  let _ ← (closeFile style).run editor
  exit status

end Tool
end MakeTen
