import MakeTen.Host.Search
import MakeTen.Process.Signal
import MakeTen.Shell.Expansion
import MakeTen.Shell.Reader
import MakeTen.Tool.Printing
import MakeTen.Tool.Test
/-!
# Builtin commands

The commands that a shell carries out itself.  A builtin command gives back what
it prints and what becomes of the shell.  A few of them do their work by putting
frames on top of what the shell has to do.

Main definitions:

- Type `Shell.Outcome`: what becomes of the shell.
- Function `Shell.builtin?`: the builtin command of some name.
- Function `Shell.isSpecialBuiltin`: whether a fault of a command ends the shell.
-/

namespace MakeTen
namespace Shell

open Machine

/-- What becomes of the shell after a builtin command. -/
inductive Outcome where
  /-- It goes on with a status. -/
  | done (status : Nat)
  /-- A complaint has been made, which ends the shell if the command is a special
  one. -/
  | refused
  /-- Commands are left. -/
  | left (flow : Flow)
  /-- Frames have been put in place that give the status. -/
  | begun

/-- A builtin command, applied to its arguments. -/
abbrev Builtin := List Raw → Step (Raw × Outcome)

/-! ## Usual outcomes -/

/-- Nothing is printed. -/
def quietly (status : Nat) : Step (Raw × Outcome) :=
  return ([], .done status)

/-- Something is printed. -/
def printing (raw : Raw) : Step (Raw × Outcome) :=
  return (raw, .done 0)

/-- Complain as a builtin command. -/
def warn (name : String) (text : Raw) : Step Unit := do
  writeError ((← shell).report (name.toList ++ ": ".toList ++ text))

/-- Complain as a builtin command and give up. -/
def refuse (name : String) (text : Raw) : Step (Raw × Outcome) := do
  warn name text
  return ([], .refused)

/-- The complaint about a number. -/
def badNumber (raw : Raw) : Raw :=
  "Illegal number: ".toList ++ raw

/-- The complaint about an option letter. -/
def badOption (letter : Char) : Raw :=
  "Illegal option -".toList ++ [letter]

/-- A text in single quotes, where single quotes within stand in double ones. -/
def quoted (raw : Raw) : Raw :=
  let parts := Raw.splitOn '\'' raw
  let between := "'\"'\"'".toList
  ['\''] ++ Raw.join between parts ++ ['\'']

/-- The number of decimal digits with a sign, which is not less than zero. -/
def number? (raw : Raw) : Option Nat :=
  match Raw.toInt? raw with
  | some n => if 0 ≤ n ∧ n < 2147483648 then some n.toNat else none
  | none => none

/-! ## Options -/

/-- Option letters in front of arguments.  A letter of `known` is accepted, one of
`valued` takes a value. -/
structure Options where
  letters : List Char
  values : List (Char × Raw)
  arguments : List Raw

/-- The options at the head of some arguments. -/
def readOptions (known valued : List Char) : Nat → List Raw → Except Raw Options
  | 0, arguments => .ok ⟨[], [], arguments⟩
  | fuel + 1, arguments =>
    match arguments with
    | ['-', '-'] :: rest => .ok ⟨[], [], rest⟩
    | ('-' :: letter :: more) :: rest =>
      if valued.contains letter then
        match more, rest with
        | [], [] => .error ("No arg for -".toList ++ [letter] ++ " option".toList)
        | [], value :: rest => do
          let o ← readOptions known valued fuel rest
          return { o with values := (letter, value) :: o.values }
        | value, rest => do
          let o ← readOptions known valued fuel rest
          return { o with values := (letter, value) :: o.values }
      else if known.contains letter then do
        let rest := if more.isEmpty then rest else ('-' :: more) :: rest
        let o ← readOptions known valued fuel rest
        return { o with letters := letter :: o.letters }
      else .error (badOption letter)
    | _ => .ok ⟨[], [], arguments⟩

/-- Go on with the options at the head of some arguments. -/
def withOptions (name : String) (known valued : String) (arguments : List Raw)
    (next : Options → Step (Raw × Outcome)) : Step (Raw × Outcome) :=
  let fuel := (arguments.map List.length).foldl (· + ·) 0 + 1
  match readOptions known.toList valued.toList fuel arguments with
  | .ok options => next options
  | .error text => refuse name text

/-! ## Printing and testing -/

/-- Print arguments with blanks between them. -/
def echoBuiltin : Builtin := fun arguments =>
  printing (Tool.echo .shell arguments)

/-- The complaint about a format or its arguments. -/
def formatComplaint : Tool.FormatFault → Raw
  | .notNumber text => text ++ ": expected numeric value".toList
  | .notWhole text => text ++ ": not completely converted".toList
  | .tooLarge text => text ++ ": Numerical result out of range".toList
  | .badConversion text => text ++ ": invalid directive".toList
  | .missingLetter _ => "missing format character".toList
  | .missingDigits => "missing hexadecimal number in escape".toList
  | .excess text => text
  | .ignored text => text

/-- Print arguments in a format. -/
def printfBuiltin : Builtin := fun arguments =>
  withOptions "printf" "" "" arguments fun o => do
    match o.arguments with
    | [] => refuse "printf" "usage: printf format [arg ...]".toList
    | format :: arguments =>
      let p := Tool.printf .shell format arguments
      for fault in p.faults do
        warn "printf" (formatComplaint fault)
      let status := if p.faults.any (·.isFatal) then 2 else if p.faults.isEmpty then 0 else 1
      return (p.output, .done status)

/-- Test texts, numbers and files; in brackets, the last argument closes them. -/
def testBuiltin (name : String) : Builtin := fun arguments => do
  let s ← get
  if name = "[" ∧ (arguments.getLast?.bind List.head?) ≠ some ']' then refuse name "missing ]".toList
  else
    let words := if name = "[" then arguments.dropLast else arguments
    match Tool.test ⟨s.view, s.openedAll⟩ words with
    | .ok value => quietly (if value then 0 else 1)
    | .error fault => refuse name fault.message

/-! ## Directories -/

/-- A directory's names after going on by a path, without dots. -/
def goOn (start : Raw) (path : Raw) : Raw :=
  let start := if path.head? = some '/' then [] else (Raw.splitOn '/' start).filter (!·.isEmpty)
  let names := (Raw.splitOn '/' path).foldl (fun names name =>
    if name.isEmpty ∨ name = ['.'] then names
    else if name = ['.', '.'] then names.dropLast
    else names ++ [name]) start
  '/' :: Raw.join ['/'] names

/-- The place of a directory. -/
def directoryPlace? (files : Files) (path : Raw) : Option (List String) :=
  match files.follow (Raw.toString path) with
  | .ok place => if files.at? place = some .directory then some place else none
  | .error _ => none

/-- The names that lead to a place. -/
def placePath (place : List String) : Raw :=
  '/' :: Raw.join ['/'] (place.map Raw.ofString)

/-- Go to a directory, and say whether that worked. -/
def enterDirectory (isPhysical : Bool) (path : Raw) : Step Bool := do
  let s ← get
  let state := s.current.state
  let logical := goOn state.directory path
  match directoryPlace? s.view (if isPhysical then path else logical) with
  | none => return false
  | some place =>
    let directory := if isPhysical then placePath place else logical
    set { s with current := { s.current with place } }
    modifyShell fun t =>
      let v (raw : Raw) : Variable := ⟨some raw, true, false⟩
      { (t.setVariable "OLDPWD" (v t.directory)).setVariable "PWD" (v directory) with directory }
    return true

/-- Whether a path says where it starts. -/
def isAnchored (path : Raw) : Bool :=
  path.head? = some '/' || (Raw.splitOn '/' path).head?.any fun name =>
    name = ['.'] || name = ['.', '.']

/-- Go to another directory. -/
def cdBuiltin : Builtin := fun arguments =>
  withOptions "cd" "LPe" "" arguments fun o => do
    let s ← get
    let state := s.current.state
    let isPhysical := o.letters.head? = some 'P'
    let isBack := o.arguments.head? = some ['-']
    let path := match o.arguments with
      | [] => (state.lookup? "HOME").getD []
      | path :: _ => if isBack then (state.lookup? "OLDPWD").getD [] else path
    let go (path : Raw) (shows : Bool) : Step (Raw × Outcome) := do
      if ← enterDirectory isPhysical path then
        let directory := (← shell).directory
        return (if shows then directory ++ ['\n'] else [], .done 0)
      else refuse "cd" ("can't cd to ".toList ++ path)
    if isAnchored path then go path isBack
    else
      let path := if path.isEmpty then ['.'] else path
      let places := match state.lookup? "CDPATH" with
        | some raw => Raw.splitOn ':' raw
        | none => [[]]
      let found := places.find? fun place =>
        (directoryPlace? s.view (Raw.ofString (Files.pathIn (Raw.toString place)
          (Raw.toString path)))).isSome
      match found with
      | some place =>
        go (Raw.ofString (Files.pathIn (Raw.toString place) (Raw.toString path)))
          (isBack || !place.isEmpty)
      | none => go path isBack

/-- Print the working directory. -/
def pwdBuiltin : Builtin := fun arguments =>
  withOptions "pwd" "LP" "" arguments fun o => do
    let s ← get
    if o.letters.head? = some 'P' then printing (placePath s.current.place ++ ['\n'])
    else printing (s.current.state.directory ++ ['\n'])

/-! ## Variables -/

/-- Variables in alphabetical order, one on a line. -/
def listVariables (lead : String) (shown : List (String × Variable)) : Raw :=
  let sorted := shown.mergeSort fun a b => a.1 ≤ b.1
  sorted.flatMap fun (name, v) =>
    let value := match v.value with
      | some raw => '=' :: quoted raw
      | none => []
    lead.toList ++ name.toList ++ value ++ ['\n']

/-- Split an argument at its first equals sign. -/
def splitAssignment (argument : Raw) : Raw × Option Raw :=
  let name := argument.takeWhile (· ≠ '=')
  (name, if name.length < argument.length then some (argument.drop (name.length + 1)) else none)

/-- Assign arguments one after the other, each after its name has been looked at,
and change the variables.  A complaint ends it. -/
def declareAll (command : String) (change : String → Option Raw → State → State) :
    List Raw → Step (Raw × Outcome)
  | [] => quietly 0
  | argument :: rest => do
    let (name, value) := splitAssignment argument
    let word := String.ofList name
    if ¬ Raw.isName name then
      let text := name ++ ": bad variable name".toList
      if command = "local" ∧ value.isSome then do
        writeError ((← shell).report text)
        return ([], .refused)
      else refuse command text
    else if value.isSome ∧ (← shell).isReadOnly word then
      refuse command (name ++ ": is read only".toList)
    else
      modifyShell (change word value)
      declareAll command change rest

/-- The state with some variable marked by `mark`, and with another value if one
is given. -/
def declared (mark : Variable → Variable) (name : String) (value : Option Raw) (s : State) :
    State :=
  let s := match value with
    | some raw => s.assign name raw
    | none => s
  s.setVariable name (mark ((s.valueOf? name).getD ⟨none, false, false⟩))

/-- Mark variables, or list those that are marked. -/
def markBuiltin (command : String) (mark : Variable → Variable) (isMarked : Variable → Bool) :
    Builtin := fun arguments => do
  let list : Step (Raw × Outcome) := do
    let shown := (← shell).bindings.filter fun (_, v) => isMarked v
    printing (listVariables (command ++ " ") shown)
  match arguments with
  | [] => list
  | ['-', '-'] :: rest =>
    if rest.isEmpty then list else declareAll command (declared mark) rest
  | ('-' :: letter :: _) :: _ => if letter = 'p' then list else refuse command (badOption letter)
  | names => declareAll command (declared mark) names

/-- The state with a variable that lasts as long as the current function. -/
def hide (name : String) (s : State) : State :=
  if s.hidden.any (·.1 == name) then s
  else { s with hidden := (name, s.valueOf? name) :: s.hidden }

/-- Make variables that last as long as the current function. -/
def localBuiltin : Builtin := fun arguments => do
  if (← shell).calls = 0 then refuse "local" "not in a function".toList
  else
    let names := arguments.filter (· ≠ ['-'])
    if names.length < arguments.length then
      modifyShell fun s =>
        if s.hidden.any (·.1 == "-") then s
        else
          let options := Raw.join [' '] (s.options.map String.toList)
          { s with hidden := ("-", some (.plain options)) :: s.hidden }
    declareAll "local" (fun name value s =>
      let s := hide name s
      match value with
      | some raw => s.assign name raw
      | none => s) names

/-- Forget variables, one after the other, each named up to an equals sign. -/
def unsetAll : List Raw → Step (Raw × Outcome)
  | [] => quietly 0
  | argument :: rest => do
    let (name, _) := splitAssignment argument
    let word := String.ofList name
    if ¬ Raw.isName name then refuse "unset" (name ++ ": bad variable name".toList)
    else if (← shell).isReadOnly word then refuse "unset" (name ++ ": is read only".toList)
    else if word = "OPTIND" then refuse "unset" (badNumber [])
    else
      modifyShell fun s => s.dropVariable word
      unsetAll rest

/-- Forget variables or functions. -/
def unsetBuiltin : Builtin := fun arguments =>
  withOptions "unset" "vf" "" arguments fun o => do
    if o.letters.getLast? = some 'f' then
      modifyShell fun s =>
        { s with functions := s.functions.filter fun f => !o.arguments.contains f.1.toList }
      quietly 0
    else unsetAll o.arguments

/-! ## Options and positional parameters -/

/-- The options of a shell, one on a line. -/
def listOptions (isSpelt : Bool) (s : State) : Raw :=
  let line (name : String) : Raw :=
    let isOn := s.has name
    if isSpelt then (if isOn then "set -o " else "set +o ").toList ++ name.toList ++ ['\n']
    else Raw.padEnd 16 ' ' name.toList ++ (if isOn then "on\n" else "off\n").toList
  (if isSpelt then [] else "Current option settings\n".toList) ++
    optionNames.flatMap fun (name, _) => line name

/-- The outcome of setting options: the options and arguments that are left. -/
structure OptionChange where
  state : State
  output : Raw
  /-- What the positional parameters become, if they change. -/
  positional : Option (List Raw)

/-- Turn the options of some letters on or off.  The letter `o` stands for the
next argument. -/
def setLetters (isOn : Bool) (setting : OptionChange) : Raw → List Raw →
    Except (Raw × Raw) (OptionChange × List Raw)
  | [], rest => .ok (setting, rest)
  | 'o' :: letters, rest =>
    match rest with
    | [] =>
      let output := setting.output ++ listOptions (!isOn) setting.state
      setLetters isOn { setting with output } letters []
    | name :: rest =>
      let word := String.ofList name
      if optionNames.any (·.1 = word) then
        setLetters isOn { setting with state := setting.state.setOption word isOn } letters rest
      else .error ("Illegal option -o ".toList ++ name, setting.output)
  | letter :: letters, rest =>
    match optionNames.find? (·.2 = some letter) with
    | some (name, _) =>
      setLetters isOn { setting with state := setting.state.setOption name isOn } letters rest
    | none => .error (badOption letter, setting.output)

/-- Set options and positional parameters; a fault comes with what has been listed
before it. -/
def setAll : Nat → OptionChange → List Raw → Except (Raw × Raw) OptionChange
  | 0, setting, _ => .ok setting
  | fuel + 1, setting, arguments =>
    match arguments with
    | [] => .ok setting
    | ['-', '-'] :: rest => .ok { setting with positional := some rest }
    | ['-'] :: rest =>
      let state := (setting.state.setOption "xtrace" false).setOption "verbose" false
      .ok { setting with state, positional := if rest.isEmpty then none else some rest }
    | ('-' :: letters) :: rest => do
      let (setting, rest) ← setLetters true setting letters rest
      setAll fuel setting rest
    | ['+'] :: rest => setAll fuel setting rest
    | ('+' :: letters) :: rest => do
      let (setting, rest) ← setLetters false setting letters rest
      setAll fuel setting rest
    | arguments => .ok { setting with positional := some arguments }

/-- Set options and positional parameters, or list variables. -/
def setBuiltin : Builtin := fun arguments => do
  let s ← shell
  if arguments.isEmpty then
    printing (listVariables "" (s.bindings.filter (·.2.value.isSome)))
  else
    match setAll (arguments.length + 1) ⟨s, [], none⟩ arguments with
    | .error (text, output) =>
      warn "set" text
      return (output, .refused)
    | .ok setting =>
      if setting.state.has "monitor" then
        warn "set" "can't access tty; job control turned off".toList
      let state := setting.state.setOption "monitor" false
      modifyShell fun _ =>
        match setting.positional with
        | some positional => { state with positional, optionIndex := 1, cursor := none }
        | none => state
      printing setting.output

/-- Drop positional parameters. -/
def shiftBuiltin : Builtin := fun arguments => do
  let argument := arguments.head?.getD ['1']
  match number? argument with
  | none => refuse "shift" (badNumber argument)
  | some n =>
    if (← shell).positional.length < n then refuse "shift" "can't shift that many".toList
    else
      modifyShell fun s =>
        { s with positional := s.positional.drop n, optionIndex := 1, cursor := none }
      quietly 0

/-! ## Ends -/

/-- The status that comes back after the trap that is being carried out. -/
def trappedStatus? : List Frame → Option Nat
  | [] => none
  | .status status :: _ => some status
  | _ :: rest => trappedStatus? rest

/-- End the shell, or leave a function. -/
def endingBuiltin (name : String) (flow : Flow) : Builtin := fun arguments => do
  let s ← get
  let status := s.current.state.status
  let usual := if flow = .exit then (trappedStatus? s.current.frames).getD status else status
  match arguments with
  | [] =>
    setStatus usual
    return ([], .left flow)
  | argument :: _ =>
    match number? argument with
    | some n =>
      setStatus (if flow = .exit then n % 256 else n)
      return ([], .left flow)
    | none => refuse name (badNumber argument)

/-- Leave loops, or go on with their next turn. -/
def loopBuiltin (name : String) (flow : Nat → Flow) : Builtin := fun arguments => do
  let loops := (← shell).loops
  let argument := arguments.head?.getD ['1']
  match number? argument with
  | none => refuse name (badNumber argument)
  | some 0 => refuse name (badNumber argument)
  | some n =>
    if loops = 0 then quietly 0
    else
      setStatus 0
      return ([], .left (flow (min n loops)))

/-! ## Scripts -/

/-- Put a script on top of what the shell has to do. -/
def pushScript (script : Raw) : Step Unit :=
  push (.script (lineEnds script) false script)

/-- Let complaints start with some text until the frame below is reached. -/
def pushVoice (lead : Raw) : Step Unit := do
  push (.voice (← shell).lead)
  modifyShell fun s => { s with lead }

/-- Carry out the arguments as a script. -/
def evalBuiltin : Builtin := fun arguments => do
  pushVoice "eval: ".toList
  setStatus 0
  pushScript (Raw.join [' '] arguments)
  return ([], .begun)

/-- The path of a script that is named by a name or path. -/
def scriptPath? (files : Files) (state : State) (name : Raw) : Option Raw :=
  if name.contains '/' then some name
  else
    (files.locate? (Raw.toString ((state.lookup? "PATH").getD [])) (Raw.toString name)).map
      Raw.ofString

/-- How the shell words why a file cannot be opened. -/
def openingFault (fault : HostFault) : Raw :=
  match fault with
  | .missing => "No such file".toList
  | .notDirectory => "No such file".toList
  | fault => fault.text.toList

/-- Carry out a script from a file. -/
def sourceBuiltin : Builtin := fun arguments => do
  let s ← get
  match arguments.filter (· ≠ ['-', '-']) with
  | [] => quietly 0
  | name :: _ =>
    match scriptPath? s.view s.current.state name with
    | none => refuse "." (name ++ ": not found".toList)
    | some path =>
      let contents : Except HostFault (List UInt8) := match s.view.read (Raw.toString path) with
        | .ok bytes => .ok bytes
        | .error .isDirectory => .ok []
        | .error fault => .error fault
      match contents with
      | .error fault =>
        refuse "." ("cannot open ".toList ++ path ++ ": ".toList ++ openingFault fault)
      | .ok bytes =>
        pushVoice (path ++ ": ".toList)
        push .source
        push (.shield s.current.state.isShielded)
        modifyShell fun t => { t with isShielded := false, status := 0 }
        pushScript (Raw.ofBytes bytes)
        return ([], .begun)

/-! ## Signals -/

/-- What is done on signals, one on a line. -/
def listTraps (s : State) : Raw :=
  let sorted := s.traps.mergeSort fun a b => a.1 ≤ b.1
  sorted.flatMap fun (signal, action) =>
    let name := if signal = 0 then "EXIT".toList else signalName signal
    "trap -- ".toList ++ quoted action ++ [' '] ++ name ++ ['\n']

/-- Set what is done on some signals. -/
def setTraps (action : Raw) : List Raw → Step (Raw × Outcome)
  | [] => quietly 0
  | name :: rest => do
    match signal? name with
    | none =>
      writeError ("trap: ".toList ++ name ++ ": bad trap\n".toList)
      quietly 1
    | some n =>
      modifyShell fun s =>
        let traps := s.traps.filter (·.1 ≠ n)
        { s with traps := if action = ['-'] then traps else (n, action) :: traps }
      setTraps action rest

/-- Set what is done on signals, or list it. -/
def trapBuiltin : Builtin := fun arguments =>
  withOptions "trap" "" "" arguments fun o => do
    match o.arguments with
    | [] => printing (listTraps (← shell))
    | [name] => setTraps ['-'] [name]
    | action :: names =>
      if (Raw.toNat? action).isSome then setTraps ['-'] (action :: names)
      else setTraps action names

/-- What is said of a job that there is not. -/
def noJob (name : Raw) : Raw :=
  match name with
  | ['%', '-'] => "No previous job".toList
  | ['%', '%'] => "No current job".toList
  | ['%', '+'] => "No current job".toList
  | ['%'] => "No current job".toList
  | _ => "No such job: ".toList ++ name

/-- Send a signal to processes, one after the other. -/
def killAll (signal : Nat) (status : Nat) : List Raw → Step (Raw × Outcome)
  | [] => quietly status
  | name :: rest => do
    let s ← shell
    match if name.head? = some '%' then none else number? name with
    | none =>
      if name.head? = some '%' then
        match s.jobNamed? name with
        | none => refuse "kill" (noJob name)
        | some _ =>
          warn "kill" "No such process\n".toList
          killAll signal 1 rest
      else if name.head? = some '-' ∧ (number? (name.drop 1)).isSome then
        warn "kill" "No such process\n".toList
        killAll signal 1 rest
      else refuse "kill" (badNumber name)
    | some process =>
      if ← sendSignal process signal then killAll signal status rest
      else
        warn "kill" "No such process\n".toList
        killAll signal 1 rest

/-- How to use the command that sends signals. -/
def killUsage : Raw :=
  ("Usage: kill [-s sigspec | -signum | -sigspec] [pid | job]... or\n" ++
    "kill -l [exitstatus]").toList

/-- The name of the signal that a number or a status stands for. -/
def signalOfStatus? (n : Nat) : Option Raw :=
  if 0 < n ∧ n < Signal.bound then some (signalName n)
  else if 128 < n ∧ n - 128 < Signal.bound then some (signalName (n - 128))
  else none

/-- List signals, or name one. -/
def listSignals (arguments : List Raw) : Step (Raw × Outcome) :=
  match arguments with
  | [] => printing ((List.range Signal.bound).flatMap fun n => signalName n ++ ['\n'])
  | argument :: _ =>
    match number? argument with
    | none => refuse "kill" (badNumber argument)
    | some n =>
      match signalOfStatus? n with
      | some name => printing (name ++ ['\n'])
      | none =>
        refuse "kill" ("invalid signal number or exit status: ".toList ++ argument)

/-- Send a signal, or list signals. -/
def killBuiltin : Builtin := fun arguments => do
  let send (signal : Nat) (processes : List Raw) : Step (Raw × Outcome) :=
    if processes.isEmpty then refuse "kill" killUsage else killAll signal 0 processes
  let named (name : Raw) (rest : List Raw) : Step (Raw × Outcome) :=
    match signal? name with
    | some n => send n (if rest.head? = some ['-', '-'] then rest.drop 1 else rest)
    | none => refuse "kill" ("invalid signal number or name: ".toList ++ name)
  match arguments with
  | [] => refuse "kill" killUsage
  | ['-', '-'] :: rest => send 15 rest
  | ['-', 'l'] :: rest => listSignals rest
  | ['-', 's'] :: [] => refuse "kill" "No arg for -s option".toList
  | ['-', 's'] :: name :: rest => named name rest
  | ('-' :: letter :: name) :: rest =>
    match signal? (letter :: name) with
    | some n => send n (if rest.head? = some ['-', '-'] then rest.drop 1 else rest)
    | none => if letter = 's' then named name rest else refuse "kill" (badOption letter)
  | processes => send 15 processes

/-! ## Processes in the background -/

/-- Wait for processes in the background. -/
def waitBuiltin : Builtin := fun arguments =>
  withOptions "wait" "" "" arguments fun o => do
    if o.arguments.isEmpty then push .joinAll else push (.join o.arguments 127)
    return ([], .begun)

/-- What has become of a process, in words. -/
def jobText (ending : Option ProcessEnd) : Raw :=
  match ending with
  | none => "Running".toList
  | some (.exit 0) => "Done".toList
  | some (.exit n) => "Done(".toList ++ Raw.ofNat n ++ [')']
  | some (.signal n) => signalReport n

/-- Show a job, with or without the number of its process.  One that has ended is
forgotten then. -/
def showJob (withNumber : Bool) (job : BackgroundJob) : Step Raw := do
  let s ← get
  let slots := s.current.state.jobs.map (·.slot)
  let mark := if slots[0]? = some job.slot then '+' else if slots[1]? = some job.slot then '-'
    else ' '
  let head := ['['] ++ Raw.ofNat job.slot ++ "] ".toList ++ [mark, ' ']
  let number := if withNumber then Raw.ofNat job.process ++ [' '] else []
  let ending := if job.isReaped then s.ending? job.process else none
  if job.isReaped then
    modifyShell fun t => { t with jobs := t.jobs.filter (·.slot ≠ job.slot) }
  return Raw.padEnd 33 ' ' (head ++ number ++ jobText ending) ++
    (List.replicate (job.stages - 1) " | ".toList).flatten ++ ['\n']

/-- Show the jobs that some arguments name, after what has been shown already. -/
def showJobs (showOne : BackgroundJob → Step Raw) (done : Raw) :
    List Raw → Step (Raw × Outcome)
  | [] => printing done
  | name :: rest => do
    match (← shell).jobNamed? name with
    | some job => showJobs showOne (done ++ (← showOne job)) rest
    | none =>
      warn "jobs" (noJob name)
      return (done, .refused)

/-- Notice which processes in the background have ended. -/
def reap : Step Unit :=
  modify fun s =>
    let notice (j : BackgroundJob) : BackgroundJob :=
      { j with isReaped := j.isReaped || (s.ending? j.process).isSome }
    let state := s.current.state
    { s with current := { s.current with state := { state with jobs := state.jobs.map notice } } }

/-- List processes in the background. -/
def jobsBuiltin : Builtin := fun arguments =>
  withOptions "jobs" "lp" "" arguments fun o => do
    let showOne (job : BackgroundJob) : Step Raw :=
      if o.letters.getLast? = some 'p' then return Raw.ofNat job.process ++ ['\n']
      else showJob (o.letters.getLast? = some 'l') job
    if o.arguments.isEmpty then
      reap
      let mut lines : Raw := []
      for job in (← shell).jobs do
        lines := lines ++ (← showOne job)
      printing lines
    else showJobs showOne [] o.arguments

/-- Go on with a process in the foreground or background, which needs a terminal
to be possible. -/
def resumeBuiltin (name : String) : Builtin := fun arguments => do
  let s ← shell
  let job := arguments.head?.getD ['%', '%']
  match s.jobNamed? job with
  | none => refuse name (noJob job)
  | some _ =>
    let shown := if arguments.isEmpty then "(null)".toList else job
    refuse name ("job ".toList ++ shown ++ " not created under job control".toList)

/-! ## Aliases -/

/-- Where an alias stands in the list of all. -/
def aliasBucket (name : String) : Nat :=
  let raw := Raw.ofString name
  let start := ((raw.head?.map Char.toNat).getD 0) * 16
  (raw.foldl (fun n c => n + c.toNat) start) % 39

/-- An alias on a line. -/
def aliasLine (name : String) (value : Raw) : Raw :=
  name.toList ++ ['='] ++ quoted value ++ ['\n']

/-- Define aliases or show them. -/
def aliasAll (output : Raw) (status : Nat) : List Raw → Step (Raw × Outcome)
  | [] => return (output, .done status)
  | argument :: rest => do
    let s ← shell
    let name := argument.take 1 ++ (argument.drop 1).takeWhile (· ≠ '=')
    let word := String.ofList name
    match argument.drop name.length with
    | _ :: value =>
      let isKnown := s.aliases.any (·.1 == word)
      let aliases := if isKnown then
        s.aliases.map fun a => if a.1 = word then (word, value) else a
        else s.aliases ++ [(word, value)]
      modifyShell fun s => { s with aliases }
      aliasAll output status rest
    | [] =>
      match s.aliases.lookup word with
      | some value => aliasAll (output ++ aliasLine word value) status rest
      | none =>
        writeError ("alias: ".toList ++ argument ++ " not found\n".toList)
        aliasAll output 1 rest

/-- Define aliases or show them. -/
def aliasBuiltin : Builtin := fun arguments => do
  if arguments.isEmpty then
    let sorted := (← shell).aliases.mergeSort fun a b => aliasBucket a.1 ≤ aliasBucket b.1
    printing (sorted.flatMap fun (name, value) => aliasLine name value)
  else aliasAll [] 0 arguments

/-- Forget aliases. -/
def unaliasBuiltin : Builtin := fun arguments =>
  if (arguments.head?.getD []).take 2 = ['-', 'a'] then do
    modifyShell fun s => { s with aliases := [] }
    quietly 0
  else withOptions "unalias" "" "" arguments fun o => do
    let known := (← shell).aliases.map (·.1.toList)
    let missing := o.arguments.filter (!known.contains ·)
    for name in missing do
      writeError ("unalias: ".toList ++ name ++ " not found\n".toList)
    modifyShell fun s =>
      { s with aliases := s.aliases.filter fun a => !o.arguments.contains a.1.toList }
    quietly (if missing.isEmpty then 0 else 1)

/-! ## What names mean -/

/-- Builtin commands whose faults end the shell. -/
def specialNames : List String :=
  [".", ":", "break", "continue", "eval", "exec", "exit", "export", "readonly", "return", "set",
    "shift", "times", "trap", "unset", "local"]

/-- The other builtin commands. -/
def regularNames : List String :=
  ["[", "alias", "bg", "cd", "command", "echo", "false", "fg", "getopts", "hash", "jobs", "kill",
    "printf", "pwd", "read", "test", "true", "type", "ulimit", "umask", "unalias", "wait"]

/-- Whether a fault of a command ends the shell. -/
def isSpecialBuiltin (name : String) : Bool :=
  specialNames.contains name

/-- Whether a command is carried out by the shell itself. -/
def isBuiltin (name : String) : Bool :=
  specialNames.contains name || regularNames.contains name

/-- The path that a name stands for as a program. -/
def programPath? (s : Machine) (name : Raw) : Option Raw :=
  if name.contains '/' then
    if s.view.isThere (Raw.toString name) then some name else none
  else
    let search := Raw.toString ((s.current.state.lookup? "PATH").getD [])
    match s.view.findProgram search (Raw.toString name) with
    | .ok _ => (s.view.locate? search (Raw.toString name)).map Raw.ofString
    | .error _ => none

/-- What a name means, in words. -/
def describe (s : Machine) (name : Raw) : Option Raw :=
  let state := s.current.state
  let word := String.ofList name
  match state.aliases.lookup word with
  | some value => some (" is an alias for ".toList ++ value)
  | none =>
    if reserved.contains word then some " is a shell keyword".toList
    else if isSpecialBuiltin word ∧ word ≠ "local" then
      some " is a special shell builtin".toList
    else if (state.functions.lookup word).isSome then some " is a shell function".toList
    else if isBuiltin word then some " is a shell builtin".toList
    else
      match state.tracked.lookup word with
      | some path => some (" is a tracked alias for ".toList ++ path)
      | none => (programPath? s name).map fun path => " is ".toList ++ path

/-- Where a program stands in the list of those that are remembered. -/
def hashBucket (name : String) : Nat :=
  let raw := Raw.ofString name
  let start := ((raw.head?.map Char.toNat).getD 0) * 16
  ((raw.foldl (fun n c => n + c.toNat) start) % 32768) % 31

/-- Remember where a program is. -/
def track (name path : Raw) : Step Unit :=
  modifyShell fun s =>
    { s with tracked := (String.ofList name, path) ::
               s.tracked.filter (·.1 != String.ofList name) }

/-- Remember where a program is that is named without a path, if it is one. -/
def trackName (name : Raw) : Step Unit := do
  let s ← get
  let word := String.ofList name
  let isOther := isBuiltin word || (s.current.state.functions.lookup word).isSome ||
    (s.current.state.aliases.lookup word).isSome || reserved.contains word
  if ¬ isOther ∧ ¬ name.contains '/' then
    match programPath? s name with
    | some path => track name path
    | none => pure ()

/-- Say what names mean. -/
def typeBuiltin : Builtin := fun arguments => do
  let s ← get
  let lines := arguments.map fun name => match describe s name with
    | some text => (name ++ text ++ ['\n'], true)
    | none => (name ++ ": not found\n".toList, false)
  arguments.forM trackName
  return (lines.flatMap Prod.fst, .done (if lines.all Prod.snd then 0 else 127))

/-- What a name means, as a script would write it. -/
def abbreviate (s : Machine) (name : Raw) : Option Raw :=
  let state := s.current.state
  let word := String.ofList name
  match state.aliases.lookup word with
  | some value => some ("alias ".toList ++ (aliasLine word value).dropLast)
  | none =>
    if reserved.contains word ∨ isBuiltin word ∨ (state.functions.lookup word).isSome then
      some name
    else programPath? s name

/-- Say what a name means; without an option there is nothing to be done. -/
def commandBuiltin : Builtin := fun arguments =>
  withOptions "command" "pvV" "" arguments fun o => do
    let s ← get
    match o.arguments with
    | [] => quietly 0
    | name :: _ =>
      trackName name
      if o.letters.contains 'V' then
        match describe s name with
        | some text => printing (name ++ text ++ ['\n'])
        | none => return (name ++ ": not found\n".toList, .done 127)
      else
        match abbreviate s name with
        | some text => printing (text ++ ['\n'])
        | none => quietly 127

/-- Remember where programs are, or list those that are remembered. -/
def hashBuiltin : Builtin := fun arguments =>
  withOptions "hash" "r" "" arguments fun o => do
    if o.letters.contains 'r' then
      modifyShell fun s => { s with tracked := [] }
      quietly 0
    else if o.arguments.isEmpty then
      let sorted := (← shell).tracked.mergeSort fun a b => hashBucket a.1 ≤ hashBucket b.1
      printing (sorted.flatMap fun (_, path) => path ++ ['\n'])
    else
      let s ← get
      let missing := o.arguments.filter fun name =>
        !isBuiltin (String.ofList name) && (programPath? s name).isNone
      for name in missing do
        warn "hash" (name ++ ": not found".toList)
      for name in o.arguments do
        trackName name
      quietly (if missing.isEmpty then 0 else 1)

/-! ## Limits -/

/-- The bits that a symbolic mode names: those of users, and those asked for. -/
def symbolicBits (users : List Char) (bits : Nat) : Nat :=
  let all := users.isEmpty || users.contains 'a'
  let of (user : Char) (shift : Nat) : Nat :=
    if all || users.contains user then bits <<< shift else 0
  of 'u' 6 ||| of 'g' 3 ||| of 'o' 0

/-- The bits of permission letters; letters of users stand for the bits that
these have. -/
def permissionBits? (mode : Nat) : List Char → Option Nat
  | [] => some 0
  | c :: rest =>
    let own : Option Nat := match c with
      | 'r' => some 4
      | 'w' => some 2
      | 'x' => some 1
      | 'X' => some (if mode &&& 0o111 ≠ 0 then 1 else 0)
      | 's' => some 0
      | 'u' => some (mode >>> 6 &&& 7)
      | 'g' => some (mode >>> 3 &&& 7)
      | 'o' => some (mode &&& 7)
      | _ => none
    match own, permissionBits? mode rest with
    | some a, some b => some (a ||| b)
    | _, _ => none

/-- Signs and letters that change the bits of some users; `before` are the bits in
front of all changes, those that letters of users stand for. -/
def applyClause (before : Nat) (users : List Char) : Nat → Nat → List Char → Option Nat
  | 0, mode, _ => some mode
  | fuel + 1, mode, text =>
    match text with
    | [] => some mode
    | sign :: rest =>
      let isSign (c : Char) : Bool := c == '+' || c == '-' || c == '='
      if ¬ isSign sign then none
      else
        let letters := rest.takeWhile (!isSign ·)
        match permissionBits? before letters with
        | none => none
        | some bits =>
          let bits := symbolicBits users bits
          let mode := match sign with
            | '+' => mode ||| bits
            | '-' => mode &&& (0o7777 - bits)
            | _ => (mode &&& (0o7777 - symbolicBits users 7)) ||| bits
          applyClause before users fuel mode (rest.drop letters.length)

/-- Bits after the changes of some clauses, the last of which may be empty. -/
def applyClauses (before : Nat) : Nat → List Raw → Option Nat
  | mode, [] => some mode
  | mode, clause :: more =>
    let users := clause.takeWhile fun c => "ugoa".toList.contains c
    let rest := clause.drop users.length
    if rest.isEmpty then if more.isEmpty ∧ users.isEmpty then some mode else none
    else
      match applyClause before users (rest.length + 1) mode rest with
      | none => none
      | some mode => applyClauses before mode more

/-- Bits after the changes that a symbolic mode asks for. -/
def applySymbolic? (mode : Nat) (raw : Raw) : Option Nat :=
  applyClauses mode mode (Raw.splitOn ',' raw)

/-- The permissions that a mask leaves, in words. -/
def symbolicMask (mask : Nat) : Raw :=
  let bits (shift : Nat) : Raw :=
    let n := 7 - (mask >>> shift &&& 7)
    (if n &&& 4 ≠ 0 then ['r'] else []) ++ (if n &&& 2 ≠ 0 then ['w'] else []) ++
      (if n &&& 1 ≠ 0 then ['x'] else [])
  "u=".toList ++ bits 6 ++ ",g=".toList ++ bits 3 ++ ",o=".toList ++ bits 0 ++ ['\n']

/-- Set the bits that new files do without, or print them. -/
def umaskBuiltin : Builtin := fun arguments =>
  withOptions "umask" "S" "" arguments fun o => do
    let s ← get
    let mask := s.current.mask
    let change (mask : Nat) : Step (Raw × Outcome) := do
      modify fun s => { s with current := { s.current with mask } }
      quietly 0
    match o.arguments with
    | [] =>
      if o.letters.contains 'S' then printing (symbolicMask mask)
      else printing (Raw.padStart 4 '0' (Raw.digits 8 mask) ++ ['\n'])
    | mode :: _ =>
      if mode.head?.any Char.isDigit then
        if mode.all Raw.isOctal then change (Raw.valueIn 8 mode % 0o1000)
        else refuse "umask" (badNumber mode)
      else if mode.isEmpty then quietly 0
      else
        match applySymbolic? (0o777 - mask) mode with
        | some mode => change (0o777 - mode % 0o1000)
        | none => refuse "umask" ("Illegal mode: ".toList ++ mode)

/-- Something that has a limit: its letter, its name, the unit in which the limit is given,
and the usual limit. -/
structure Resource where
  letter : Char
  name : String
  unit : Nat
  usual : Limit

/-- What has limits. -/
def resources : List Resource :=
  let none_ : Limit := ⟨none, none⟩
  let at_ (n : Nat) : Limit := ⟨some n, some n⟩
  [⟨'t', "time(seconds)", 1, none_⟩, ⟨'f', "file(blocks)", 512, none_⟩,
    ⟨'d', "data(kbytes)", 1024, none_⟩, ⟨'s', "stack(kbytes)", 1024, ⟨some 8388608, none⟩⟩,
    ⟨'c', "coredump(blocks)", 512, none_⟩, ⟨'m', "memory(kbytes)", 1024, none_⟩,
    ⟨'l', "locked memory(kbytes)", 1024, at_ 8388608⟩, ⟨'p', "process", 1, none_⟩,
    ⟨'n', "nofiles", 1, at_ 1048576⟩, ⟨'v', "vmemory(kbytes)", 1024, none_⟩,
    ⟨'w', "locks", 1, none_⟩, ⟨'r', "rtprio", 1, at_ 0⟩]

/-- The limit of something in its unit. -/
def Resource.render (r : Resource) (isHard : Bool) (limit : Limit) : Raw :=
  match if isHard then limit.hard else limit.soft with
  | none => "unlimited\n".toList
  | some n => Raw.ofNat (n / r.unit) ++ ['\n']

/-- Whether one bound is at most as great as another. -/
def isBoundedBy (a b : Option Nat) : Bool :=
  match a, b with
  | _, none => true
  | none, some _ => false
  | some a, some b => a ≤ b

/-- Print or set limits. -/
def ulimitBuiltin : Builtin := fun arguments =>
  withOptions "ulimit" "HSatfdscmlpnvwr" "" arguments fun o => do
    let how := (o.letters.filter fun c => c = 'H' ∨ c = 'S').getLast?
    let letter := ((o.letters.filter fun c => !"HSa".toList.contains c).getLast?).getD 'f'
    let changed := (← get).current.limits
    let limitOf (r : Resource) : Limit := (changed.lookup r.letter).getD r.usual
    let isHard : Bool := how = some 'H'
    let isAll := o.letters.contains 'a'
    match o.arguments, resources.find? (·.letter == letter) with
    | [], some r =>
      if isAll then
        printing (resources.flatMap fun r =>
          Raw.padEnd 20 ' ' r.name.toList ++ ' ' :: r.render isHard (limitOf r))
      else printing (r.render isHard (limitOf r))
    | [text], some r =>
      if isAll then refuse "ulimit" "too many arguments".toList
      else if text ≠ "unlimited".toList ∧ ¬ text.all Char.isDigit then
        refuse "ulimit" "bad number".toList
      else
        let value := if text = "unlimited".toList then none
          else some (Raw.valueIn 10 text * r.unit)
        let old := limitOf r
        let limit : Limit := ⟨if isHard then old.soft else value,
          if how = some 'S' then old.hard else value⟩
        let failing (why : String) : Step (Raw × Outcome) :=
          refuse "ulimit" ("error setting limit (".toList ++ why.toList ++ [')'])
        if ¬ isBoundedBy limit.soft limit.hard then failing "Invalid argument"
        else if ¬ isBoundedBy limit.hard old.hard then failing "Operation not permitted"
        else
          modify fun s => { s with current := { s.current with
            limits := (letter, limit) :: changed.filter (·.1 ≠ letter) } }
          quietly 0
    | _, _ => refuse "ulimit" "too many arguments".toList

/-- Print how long the shell has worked, which is no time. -/
def timesBuiltin : Builtin := fun _ =>
  printing "0m0.000000s 0m0.000000s\n0m0.000000s 0m0.000000s\n".toList

/-! ## Arguments -/

/-- What looking for the next option gives. -/
structure Found where
  letter : Char
  value : Option Raw
  isOver : Bool
  index : Nat
  cursor : Option Nat
  complaint : Raw

/-- What follows an option letter among others, each of which may have a colon after it. -/
def afterLetter (c : Char) : Raw → Option Raw
  | [] => none
  | d :: ':' :: rest => if d = c then some (':' :: rest) else afterLetter c rest
  | d :: rest => if d = c then some rest else afterLetter c rest

/-- The next option in some arguments. -/
def nextOption (letters : Raw) (arguments : List Raw) (index : Nat) (cursor : Option Nat) :
    Found :=
  let current := match cursor with
    | some n => (arguments[index - 2]?.getD []).drop n
    | none => []
  let start : Option (Raw × Nat) :=
    if 1 < index ∧ ¬ current.isEmpty then some (current, index)
    else
      match arguments[index - 1]? with
      | some ('-' :: c :: rest) =>
        if c = '-' ∧ rest.isEmpty then none else some (c :: rest, index + 1)
      | _ => none
  match start with
  | none =>
    let isMark := arguments[index - 1]? = some ['-', '-']
    ⟨'?', none, true, if isMark then index + 1 else index, none, []⟩
  | some ([], index) => ⟨'?', none, true, index, none, []⟩
  | some (c :: rest, index) =>
    let isSilent := letters.head? = some ':'
    let size := (arguments[index - 2]?.getD []).length
    let cursor := if rest.isEmpty then none else some (size - rest.length)
    match afterLetter c letters with
    | none =>
      if isSilent then ⟨'?', some [c], false, index, cursor, []⟩
      else ⟨'?', none, false, index, cursor, "Illegal option -".toList ++ [c, '\n']⟩
    | some (':' :: _) =>
      if ¬ rest.isEmpty then ⟨c, some rest, false, index, none, []⟩
      else
        match arguments[index - 1]? with
        | some value => ⟨c, some value, false, index + 1, none, []⟩
        | none =>
          if isSilent then ⟨':', some [c], false, index, none, []⟩
          else ⟨'?', none, false, index, none,
            "No arg for -".toList ++ [c] ++ " option\n".toList⟩
    | _ => ⟨c, some [], false, index, cursor, []⟩

/-- Give variables values one after the other, and complain about those that may
not be changed. -/
def assignAll (command : String) : List (String × Option Raw) → Step (Except Unit Unit)
  | [] => return .ok ()
  | (given, value) :: rest => do
    let name := String.ofList (given.toList.takeWhile (· ≠ '='))
    if ¬ Raw.isName name.toList then
      warn command (name.toList ++ ": bad variable name".toList)
      return .error ()
    else if (← shell).isReadOnly name then
      warn command (name.toList ++ ": is read only".toList)
      return .error ()
    else
      modifyShell fun s => match value with
        | some raw => s.assign name raw
        | none => s.dropVariable name
      assignAll command rest

/-- Look for the next option among arguments. -/
def getoptsBuiltin : Builtin := fun arguments => do
  let s ← shell
  match arguments with
  | letters :: name :: rest =>
    let searched := if rest.isEmpty then s.positional else rest
    let isPast : Bool := searched.length + 1 < s.optionIndex
    let found := nextOption letters searched (if isPast then 1 else s.optionIndex)
      (if isPast then none else s.cursor)
    writeError found.complaint
    let shown := if found.isOver then [] else [("OPTARG", found.value)]
    match ← assignAll "getopts" shown with
    | .error _ => return ([], .refused)
    | .ok _ =>
      modifyShell fun s =>
        { s.assign "OPTIND" (Raw.ofNat found.index) with
          optionIndex := found.index, cursor := found.cursor }
      match ← assignAll "getopts" [(String.ofList name, some [found.letter])] with
      | .error _ => return ([], .refused)
      | .ok _ => quietly (if found.isOver then 1 else 0)
  | _ => refuse "getopts" "Usage: getopts optstring var [arg...]".toList

/-- Read a line of the input into variables. -/
def readBuiltin : Builtin := fun arguments =>
  withOptions "read" "r" "p" arguments fun o => do
    match o.arguments with
    | [] => refuse "read" "arg count".toList
    | names =>
      push (.read (names.map String.ofList) (o.letters.contains 'r') [])
      return ([], .begun)

/-! ## The table -/

/-- The builtin command of some name, apart from the one that replaces the
shell. -/
def builtin? (name : String) : Option Builtin :=
  match name with
  | ":" => some fun _ => quietly 0
  | "true" => some fun _ => quietly 0
  | "false" => some fun _ => quietly 1
  | "echo" => some echoBuiltin
  | "printf" => some printfBuiltin
  | "test" => some (testBuiltin "test")
  | "[" => some (testBuiltin "[")
  | "cd" => some cdBuiltin
  | "pwd" => some pwdBuiltin
  | "export" => some (markBuiltin "export" (fun v => { v with isExported := true })
      Variable.isExported)
  | "readonly" => some (markBuiltin "readonly" (fun v => { v with isReadOnly := true })
      Variable.isReadOnly)
  | "local" => some localBuiltin
  | "unset" => some unsetBuiltin
  | "set" => some setBuiltin
  | "shift" => some shiftBuiltin
  | "exit" => some (endingBuiltin "exit" .exit)
  | "return" => some (endingBuiltin "return" .back)
  | "break" => some (loopBuiltin "break" .leave)
  | "continue" => some (loopBuiltin "continue" .again)
  | "eval" => some evalBuiltin
  | "." => some sourceBuiltin
  | "trap" => some trapBuiltin
  | "kill" => some killBuiltin
  | "wait" => some waitBuiltin
  | "jobs" => some jobsBuiltin
  | "fg" => some (resumeBuiltin "fg")
  | "bg" => some (resumeBuiltin "bg")
  | "alias" => some aliasBuiltin
  | "unalias" => some unaliasBuiltin
  | "type" => some typeBuiltin
  | "command" => some commandBuiltin
  | "hash" => some hashBuiltin
  | "umask" => some umaskBuiltin
  | "ulimit" => some ulimitBuiltin
  | "times" => some timesBuiltin
  | "getopts" => some getoptsBuiltin
  | "read" => some readBuiltin
  | _ => none

end Shell
end MakeTen
