import MakeTen.Host.Search
import MakeTen.Process.Machine
import MakeTen.Shell.Builtin
import MakeTen.Tool.Programs
/-!
# Starting programs

A process becomes a program: a shell, a program that does a job, or a script
that names the program that is to carry it out.

Main definitions:

- Function `Machine.become`: let the current process be a program.
- Function `Shell.readCall`: what a shell makes of its arguments.
-/

namespace MakeTen

/-! ## Shells -/

namespace Shell

/-- Where a shell gets its commands from. -/
inductive ScriptSource where
  /-- They are given. -/
  | text (raw : Raw)
  | file (path : Raw)
  | input

/-- What a shell makes of its arguments. -/
structure ShellCall where
  source : ScriptSource
  name : Raw
  positional : List Raw
  options : List String

/-- Options of a shell on their way, and whether commands are given. -/
structure CallOptions where
  options : List String
  isText : Bool

/-- Read the letters of an option argument. -/
def readLetters (isOn : Bool) (o : CallOptions) : Raw → List Raw →
    Except Raw (CallOptions × List Raw)
  | [], rest => .ok (o, rest)
  | letter :: letters, rest =>
    let set (name : String) : CallOptions :=
      let others := o.options.filter (· ≠ name)
      { o with options := if isOn then name :: others else others }
    if letter = 'c' then readLetters isOn { o with isText := true } letters rest
    else if letter = 'l' then readLetters isOn o letters rest
    else if letter = 'o' then
      match rest with
      | [] => readLetters isOn o letters []
      | name :: rest =>
        if optionNames.any (·.1.toList = name) then
          readLetters isOn (set (String.ofList name)) letters rest
        else .error ("Illegal option -o ".toList ++ name)
    else
      match optionNames.find? (·.2 = some letter) with
      | some (name, _) => readLetters isOn (set name) letters rest
      | none => .error (badOption letter)

/-- Read the option arguments of a shell. -/
def readCallOptions : Nat → CallOptions → List Raw → Except Raw (CallOptions × List Raw)
  | 0, o, arguments => .ok (o, arguments)
  | fuel + 1, o, arguments =>
    match arguments with
    | ['-'] :: rest => .ok (o, rest)
    | ['-', '-'] :: rest => .ok (o, rest)
    | ('-' :: letters) :: rest => do
      let (o, rest) ← readLetters true o letters rest
      readCallOptions fuel o rest
    | ('+' :: letters) :: rest => do
      let (o, rest) ← readLetters false o letters rest
      readCallOptions fuel o rest
    | arguments => .ok (o, arguments)

/-- What a shell of some name makes of its arguments. -/
def readCall (name : Raw) (arguments : List Raw) : Except Raw ShellCall := do
  let (o, rest) ← readCallOptions (arguments.length + 1) ⟨[], false⟩ arguments
  if o.isText then
    match rest with
    | [] => .error "-c requires an argument".toList
    | script :: more =>
      return ⟨.text script, more.head?.getD name, more.drop 1, o.options⟩
  else if o.options.contains "stdin" then return ⟨.input, name, rest, o.options⟩
  else
    match rest with
    | [] => return ⟨.input, name, [], "stdin" :: o.options⟩
    | path :: positional => return ⟨.file path, path, positional, o.options⟩

end Shell

namespace Machine

/-- The working directory by the names that a variable gives it, if these lead
there. -/
def startDirectory (s : Machine) (environment : List (Raw × Raw)) : Raw :=
  let usual := Shell.placePath s.current.place
  match environment.lookup "PWD".toList with
  | some path =>
    let isSame := Shell.directoryPlace? s.view path == some s.current.place
    if path.head? = some '/' && isSame then path else usual
  | none => usual

/-- Let the current process be a shell with some script. -/
def setShell (call : Shell.ShellCall) (script : Option (Bool × Raw))
    (environment : List (Raw × Raw)) : Step Unit :=
  modify fun s =>
    let p := s.current
    let fresh := Shell.State.fresh call.name environment p.number p.parent
      (s.startDirectory environment)
    let state := { fresh with positional := call.positional, options := call.options }
    let frame : Shell.Frame := match script with
      | some (isShown, raw) => .script (Shell.lineEnds raw) isShown raw
      | none => .input []
    { s with current := { p with activity := none, state, frames := [frame], outputs := [] } }

/-- Let the current process end with a complaint of a shell that has not
started. -/
def refuseShell (name text : Raw) : Step Unit := do
  writeError (name ++ ": 0: ".toList ++ text ++ ['\n'])
  finish (.exit 2)

/-- Turn off what a shell can do only at a terminal. -/
def withoutTerminal (name : Raw) (call : Shell.ShellCall) : Step Shell.ShellCall := do
  if ¬ call.options.contains "monitor" then return call
  writeError (name ++ ": 0: can't access tty; job control turned off\n".toList)
  return { call with options := call.options.filter (· ≠ "monitor") }

/-- Let the current process be a shell. -/
def becomeShell (words : List Raw) (environment : List (Raw × Raw)) : Step Unit := do
  let name := words.head?.getD []
  match Shell.readCall name (words.drop 1) with
  | .error text => refuseShell name text
  | .ok call =>
    let call ← withoutTerminal name call
    match call.source with
    | .text raw => setShell call (some (false, raw)) environment
    | .input => setShell call none environment
    | .file path =>
      match (← get).view.read (Raw.toString path) with
      | .ok bytes => setShell call (some (true, Raw.ofBytes bytes)) environment
      | .error .isDirectory => setShell call (some (true, [])) environment
      | .error fault =>
        refuseShell name
          ("cannot open ".toList ++ path ++ ": ".toList ++ Shell.openingFault fault)

/-- Let the current process do a job. -/
def becomeJob (job : Tool.Job Unit) (words : List Raw) (environment : List (Raw × Raw)) :
    Step Unit :=
  modify fun s =>
    let p := s.current
    let inputFault : Option HostFault := match s.handleOf? p 0 with
      | none => some .badDescriptor
      | some (.file place _ _) =>
        if s.files.at? place = some .directory then some .isDirectory else none
      | some _ => none
    let call : Tool.Call :=
      { name := words.head?.getD []
        arguments := words.drop 1
        environment
        descriptors := s.openedAll
        number := p.number
        parent := p.parent
        clock := s.clock
        inputFault }
    let activity : Activity := ⟨job, call, [], false, [], 0, none, none⟩
    { s with current := { p with activity := some activity, frames := [], outputs := [] } }

/-- What the first line of a script names: a program, and perhaps an argument
for it. -/
def scriptProgram? (bytes : List UInt8) : Option (Raw × List Raw) :=
  match Raw.ofBytes bytes with
  | '#' :: '!' :: rest =>
    let line := Raw.trim (rest.takeWhile (· ≠ '\n'))
    let program := line.takeWhile (!Raw.isBlank ·)
    let argument := Raw.trim (line.drop program.length)
    some (program, if argument.isEmpty then [] else [argument])
  | _ => none

/-- How many scripts may be carried out by scripts. -/
def scriptLimit : Nat := 5

/-- Let the current process be the program at a place, unless that is refused.
The path is the one by which a script is told about itself. -/
def becomeWithin : Nat → List String → Raw → List Raw → List (Raw × Raw) →
    Step (Option HostFault)
  | 0, _, _, _, _ => return some .tooManyLinks
  | fuel + 1, place, path, words, environment => do
    let s ← get
    set { s with current := { s.current with
            descriptors := s.current.descriptors.filter (·.1 < 10) } }
    match s.files.at? place with
    | some (.program name) =>
      if Tool.shellNames.contains name then
        becomeShell words environment
        return none
      else
        match Tool.program? name with
        | some job =>
          becomeJob job words environment
          return none
        | none => return some .missing
    | some (.file bytes) =>
      match scriptProgram? bytes with
      | none => return some .notRunnable
      | some (program, argument) =>
        match s.view.runnableAt (Raw.toString program) with
        | .error fault => return some fault
        | .ok next =>
          becomeWithin fuel next program (program :: argument ++ path :: words.drop 1) environment
    | _ => return some .denied

/-- Let the current process be the program at a place, unless that is refused. -/
def become (place : List String) (path : Raw) (words : List Raw)
    (environment : List (Raw × Raw)) : Step (Option HostFault) :=
  if fitsArguments path words environment then
    becomeWithin scriptLimit place path words environment
  else return some .argumentsTooLong

/-- Let the current process be the program at a place.  A file that is no program
and names none is a script of the usual shell. -/
def becomeOrShell (place : List String) (path : Raw) (words : List Raw)
    (environment : List (Raw × Raw)) : Step (Option HostFault) := do
  match ← become place path words environment with
  | some .notRunnable =>
    becomeShell ("/bin/sh".toList :: path :: words.drop 1) environment
    return none
  | answer => return answer

end Machine
end MakeTen
