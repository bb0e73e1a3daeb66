import MakeTen.Host.Files
import MakeTen.Host.Signal
import MakeTen.Shell.Command
/-!
# The state of a shell

What a shell remembers from one command to the next: variables, functions and
aliases, options, the status of the last command, and what is to be done on
signals.

Main definitions:

- Structure `Shell.State`: the state.
- Functions `State.value?` and `State.assign`: parameters and variables.
- Function `State.complaint`: a complaint as the shell words it.
-/

namespace MakeTen
namespace Shell

/-! ## Signals -/

/-- The number of a signal by its number or name, in any case of letters. -/
def signal? (raw : Raw) : Option Nat :=
  match Raw.toNat? raw with
  | some n => if n < Signal.bound then some n else none
  | none => Signal.names.lookup (String.ofList (raw.map Char.toUpper))

/-- The name of a signal; some have only a number. -/
def signalName (signal : Nat) : Raw :=
  let counted (name : String) (n : Nat) : Raw :=
    name.toList ++ (if n = 0 then [] else Raw.ofNat n)
  if signal = 0 ∨ signal = 16 then Raw.ofNat signal
  else if 34 ≤ signal ∧ signal < 50 then
    counted (if signal = 34 then "RTMIN" else "RTMIN+") (signal - 34)
  else if 50 ≤ signal then counted (if signal = 64 then "RTMAX" else "RTMAX-") (64 - signal)
  else
    match Signal.name? signal with
    | some name => name.toList
    | none => Raw.ofNat signal

/-- Whether a signal does nothing to a program that takes no care of it. -/
def isHarmless (signal : Nat) : Bool :=
  [0, 17, 18, 19, 20, 21, 22, 23, 28].contains signal

/-- What is said of a program that a signal has ended. -/
def signalReport (signal : Nat) : Raw :=
  match signal with
  | 1 => "Hangup".toList
  | 3 => "Quit".toList
  | 4 => "Illegal instruction".toList
  | 5 => "Trace/breakpoint trap".toList
  | 6 => "Aborted".toList
  | 7 => "Bus error".toList
  | 8 => "Floating point exception".toList
  | 9 => "Killed".toList
  | 10 => "User defined signal 1".toList
  | 11 => "Segmentation fault".toList
  | 12 => "User defined signal 2".toList
  | 14 => "Alarm clock".toList
  | 15 => "Terminated".toList
  | 16 => "Stack fault".toList
  | 24 => "CPU time limit exceeded".toList
  | 25 => "File size limit exceeded".toList
  | 26 => "Virtual timer expired".toList
  | 27 => "Profiling timer expired".toList
  | 29 => "I/O possible".toList
  | 30 => "Power failure".toList
  | 31 => "Bad system call".toList
  | n =>
    if 34 ≤ n then "Real-time signal ".toList ++ Raw.ofNat (n - 34)
    else "Unknown signal ".toList ++ Raw.ofNat n

/-! ## Options -/

/-- The options of a shell in their order: names, and letters where there are
any. -/
def optionNames : List (String × Option Char) :=
  [("errexit", some 'e'), ("noglob", some 'f'), ("ignoreeof", some 'I'),
    ("interactive", some 'i'), ("monitor", some 'm'), ("noexec", some 'n'),
    ("stdin", some 's'), ("xtrace", some 'x'), ("verbose", some 'v'), ("vi", some 'V'),
    ("emacs", some 'E'), ("noclobber", some 'C'), ("allexport", some 'a'), ("notify", some 'b'),
    ("nounset", some 'u'), ("privileged", some 'p'), ("nolog", none), ("debug", none)]

/-! ## States -/

/-- What a shell knows of a variable. -/
structure Variable where
  value : Option Raw
  /-- Whether programs get it. -/
  isExported : Bool
  isReadOnly : Bool

/-- A variable that has a value only. -/
def Variable.plain (value : Raw) : Variable :=
  ⟨some value, false, false⟩

/-- A command in the background, as the shell remembers it. -/
structure BackgroundJob where
  /-- The number that it goes by. -/
  slot : Nat
  process : Nat
  /-- How many commands it joins by pipes. -/
  stages : Nat
  /-- Whether the shell has noticed its end, and whether that has been waited for. -/
  isReaped : Bool
  isWaited : Bool

/-- What a shell remembers. -/
structure State where
  /-- The name that the shell goes by. -/
  name : Raw
  positional : List Raw
  bindings : List (String × Variable)
  functions : List (String × Command)
  aliases : List (String × Raw)
  /-- The names of the options that are on. -/
  options : List String
  /-- Status of the last command. -/
  status : Nat
  /-- Status of the last command whose output was put into the current one. -/
  substituted : Option Nat
  /-- What is done on a signal; zero is the end of the shell. -/
  traps : List (Nat × Raw)
  /-- Signals that have come and are to be taken care of. -/
  pending : List Nat
  /-- The current line. -/
  line : Nat
  /-- What complaints start with inside a builtin command that runs others. -/
  lead : Raw
  /-- The number of the shell among the processes of its host, and that of the
  process that started it. -/
  number : Nat
  parent : Nat
  /-- The last process that was started in the background. -/
  background : Option Nat
  /-- What was started in the background, the current job first. -/
  jobs : List BackgroundJob
  /-- The argument that the search for options has come to, and where it is
  within a group of letters. -/
  optionIndex : Nat
  cursor : Option Nat
  /-- The working directory by the names that led to it. -/
  directory : Raw
  /-- Programs that have been found, and where. -/
  tracked : List (String × Raw)
  /-- How many loops are being turned. -/
  loops : Nat
  /-- How many functions are being called. -/
  calls : Nat
  /-- Whether a failing command is looked at by another one. -/
  isShielded : Bool
  /-- The variables that the current function hides, the latest first. -/
  hidden : List (String × Option Variable)

namespace State

/-! ## Options -/

/-- Whether an option is on. -/
def has (s : State) (option : String) : Bool :=
  s.options.contains option

/-- The state with an option on or off. -/
def setOption (s : State) (option : String) (isOn : Bool) : State :=
  let others := s.options.filter (· ≠ option)
  { s with options := if isOn then option :: others else others }

/-- The letters of the options that are on, the last ones first. -/
def optionLetters (s : State) : Raw :=
  ((optionNames.filter (s.options.contains ·.1)).filterMap (·.2)).reverse

/-! ## Complaints -/

/-- The number of the next job: the first one that no job has, or only one that has been
waited for. -/
def freeSlot (s : State) : Nat :=
  let isFree (n : Nat) : Bool := s.jobs.all fun j => j.slot != n || j.isWaited
  (((List.range s.jobs.length).map (· + 1)).find? isFree).getD (s.jobs.length + 1)

/-- The job that goes by some name. -/
def jobNamed? (s : State) (name : Raw) : Option BackgroundJob :=
  match name with
  | ['%'] => s.jobs.head?
  | ['%', '%'] => s.jobs.head?
  | ['%', '+'] => s.jobs.head?
  | ['%', '-'] => s.jobs[1]?
  | '%' :: digits => (Raw.toNat? digits).bind fun n => s.jobs.find? (·.slot == n)
  | _ => none

/-- How the shell puts its name and the line in front of a complaint. -/
def complaintName (s : State) : Raw :=
  s.name ++ ": ".toList ++ Raw.ofNat s.line

/-- A complaint of a builtin command, which names itself. -/
def report (s : State) (text : Raw) : Raw :=
  s.complaintName ++ ": ".toList ++ text ++ ['\n']

/-- A complaint of the shell. -/
def complaint (s : State) (text : Raw) : Raw :=
  s.report (s.lead ++ text)

/-! ## Parameters -/

/-- A variable, with or without a value. -/
def valueOf? (s : State) (name : String) : Option Variable :=
  s.bindings.lookup name

/-- The value of a variable. -/
def lookup? (s : State) (name : String) : Option Raw :=
  (s.valueOf? name).bind Variable.value

/-- The value of a parameter, unless it is one of the two lists. -/
def value? (s : State) (name : String) : Option Raw :=
  match name with
  | "#" => some (Raw.ofNat s.positional.length)
  | "?" => some (Raw.ofNat s.status)
  | "$" => some (Raw.ofNat s.number)
  | "-" => some s.optionLetters
  | "!" => s.background.map Raw.ofNat
  | _ =>
    match Raw.toNat? name.toList with
    | some 0 => some s.name
    | some n => s.positional[n - 1]?
    | none => s.lookup? name

/-- A list of variables with another one in place of one or at its end. -/
def replaceIn (name : String) (v : Variable) : List (String × Variable) →
    List (String × Variable)
  | [] => [(name, v)]
  | (other, w) :: rest =>
    if other = name then (name, v) :: rest else (other, w) :: replaceIn name v rest

/-- The state with a variable set in every respect. -/
def setVariable (s : State) (name : String) (v : Variable) : State :=
  { s with bindings := replaceIn name v s.bindings }

/-- The state without a variable. -/
def dropVariable (s : State) (name : String) : State :=
  { s with bindings := s.bindings.filter (·.1 ≠ name) }

/-- Whether a variable may not be changed. -/
def isReadOnly (s : State) (name : String) : Bool :=
  (s.valueOf? name).any Variable.isReadOnly

/-- The state with another value of a variable, whether it may be changed or
not. -/
def assign (s : State) (name : String) (value : Raw) : State :=
  let before := (s.valueOf? name).getD ⟨none, false, false⟩
  let s := if name = "OPTIND" then
      { s with optionIndex := max 1 ((Raw.toNat? value).getD 1), cursor := none }
    else if name = "PATH" then { s with tracked := [] }
    else s
  s.setVariable name
    { before with value := some value, isExported := before.isExported || s.has "allexport" }

/-- The characters that separate fields. -/
def separators (s : State) : Raw :=
  (s.lookup? "IFS").getD [' ', '\t', '\n']

/-- What is between the positional parameters where they become one text. -/
def joint (s : State) : Raw :=
  s.separators.take 1

/-- How many groups variables are kept in. -/
def bucketCount : Nat := 39

/-- The group that a variable is kept in, by its name. -/
def bucketOf (name : Raw) : Nat :=
  let first := (name.head?.map Char.toNat).getD 0
  (16 * first + (name.map Char.toNat).foldl (· + ·) 0) % bucketCount

/-- The variables that programs get, group by group. -/
def environment (s : State) : List (Raw × Raw) :=
  let given := s.bindings.filterMap fun (name, v) =>
    if v.isExported then v.value.map fun value => (name.toList, value) else none
  let rank (v : Raw × Raw) : Nat :=
    2 * bucketOf v.1 + if v.1 = "PATH".toList then 0 else 1
  given.mergeSort fun a b => rank a ≤ rank b

/-- The state with a variable as it was, or without it. -/
def restore (s : State) (saved : String × Option Variable) : State :=
  match saved with
  | (name, some v) => s.setVariable name v
  | (name, none) => s.dropVariable name

/-! ## Starting -/

/-- Where a function that calls itself is stopped. -/
def callLimit : Nat := 1000

/-- The variables that every shell has. -/
def usualVariables : List (String × Variable) :=
  [("IFS", .plain [' ', '\t', '\n']), ("OPTIND", .plain ['1']),
    ("PATH", .plain Files.searchPath.toList), ("PS1", .plain "# ".toList),
    ("PS2", .plain "> ".toList), ("PS4", .plain "+ ".toList)]

/-- A shell that has just been started with some variables. -/
def fresh (name : Raw) (environment : List (Raw × Raw)) (number parent : Nat)
    (directory : Raw) : State :=
  let imported := environment.filter fun (name, _) =>
    Raw.isName name && name != "OPTIND".toList && name != "IFS".toList
  let bindings := imported.foldl (fun vs (name, value) =>
    replaceIn (String.ofList name) ⟨some value, true, false⟩ vs) usualVariables
  let bindings := replaceIn "PPID" (.plain (Raw.ofNat parent)) bindings
  let bindings := replaceIn "PWD" ⟨some directory, true, false⟩ bindings
  { name
    positional := []
    bindings
    functions := []
    aliases := []
    options := []
    status := 0
    substituted := none
    traps := []
    pending := []
    line := 1
    lead := []
    number
    parent
    background := none
    jobs := []
    optionIndex := 1
    cursor := none
    directory
    tracked := []
    loops := 0
    calls := 0
    isShielded := false
    hidden := [] }

end State
end Shell
end MakeTen
