import MakeTen.Host.Files
import MakeTen.Text.Quoting
/-!
# Jobs

A program that is no shell does a job.  The job sees how it was called, the
files, and as much of its input as there is yet; it writes to its descriptors
and changes files.  Where it needs something that only time can bring (more
input, the end of a pause, the end of another program), it stops, and it is done
once more from its start when that has come.  So a job is a function of what is
known to it, and what it writes early does not depend on what comes late.

Main definitions:

- Structure `Tool.Call`: how a program is called.
- Structure `Tool.Desk`: what a job has before it.
- Type `Tool.Job`: steps that may stop.
- Functions `Tool.say`, `Tool.complain`, `Tool.readAll`, `Tool.ask`: the usual
  steps.
-/

namespace MakeTen
namespace Tool

/-! ## Calls -/

/-- What a descriptor leads to. -/
inductive Opened where
  | pipe
  | device (device : Device)
  | file (place : List String)
  deriving Repr, DecidableEq

/-- How a program is called. -/
structure Call where
  /-- The name that it was called by. -/
  name : Raw
  arguments : List Raw
  /-- The variables that it is given. -/
  environment : List (Raw × Raw)
  /-- What its descriptors lead to. -/
  descriptors : List (Nat × Opened)
  /-- Its number among the processes of the host, and that of the process that
  started it. -/
  number : Nat
  parent : Nat
  /-- The time at which it was started, in nanoseconds. -/
  clock : Nat
  /-- Why there is no input, if there is a reason. -/
  inputFault : Option HostFault

/-- The value of a variable. -/
def Call.valueOf? (c : Call) (name : String) : Option Raw :=
  c.environment.lookup name.toList

/-! ## Requests -/

/-- Where a program that is started by another one gets its input from. -/
inductive Source where
  /-- From where the other one gets it. -/
  | shared
  /-- There is none. -/
  | nothing
  /-- It is given. -/
  | given (raw : Raw)

/-- A program that is to be started. -/
structure Start where
  words : List Raw
  environment : List (Raw × Raw)
  input : Source
  /-- Whether its output goes to the one who asks. -/
  isCaught : Bool
  /-- When it is sent which signals, in nanoseconds from its start. -/
  limits : List (Nat × Nat)
  /-- Whether output that is held back stays so until it is over. -/
  holdsOutput : Bool

/-- What a job is told in reply. -/
structure Answer where
  /-- The status of the program that was started. -/
  status : Nat
  /-- Whether a signal has ended it. -/
  isKilled : Bool
  /-- The signals that it was sent because its time was over, the latest first. -/
  sent : List Nat
  /-- Its output, if that was asked for. -/
  output : Raw
  /-- The files as they are then. -/
  files : Files

/-- Why a job stops. -/
inductive Stop where
  /-- It is over. -/
  | exit (status : Nat)
  /-- It is ended by a signal that it sends itself. -/
  | signal (number : Nat)
  /-- It needs more input. -/
  | input
  /-- It waits for some nanoseconds. -/
  | pause (duration : Nat)
  /-- It waits for another program. -/
  | start (start : Start)
  /-- Another program takes its place, perhaps in another directory. -/
  | become (words : List Raw) (environment : List (Raw × Raw)) (directory : Option Raw)

/-! ## Jobs -/

/-- Something written to a descriptor. -/
structure Write where
  descriptor : Nat
  raw : Raw

/-- What a job has before it. -/
structure Desk where
  call : Call
  files : Files
  /-- The input that has not been used. -/
  input : Raw
  /-- Whether there is no more input to come. -/
  isEnded : Bool
  /-- Replies that have not been used. -/
  answers : List Answer
  /-- What has been written, the latest first. -/
  writes : List Write
  /-- Output that has not been written yet, the latest first, and its length. -/
  held : List Raw
  heldSize : Nat
  /-- Whether input that is not used is left for others, even in a pipe. -/
  returnsInput : Bool

/-- Steps that may stop. -/
abbrev Job := ExceptT Stop (StateM Desk)

/-- How many bytes of output are held back before they are written. -/
def holdLimit : Nat := 4096

/-! ## Writing -/

/-- Write what is held back. -/
def flush : Job Unit :=
  modify fun d =>
    if d.held.isEmpty then d
    else { d with writes := ⟨1, d.held.reverse.flatten⟩ :: d.writes, held := [], heldSize := 0 }

/-- Write to a descriptor at once. -/
def put (descriptor : Nat) (raw : Raw) : Job Unit :=
  if raw.isEmpty then pure ()
  else modify fun d => { d with writes := ⟨descriptor, raw⟩ :: d.writes }

/-- Write to the output, in large pieces. -/
def say (raw : Raw) : Job Unit := do
  modify fun d => { d with held := raw :: d.held, heldSize := d.heldSize + raw.length }
  if holdLimit ≤ (← get).heldSize then flush

/-- Write a line to the output. -/
def sayLine (raw : Raw) : Job Unit :=
  say (raw ++ ['\n'])

/-- Write a line to the error output. -/
def grumble (raw : Raw) : Job Unit :=
  put 2 (raw ++ ['\n'])

/-- The name of a program without the directories that it is in. -/
def Call.shortName (c : Call) : Raw :=
  ((c.name.reverse.takeWhile (· ≠ '/')).reverse)

/-- Complain under the program's name. -/
def complain (raw : Raw) : Job Unit := do
  grumble ((← get).call.name ++ ": ".toList ++ raw)

/-! ## Stopping -/

/-- End the job. -/
def exit {α : Type} (status : Nat) : Job α := do
  flush
  throw (.exit status)

/-- End the job after a complaint. -/
def giveUp {α : Type} (status : Nat) (raw : Raw) : Job α := do
  complain raw
  exit status

/-- Complain and point to the help text, and end the job. -/
def giveUsage {α : Type} (status : Nat) (raw : Raw) : Job α := do
  complain raw
  grumble ("Try '".toList ++ (← get).call.name ++ " --help' for more information.".toList)
  exit status

/-- Wait for the reply to a request, with output held back. -/
def askHolding (stop : Stop) : Job Answer := do
  match (← get).answers with
  | answer :: rest =>
    modify fun d => { d with answers := rest, files := answer.files }
    return answer
  | [] => throw stop

/-- Wait for the reply to a request. -/
def ask (stop : Stop) : Job Answer := do
  flush
  askHolding stop

/-- Take all of the input. -/
def readAll : Job Raw := do
  let d ← get
  if d.isEnded then
    set { d with input := [] }
    return d.input
  else throw .input

/-- What there is of the input up to a character, without it, and whether it is there,
or nothing if there is no more input. -/
def readUntil? (ending : Char) : Job (Option (Raw × Bool)) := do
  let d ← get
  let line := d.input.takeWhile (· ≠ ending)
  match d.input.drop line.length with
  | _ :: rest =>
    set { d with input := rest }
    return some (line, true)
  | [] =>
    if ¬ d.isEnded then throw .input
    else if line.isEmpty then return none
    else
      set { d with input := [] }
      return some (line, false)

/-- The next line of the input without its end and whether it has one, or nothing
if there is no more. -/
def readLine? : Job (Option (Raw × Bool)) :=
  readUntil? '\n'

/-! ## Files -/

/-- What a path leads to. -/
def node? (path : Raw) : Job (Option FileNode) := do
  return (← get).files.node? (Raw.toString path)

/-- How much of a device without an end is looked at. -/
def deviceSize : Nat := 65536

/-- The next state of random numbers. -/
def nextRandom (state : UInt64) : UInt64 :=
  state * 6364136223846793005 + 1442695040888963407

/-- Random characters, as many as are looked at. -/
def randomText (seed : Nat) : Raw :=
  ((List.replicate deviceSize ()).foldl (fun (raw, state) _ =>
    let state := nextRandom state
    (Char.ofNat (state >>> 40).toUInt8.toNat :: raw, state))
    (([] : Raw), nextRandom (UInt64.ofNat seed))).1

/-- The contents of the file of a path. -/
def contents (path : Raw) : Job (Except HostFault Raw) := do
  let d ← get
  match d.files.node? (Raw.toString path) with
  | some (.device (.descriptor n)) =>
    match d.call.descriptors.lookup n with
    | none => return .error .missing
    | some (.file place) =>
      match d.files.at? place with
      | some (.file bytes) => return .ok (Raw.ofBytes bytes)
      | _ => return .ok []
    | some _ => if n = 0 then return .ok (← readAll) else return .ok []
  | some (.device .zero) => return .ok (List.replicate deviceSize Raw.nul)
  | some (.device .full) => return .ok (List.replicate deviceSize Raw.nul)
  | some (.device .random) => return .ok (randomText (d.call.clock + d.call.number))
  | _ => return (d.files.read (Raw.toString path)).map Raw.ofBytes

/-- The contents of the file of an operand, where a hyphen means the input. -/
def operand (path : Raw) : Job (Except HostFault Raw) := do
  if path = ['-'] then
    match (← get).call.inputFault with
    | some fault => return .error fault
    | none => return .ok (← readAll)
  else contents path

/-- Write to the file of a path, in place of its contents or after them. -/
def store (path : Raw) (append : Bool) (raw : Raw) : Job (Except HostFault Unit) := do
  let d ← get
  match d.files.node? (Raw.toString path) with
  | some (.device (.descriptor n)) =>
    if (d.call.descriptors.lookup n).isNone then return .error .missing
    else
      flush
      put n raw
      return .ok ()
  | _ =>
    match d.files.write (Raw.toString path) append (Raw.toBytes raw) with
    | .ok files =>
      set { d with files }
      return .ok ()
    | .error fault => return .error fault

/-- A fault in words. -/
def faultText (fault : HostFault) : Raw :=
  fault.text.toList

end Tool
end MakeTen
