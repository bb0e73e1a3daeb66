import MakeTen.Shell.Frame
import MakeTen.Tool.Job
/-!
# Processes

A host runs processes, each a shell or a program that does a job.  They share
files, pipes and a clock.  One process is the current one; it goes on until it
has to wait, and then the next one that can go on takes its turn.  Time passes
only while all of them wait.

Main definitions:

- Structure `Process`: one process.
- Structure `Machine`: all of them, and what they share.
- Type `Step`: steps of the current process.
- Functions `Machine.write` and `Machine.readSome`: use of descriptors.
-/

namespace MakeTen

/-! ## Pipes -/

/-- What is in a pipe.  New text is put at the back, the latest first. -/
structure Queue where
  front : Raw
  back : List Raw
  size : Nat

namespace Queue

/-- Nothing. -/
def empty : Queue := ⟨[], [], 0⟩

/-- A queue with more text. -/
def push (q : Queue) (raw : Raw) : Queue :=
  { q with back := raw :: q.back, size := q.size + raw.length }

/-- All of the text. -/
def toRaw (q : Queue) : Raw :=
  q.front ++ q.back.reverse.flatten

/-- A queue of some text. -/
def ofRaw (raw : Raw) : Queue :=
  ⟨raw, [], raw.length⟩

end Queue

/-- A pipe. -/
structure Pipe where
  queue : Queue
  /-- Whether something beside the descriptors of processes reads it. -/
  isKept : Bool

/-- How much a pipe takes before its writers have to wait. -/
def Pipe.limit : Nat := 65536

/-- What a descriptor leads to. -/
inductive Handle where
  | reader (pipe : Nat)
  | writer (pipe : Nat)
  /-- A file, how far it has been read or written, and whether everything is
  written at its end. -/
  | file (place : List String) (offset : Nat) (appends : Bool)
  | device (device : Device)

/-- A handle of the file at a place as one of the file at another place. -/
def Handle.moved (old new : List String) : Handle → Handle
  | .file place offset appends => .file (if place = old then new else place) offset appends
  | handle => handle

/-! ## Processes -/

/-- How a process has ended. -/
inductive ProcessEnd where
  | exit (status : Nat)
  | signal (number : Nat)
  deriving DecidableEq

/-- The status that a shell sees. -/
def ProcessEnd.status : ProcessEnd → Nat
  | .exit status => status
  | .signal number => 128 + number

/-- What a process waits for. -/
inductive Wait where
  | nothing
  /-- Something to read from a pipe. -/
  | input (pipe : Nat)
  /-- Room in a pipe. -/
  | room (pipe : Nat)
  /-- The end of all of some processes; a signal may end the wait as well. -/
  | processes (processes : List Nat) (isInterruptible : Bool)
  /-- The end of a process, or a time. -/
  | processUntil (process time : Nat)
  /-- A time. -/
  | time (time : Nat)

/-- What a job waits for before it is told something. -/
inductive Pending where
  /-- A time. -/
  | pause (time : Nat)
  /-- The end of a process; its output goes to a pipe if it is wanted.  There may
  be times at which it is sent signals; those that it was sent are kept. -/
  | child (process : Nat) (output : Option Nat) (limits : List (Nat × Nat)) (sent : List Nat)

/-- What a program is doing. -/
structure Activity where
  job : Tool.Job Unit
  call : Tool.Call
  /-- All input so far, the latest first. -/
  input : List Raw
  isEnded : Bool
  /-- All replies so far, the latest first. -/
  answers : List Tool.Answer
  /-- How many bytes have been written. -/
  written : Nat
  /-- The files as they were before the first reply. -/
  files : Option Files
  pending : Option Pending

/-- How much of something a process may use: the bound that holds, and how far that may
be raised.  Nothing stands for no bound. -/
structure Limit where
  soft : Option Nat
  hard : Option Nat

/-- A process. -/
structure Process where
  number : Nat
  parent : Nat
  /-- Numbers of handles. -/
  descriptors : List (Nat × Nat)
  place : List String
  mask : Nat
  /-- The limits that differ from the usual ones. -/
  limits : List (Char × Limit)
  /-- Signals that do nothing to it. -/
  ignored : List Nat
  wait : Wait
  /-- What it does if it is no shell. -/
  activity : Option Activity
  /-- What it remembers and has to do if it is a shell. -/
  state : Shell.State
  frames : List Shell.Frame
  /-- Outputs for the expansion on its way. -/
  outputs : List (Raw × Nat)

/-- All processes and what they share. -/
structure Machine where
  files : Files
  handles : Array Handle
  pipes : Array Pipe
  /-- The time in nanoseconds. -/
  clock : Nat
  current : Process
  /-- The other processes, the next one first. -/
  others : List Process
  /-- Processes that have ended and that nobody has asked about. -/
  ended : List (Nat × ProcessEnd)
  /-- The number of the next process. -/
  nextNumber : Nat
  /-- Whether the current process has come to its end. -/
  isDone : Bool
  /-- Whether the current process has to wait. -/
  isBlocked : Bool

/-- Steps of the current process. -/
abbrev Step := StateM Machine

namespace Machine

/-! ## The current process -/

/-- The state of the shell that is the current process. -/
def shell : Step Shell.State := do
  return (← get).current.state

/-- Change the state of the shell. -/
def modifyShell (f : Shell.State → Shell.State) : Step Unit :=
  modify fun s => { s with current := { s.current with state := f s.current.state } }

/-- Put something on top of what the shell has to do. -/
def push (frame : Shell.Frame) : Step Unit :=
  modify fun s => { s with current := { s.current with frames := frame :: s.current.frames } }

/-- Replace all that the shell has to do. -/
def setFrames (frames : List Shell.Frame) : Step Unit :=
  modify fun s => { s with current := { s.current with frames } }

/-- Give a status. -/
def setStatus (status : Nat) : Step Unit :=
  modifyShell fun s => { s with status }

/-- The files as the current process sees them. -/
def view (s : Machine) : Files :=
  { s.files with here := s.current.place, mask := s.current.mask }

/-- Let the current process wait. -/
def block (wait : Wait) : Step Unit :=
  modify fun s => { s with current := { s.current with wait }, isBlocked := true }

/-! ## Handles -/

/-- The handle of a descriptor of a process. -/
def handleOf? (s : Machine) (p : Process) (descriptor : Nat) : Option Handle :=
  (p.descriptors.lookup descriptor).bind fun n => s.handles[n]?

/-- Whether some process can write into a pipe. -/
def hasWriter (s : Machine) (pipe : Nat) : Bool :=
  (s.current :: s.others).any fun p =>
    p.descriptors.any fun (_, n) =>
      match s.handles[n]? with
      | some (.writer m) => m == pipe
      | _ => false

/-- Whether somebody can read from a pipe. -/
def hasReader (s : Machine) (pipe : Nat) : Bool :=
  (s.pipes[pipe]?).any Pipe.isKept ||
    (s.current :: s.others).any fun p =>
      p.descriptors.any fun (_, n) =>
        match s.handles[n]? with
        | some (.reader m) => m == pipe
        | _ => false

/-- How much is in a pipe. -/
def pipeSize (s : Machine) (pipe : Nat) : Nat :=
  ((s.pipes[pipe]?).map fun p => p.queue.size).getD 0

/-- Replace what is in a pipe. -/
def setQueue (s : Machine) (pipe : Nat) (queue : Queue) : Machine :=
  { s with pipes := s.pipes.modify pipe fun p => { p with queue } }

/-- Add text to a pipe. -/
def pushPipe (s : Machine) (pipe : Nat) (raw : Raw) : Machine :=
  { s with pipes := s.pipes.modify pipe fun p => { p with queue := p.queue.push raw } }

/-- The places of the files that processes have open. -/
def openPlaces (s : Machine) : List (List String) :=
  let numbers := (s.current :: s.others).flatMap fun p => p.descriptors.map Prod.snd
  (numbers.filterMap fun (n : Nat) =>
    match s.handles[n]? with
    | some (.file place _ _) => some place
    | _ => none).eraseDups

/-- The machine with the handles of a file after the file has been moved or removed;
one that has been removed is at a place that no path leads to. -/
def keepOpen (files : Files) (s : Machine) (place : List String) : Machine :=
  match files.entry? place, s.files.entry? place with
  | none, some e =>
    let isMoved (other : FileEntry) : Bool :=
      other.node = e.node && other.mode = e.mode &&
        (s.files.entry? other.place).all (·.node ≠ e.node)
    match files.entries.find? isMoved with
    | some other => { s with handles := s.handles.map (Handle.moved place other.place) }
    | none =>
      let hidden := ["", toString s.handles.size, toString s.clock]
      { s with
        handles := s.handles.map (Handle.moved place hidden)
        files := s.files.put hidden e.node e.mode }
  | _, _ => s

/-- Replace the files.  Those that are open stay so. -/
def setFiles (files : Files) : Step Unit :=
  modify fun s =>
    let kept := (openPlaces s).foldl (keepOpen files) s
    let hidden := kept.files.entries.filter fun e =>
      e.place.head? == some "" && (files.entry? e.place).isNone
    { kept with files := { files with entries := files.entries ++ hidden } }

/-- What a descriptor of the current process leads to. -/
def opened? (s : Machine) (descriptor : Nat) : Option Tool.Opened :=
  (s.handleOf? s.current descriptor).map fun
    | .reader _ => .pipe
    | .writer _ => .pipe
    | .file place _ _ => .file place
    | .device device => .device device

/-- What all descriptors of the current process lead to. -/
def openedAll (s : Machine) : List (Nat × Tool.Opened) :=
  s.current.descriptors.filterMap fun (d, _) => (s.opened? d).map fun o => (d, o)

/-- A new handle, and its number. -/
def addHandle (handle : Handle) : Step Nat := do
  let s ← get
  set { s with handles := s.handles.push handle }
  return s.handles.size

/-- Let a descriptor of the current process lead to a handle. -/
def setDescriptor (descriptor handle : Nat) : Step Unit :=
  modify fun s =>
    let others := s.current.descriptors.filter (·.1 ≠ descriptor)
    { s with current := { s.current with descriptors := (descriptor, handle) :: others } }

/-- Close a descriptor of the current process. -/
def closeDescriptor (descriptor : Nat) : Step Unit :=
  modify fun s =>
    let others := s.current.descriptors.filter (·.1 ≠ descriptor)
    { s with current := { s.current with descriptors := others } }

/-- A new pipe, and its number. -/
def addPipe (isKept : Bool) : Step Nat := do
  let s ← get
  set { s with pipes := s.pipes.push ⟨.empty, isKept⟩ }
  return s.pipes.size

/-! ## Writing -/

/-- Bytes written over others from an offset on. -/
def overwrite (old : List UInt8) (offset : Nat) (bytes : List UInt8) : List UInt8 :=
  if offset = old.length then old ++ bytes
  else
    old.take offset ++ List.replicate (offset - old.length) 0 ++ bytes ++
      old.drop (offset + bytes.length)

/-- Write to a descriptor of the current process; a fault if that fails. -/
def write (descriptor : Nat) (raw : Raw) : Step (Option HostFault) := do
  let s ← get
  if raw.isEmpty then return none
  match s.current.descriptors.lookup descriptor with
  | none => return some .badDescriptor
  | some n =>
    match s.handles[n]? with
    | some (.writer pipe) =>
      if s.hasReader pipe then
        set (s.pushPipe pipe raw)
        return none
      else return some .brokenPipe
    | some (.file place offset appends) =>
      let old := match s.files.at? place with
        | some (.file bytes) => bytes
        | _ => []
      let start := if appends then old.length else offset
      let files := s.view.setContents place (overwrite old start (Raw.toBytes raw))
      let handles := s.handles.setIfInBounds n (.file place (start + raw.length) appends)
      set { s with files, handles }
      return none
    | some (.device .full) => return some .noSpace
    | some (.device _) => return none
    | some (.reader _) => return some .badDescriptor
    | none => return some .badDescriptor

/-- Write to the error output whatever comes of it. -/
def writeError (raw : Raw) : Step Unit := do
  let _ ← write 2 raw

/-- The pipe that a descriptor leads to if that is full. -/
def fullPipe? (s : Machine) (descriptor : Nat) : Option Nat :=
  match s.handleOf? s.current descriptor with
  | some (.writer pipe) =>
    if Pipe.limit ≤ s.pipeSize pipe ∧ ¬ (s.pipes[pipe]?).any Pipe.isKept ∧ s.hasReader pipe then
      some pipe
    else none
  | _ => none

/-! ## Reading -/

/-- What comes of reading. -/
inductive Reading where
  | text (raw : Raw)
  | ended
  /-- There may be something later. -/
  | later (pipe : Nat)
  | failed (fault : HostFault)

/-- Read what there is from a descriptor of the current process. -/
def readSome (descriptor : Nat) : Step Reading := do
  let s ← get
  match s.current.descriptors.lookup descriptor with
  | none => return .failed .badDescriptor
  | some n =>
    match s.handles[n]? with
    | some (.reader pipe) =>
      let raw := ((s.pipes[pipe]?).map fun p => p.queue.toRaw).getD []
      if ¬ raw.isEmpty then
        set (s.setQueue pipe .empty)
        return .text raw
      else if s.hasWriter pipe then return .later pipe
      else return .ended
    | some (.file place offset appends) =>
      match s.files.at? place with
      | some (.file bytes) =>
        let raw := Raw.ofBytes (bytes.drop offset)
        set { s with handles := s.handles.setIfInBounds n (.file place bytes.length appends) }
        return if raw.isEmpty then .ended else .text raw
      | some .directory => return .failed .isDirectory
      | _ => return .ended
    | some (.device .zero) => return .text (List.replicate Tool.deviceSize Raw.nul)
    | some (.device .full) => return .text (List.replicate Tool.deviceSize Raw.nul)
    | some (.device .random) =>
      return .text (Tool.randomText (s.clock + s.handles.size))
    | some (.device _) => return .ended
    | some (.writer _) => return .failed .badDescriptor
    | none => return .failed .badDescriptor

/-- Give back what has been read too much. -/
def unread (descriptor : Nat) (raw : Raw) : Step Unit :=
  modify fun s =>
    match s.current.descriptors.lookup descriptor with
    | none => s
    | some n =>
      match s.handles[n]? with
      | some (.reader pipe) =>
        s.setQueue pipe (.ofRaw (raw ++ ((s.pipes[pipe]?).map fun p => p.queue.toRaw).getD []))
      | some (.file place offset appends) =>
        { s with handles := s.handles.setIfInBounds n
                   (.file place (offset - raw.length) appends) }
      | _ => s

/-! ## Starting and ending processes -/

/-- Start a copy of the current process that is changed by `change`, and give its
number. -/
def fork (change : Process → Process) : Step Nat := do
  let s ← get
  let child := change { s.current with number := s.nextNumber, parent := s.current.number,
                                       wait := .nothing }
  set { s with others := s.others ++ [child], nextNumber := s.nextNumber + 1 }
  return s.nextNumber

/-- End the current process. -/
def finish (ending : ProcessEnd) : Step Unit :=
  modify fun s =>
    { s with ended := (s.current.number, ending) :: s.ended, isDone := true,
             current := { s.current with descriptors := [], frames := [] } }

/-- How a process has ended, if it has. -/
def ending? (s : Machine) (process : Nat) : Option ProcessEnd :=
  s.ended.lookup process

/-- Forget how some processes have ended. -/
def forget (processes : List Nat) : Step Unit :=
  modify fun s => { s with ended := s.ended.filter fun e => !processes.contains e.1 }

/-! ## Taking turns -/

/-- Whether a process can go on. -/
def isReady (s : Machine) (p : Process) : Bool :=
  match p.wait with
  | .nothing => true
  | .input pipe => 0 < s.pipeSize pipe || !s.hasWriter pipe
  | .room pipe => s.pipeSize pipe < Pipe.limit || !s.hasReader pipe
  | .processes processes isInterruptible =>
    (processes.all fun n => (s.ending? n).isSome) ||
      (isInterruptible && !p.state.pending.isEmpty)
  | .processUntil process time => (s.ending? process).isSome || time ≤ s.clock
  | .time time => time ≤ s.clock

/-- The time at which a process goes on by itself. -/
def wakeTime? (p : Process) : Option Nat :=
  match p.wait with
  | .time time => some time
  | .processUntil _ time => some time
  | _ => none

/-- The first process of a list that can go on, and the others in the order in
which they follow. -/
def pick (s : Machine) (seen : List Process) : List Process → Option (Process × List Process)
  | [] => none
  | p :: rest =>
    if s.isReady p then some (p, rest ++ seen.reverse) else pick s (p :: seen) rest

/-- Let the next process take its turn.  If all of them wait, time passes; if that
does not help, nothing happens, and the answer is no. -/
def switch (s : Machine) : Option Machine :=
  let all := if s.isDone then s.others else s.others ++ [s.current]
  let settle (clock : Nat) (found : Process × List Process) : Machine :=
    { s with clock, current := { found.1 with wait := .nothing }, others := found.2,
             isDone := false, isBlocked := false }
  match pick s [] all with
  | some found => some (settle s.clock found)
  | none =>
    match (all.filterMap wakeTime?).min? with
    | none => none
    | some time =>
      let later := { s with clock := max s.clock time }
      (pick later [] all).map (settle later.clock)

end Machine
end MakeTen
