import MakeTen.Shell.Step
import MakeTen.Tool.WriteFault
/-!
# Running processes

Processes take turns until the first one has ended and nobody can write to its
outputs any more.  A job is done from its start whenever it is told something
new; what it has written before is not written again.

Main definitions:

- Function `Machine.stepJob`: go on with the job of the current process.
- Function `Machine.run`: let processes take turns.
- Function `Machine.outcome`: what becomes of a program.
-/

namespace MakeTen
namespace Machine

/-! ## Activities -/

/-- Change what the current process is doing. -/
def setActivity (activity : Activity) : Step Unit :=
  modify fun s => { s with current := { s.current with activity := some activity } }

/-- What a job has before it. -/
def deskOf (activity : Activity) (files : Files) : Tool.Desk :=
  { call := activity.call
    files := activity.files.getD files
    input := match activity.input with
      | [raw] => raw
      | parts => parts.reverse.flatten
    isEnded := activity.isEnded
    answers := activity.answers.reverse
    writes := []
    held := []
    heldSize := 0
    returnsInput := false }

/-- Tell a job something. -/
def tell (activity : Activity) (answer : Tool.Answer) : Step Unit := do
  let files := activity.files.getD (← get).view
  setActivity { activity with answers := answer :: activity.answers, pending := none,
                              files := some files }

/-! ## Writing -/

/-- What comes of writing. -/
inductive Delivery where
  | done
  /-- It has to wait for room in a pipe. -/
  | full (pipe : Nat)
  | failed (fault : HostFault)

/-- Write what has not been written before; `skip` bytes have been.  The count of
bytes written is kept. -/
def deliver (skip : Nat) (written : Nat) : List Tool.Write → Step (Delivery × Nat)
  | [] => return (.done, written)
  | w :: rest => do
    if w.raw.length ≤ skip then deliver (skip - w.raw.length) written rest
    else
      let s ← get
      match s.fullPipe? w.descriptor with
      | some pipe => return (.full pipe, written)
      | none =>
        match ← write w.descriptor (w.raw.drop skip) with
        | some fault =>
          if w.descriptor = 2 then deliver 0 (written + w.raw.length - skip) rest
          else return (.failed fault, written)
        | none => deliver 0 (written + w.raw.length - skip) rest

/-! ## Programs started by programs -/

/-- Start a program for a job. -/
def startChild (activity : Activity) (start : Tool.Start) : Step Unit := do
  let output ← if start.isCaught then pure (some (← addPipe true)) else pure none
  let writer ← match output with
    | some pipe => pure (some (← addHandle (.writer pipe)))
    | none => pure none
  let input ← match start.input with
    | .shared => pure none
    | .nothing => pure (some (← addHandle (.device .null)))
    | .given raw => do
      let pipe ← addPipe false
      modify fun s => s.pushPipe pipe raw
      pure (some (← addHandle (.reader pipe)))
  let place (p : Process) : Process :=
    let p := match writer with
      | some handle => Shell.withDescriptor 1 handle p
      | none => p
    match input with
    | some handle => Shell.withDescriptor 0 handle p
    | none => p
  let process ← fork place
  let s ← get
  let limits := start.limits.map fun (duration, signal) => (s.clock + duration, signal)
  setActivity { activity with pending := some (.child process output limits []),
                              files := some (activity.files.getD s.view) }
  let t ← get
  match t.others.getLast? with
  | none => pure ()
  | some child =>
    set { t with current := child, others := t.others.dropLast }
    let name := start.words.head?.getD []
    let search := Raw.toString ((start.environment.lookup "PATH".toList).getD "/bin:/usr/bin".toList)
    match (← get).view.findProgram search (Raw.toString name) with
    | .error _ => finish (.exit 127)
    | .ok found =>
      let path := if name.contains '/' then name
        else ((t.view.locate? search (Raw.toString name)).map Raw.ofString).getD name
      match ← becomeOrShell found path start.words start.environment with
      | none => pure ()
      | some _ => finish (.exit 126)
    modify fun u =>
      if u.isDone then { u with current := t.current, isDone := false }
      else { u with current := t.current, others := u.others ++ [u.current] }

/-- The processes of a list that a process has started, directly or not, as far
as `fuel` goes. -/
def descendants : Nat → List Process → List Nat → List Nat
  | 0, _, known => known
  | fuel + 1, all, known =>
    let more := all.filterMap fun p =>
      if known.contains p.parent ∧ ¬ known.contains p.number then some p.number else none
    if more.isEmpty then known else descendants fuel all (known ++ more)

/-- Send a signal to a process and to all that it has started. -/
def sendToAll (process signal : Nat) : Step Unit := do
  let s ← get
  for n in descendants 8 s.others [process] do
    let _ ← sendSignal n signal

/-- Go on with waiting for what a job waits for. -/
def stepPending (activity : Activity) (pending : Pending) : Step Unit := do
  let s ← get
  match pending with
  | .pause time =>
    if time ≤ s.clock then tell activity ⟨0, false, [], [], s.view⟩ else block (.time time)
  | .child process output limits sent =>
    match s.ending? process with
    | some ending =>
      let raw := match output with
        | some pipe => ((s.pipes[pipe]?).map fun p => p.queue.toRaw).getD []
        | none => []
      let isKilled : Bool := match ending with
        | .signal _ => true
        | .exit _ => false
      forget [process]
      tell activity ⟨ending.status, isKilled, sent, raw, s.view⟩
    | none =>
      match limits with
      | [] => block (.processes [process] false)
      | (time, signal) :: rest =>
        if time ≤ s.clock then
          setActivity
            { activity with pending := some (.child process output rest (signal :: sent)) }
          sendToAll process signal
        else block (.processUntil process time)

/-! ## Jobs -/

/-- Give back input that a job has not used, if it can be used later. -/
def giveBack (isLeft : Bool) (rest : Raw) : Step Unit := do
  let s ← get
  match s.handleOf? s.current 0 with
  | some (.file _ _ _) => unread 0 rest
  | _ => if isLeft ∧ ¬ rest.isEmpty then unread 0 rest

/-- Get more input for a job. -/
def fetchInput (activity : Activity) : Step Unit := do
  match ← readSome 0 with
  | .text raw =>
    let activity := { activity with input := raw :: activity.input }
    match (← get).handleOf? (← get).current 0 with
    | some (.file _ _ _) => setActivity { activity with isEnded := true }
    | some (.device _) => setActivity { activity with isEnded := true }
    | _ => setActivity activity
  | .later pipe =>
    setActivity activity
    block (.input pipe)
  | .ended => setActivity { activity with isEnded := true }
  | .failed _ => setActivity { activity with isEnded := true }

/-- What follows when a job stops. -/
def afterStop (activity : Activity) (desk : Tool.Desk) : Tool.Stop → Step Unit
  | .exit status => do
    giveBack desk.returnsInput desk.input
    finish (.exit (status % 256))
  | .signal n => do
    let number := (← get).current.number
    let _ ← sendSignal number n
    if ¬ (← get).isDone then finish (.exit (128 + n))
  | .input => fetchInput activity
  | .pause duration => do
    let s ← get
    setActivity { activity with pending := some (.pause (s.clock + duration)),
                                files := some (activity.files.getD s.view) }
  | .start start => startChild activity start
  | .become words environment directory => do
    let s ← get
    let place := directory.bind fun d => (s.view.follow (Raw.toString d)).toOption
    let s := { s with current := { s.current with place := place.getD s.current.place } }
    set s
    let name := words.head?.getD []
    let search := Raw.toString ((environment.lookup "PATH".toList).getD "/bin:/usr/bin".toList)
    match s.view.findProgram search (Raw.toString name) with
    | .error _ => finish (.exit 127)
    | .ok place =>
      let path := if name.contains '/' then name
        else ((s.view.locate? search (Raw.toString name)).map Raw.ofString).getD name
      match ← becomeOrShell place path words environment with
      | none => pure ()
      | some _ => finish (.exit 126)

/-- Do the job of the current process from its start, as far as it goes. -/
def runJob (activity : Activity) : Step Unit := do
  let s ← get
  let (result, desk) := activity.job.run (deskOf activity s.view)
  let stop : Tool.Stop := match result with
    | .ok () => .exit 0
    | .error stop => stop
  let desk := if desk.held.isEmpty then desk
    else match stop with
      | .input => desk
      | .start ⟨_, _, _, _, _, true⟩ => desk
      | _ => { desk with writes := ⟨1, desk.held.reverse.flatten⟩ :: desk.writes, held := [] }
  match stop with
  | .input => pure ()
  | _ => setFiles desk.files
  let (delivery, written) ← deliver activity.written activity.written desk.writes.reverse
  let activity := { activity with written }
  match delivery with
  | .done => afterStop activity desk stop
  | .full pipe =>
    setActivity activity
    block (.room pipe)
  | .failed fault =>
    if fault = .brokenPipe ∧ ¬ (← get).current.ignored.contains 13 then finish (.signal 13)
    else
      let failure := Tool.writeFailure activity.call fault
      writeError (Raw.unlines failure.lines)
      finish (.exit failure.status)

/-- Go on with the job of the current process. -/
def stepJob (activity : Activity) : Step Unit :=
  match activity.pending with
  | some pending => stepPending activity pending
  | none => runJob activity

/-! ## Taking turns -/

/-- How long a step takes, in nanoseconds. -/
def stepTime : Nat := 2000

/-- How many steps a process takes in a row. -/
def turnSize : Nat := 5000

/-- One step of the current process. -/
def advance : Step Unit := do
  modify fun s => { s with clock := s.clock + stepTime }
  match (← get).current.activity with
  | some activity => stepJob activity
  | none => Shell.step

/-- Whether a process can write into a pipe that something else reads. -/
def holdsOutput (s : Machine) (p : Process) : Bool :=
  p.descriptors.any fun (_, n) =>
    match s.handles[n]? with
    | some (.writer pipe) => (s.pipes[pipe]?).any Pipe.isKept
    | _ => false

/-- Whether nothing more can come: a process has ended, and the others cannot
write to what is read. -/
def isOver (s : Machine) (first : Nat) : Bool :=
  (s.ending? first).isSome && !s.others.any (holdsOutput s)

/-- Let processes take turns, with at most `fuel` steps. -/
def run (first : Nat) : Nat → Machine → Machine
  | 0, s => s
  | fuel + 1, s =>
    let s := if s.isDone then (notify s.current.parent s).2 else s
    if s.isDone || s.isBlocked || fuel % turnSize == 0 then
      if s.isDone && s.isOver first then s
      else
        match s.switch with
        | some s => run first fuel (advance.run s).2
        | none => s
    else run first fuel (advance.run s).2

/-! ## Programs -/

/-- The variables that programs are given. -/
def usualEnvironment : List (Raw × Raw) :=
  [("PATH".toList, Files.searchPath.toList), ("HOME".toList, "/root".toList)]

/-- The number of the first process. -/
def firstNumber : Nat := 4096

/-- How many steps are waited for the end. -/
def patience : Nat := 40000000

/-- A host with one process that does nothing yet: it has no input, and its two
outputs are kept. -/
def fresh (files : Files) : Machine :=
  let process : Process :=
    { number := firstNumber
      parent := firstNumber - 1
      descriptors := [(0, 0), (1, 1), (2, 2)]
      place := files.here
      mask := files.mask
      limits := []
      ignored := []
      wait := .nothing
      activity := none
      state := .fresh [] [] firstNumber (firstNumber - 1) []
      frames := []
      outputs := [] }
  { files
    handles := #[.device .null, .writer 0, .writer 1]
    pipes := #[⟨.empty, true⟩, ⟨.empty, true⟩]
    clock := 1700000000000000000
    current := process
    others := []
    ended := []
    nextNumber := firstNumber + 1
    isDone := false
    isBlocked := false }

/-- The signal that ends what has not ended by itself in all that time. -/
def killSignal : Nat := 9

/-- What becomes of a program. -/
structure Outcome where
  ending : ProcessEnd
  output : List UInt8
  errors : List UInt8
  files : Files

/-- What becomes of a program of some name at a place, unless it cannot be
started. -/
def outcome (place : List String) (words : List Raw) (files : Files) :
    Except HostFault Outcome :=
  let name := words.head?.getD []
  let path := if name.contains '/' then name
    else ((files.locate? Files.searchPath (Raw.toString name)).map Raw.ofString).getD name
  let (fault, s) := (become place path words usualEnvironment).run (fresh files)
  match fault with
  | some fault => .error fault
  | none =>
    let s := run firstNumber patience s
    let bytes (pipe : Nat) : List UInt8 :=
      Raw.toBytes (((s.pipes[pipe]?).map fun p => p.queue.toRaw).getD [])
    .ok ⟨(s.ending? firstNumber).getD (.signal killSignal), bytes 0, bytes 1,
      { s.files with here := files.here, mask := files.mask }⟩

end Machine
end MakeTen
