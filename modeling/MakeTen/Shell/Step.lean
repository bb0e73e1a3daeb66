import MakeTen.Process.Start
/-!
# Steps of a shell

A shell takes the topmost thing that it has to do, does a part of it, and puts
back what is left.  Commands that must not touch the shell itself, and all
programs, are carried out by copies of the process, for which the shell waits.

Leaving commands before their end takes frames away one after the other; those
that keep something put it back.

Main definitions:

- Function `Shell.unwind`: leave commands before their end.
- Function `Shell.attempt`: expand something, as far as outputs are at hand.
- Function `Shell.redirectAll`: put redirections in place.
- Function `Shell.step`: one step of the current process, which is a shell.
-/

namespace MakeTen
namespace Shell

open Machine

/-! ## Descriptors -/

/-- Least number under which a shell keeps descriptors. -/
def keepBase : Nat := 10

/-- A number from `keepBase` on that is not in use. -/
def freeNumber (descriptors : List (Nat × Nat)) : Nat :=
  ((List.range (descriptors.length + 1)).find? fun n =>
    !descriptors.any (·.1 == keepBase + n)).getD descriptors.length + keepBase

/-- Let a new number lead to a handle. -/
def openKept (handle : Nat) : Step Nat := do
  let n := freeNumber (← get).current.descriptors
  setDescriptor n handle
  return n

/-- Keep a descriptor under another number. -/
def keep (descriptor : Nat) : Step (Nat × Option Nat) := do
  match (← get).current.descriptors.lookup descriptor with
  | none => return (descriptor, none)
  | some handle => return (descriptor, some (← openKept handle))

/-- Put descriptors back where they were. -/
def restoreDescriptors : List (Nat × Option Nat) → Step Unit
  | [] => pure ()
  | (descriptor, number) :: rest => do
    match number with
    | none => closeDescriptor descriptor
    | some n =>
      match (← get).current.descriptors.lookup n with
      | some handle => setDescriptor descriptor handle
      | none => closeDescriptor descriptor
      closeDescriptor n
    restoreDescriptors rest

/-- Forget where descriptors were. -/
def forgetDescriptors (kept : List (Nat × Option Nat)) : Step Unit :=
  (kept.filterMap (·.2)).forM closeDescriptor

/-! ## Leaving -/

/-- Put back what a function hides. -/
def leaveCall (before : Caller) : Step Unit :=
  modifyShell fun s =>
    let s := s.hidden.foldl (fun s saved =>
      match saved with
      | ("-", some v) =>
        { s with options := (Raw.words (v.value.getD [])).map String.ofList }
      | saved => s.restore saved) s
    { s with positional := before.positional, hidden := before.hidden, loops := before.loops,
             optionIndex := before.optionIndex, cursor := before.cursor, calls := s.calls - 1 }

/-- Put back what a frame keeps when commands are left. -/
def dropFrame : Frame → Step Unit
  | .descriptors kept isRestored =>
    if isRestored then restoreDescriptors kept
    else forgetDescriptors kept
  | .bindings before => modifyShell fun s => before.foldl State.restore s
  | .call before => leaveCall before
  | .shield before => modifyShell fun s => { s with isShielded := before }
  | .voice lead => modifyShell fun s => { s with lead }
  | .loop => modifyShell fun s => { s with loops := s.loops - 1 }
  | .gather _ descriptor _ => closeDescriptor descriptor
  | _ => pure ()

/-- What leaving commands comes to at a frame: it goes on in some way, or it ends
there, with the frame itself or with another one in its place. -/
inductive Crossing where
  | on (flow : Flow)
  | here
  | stay (frame : Frame)

/-- What leaving commands comes to at a frame. -/
def crossing (frame : Frame) (flow : Flow) : Crossing :=
  match frame, flow with
  | .call _, .back => .here
  | .source, .back => .here
  | .guard, .fault => .here
  | .loop, .leave n => if n ≤ 1 then .here else .on (.leave (n - 1))
  | .loop, .again n => .on (.again (n - 1))
  | .turn loop, .again n => if n ≤ 1 then .stay (.turn loop) else .on flow
  | .test loop _, .again n => if n ≤ 1 then .stay (.turn loop) else .on flow
  | .each name fields body, .again n =>
    if n ≤ 1 then .stay (.each name fields body) else .on flow
  | .ending, _ => .stay .ending
  | _, flow => .on flow

/-- Leave commands: take frames away until one of them ends that. -/
def unwindFrames (flow : Flow) : List Frame → Step Unit
  | [] => setFrames []
  | frame :: rest => do
    dropFrame frame
    match crossing frame flow with
    | .on flow => unwindFrames flow rest
    | .here => setFrames rest
    | .stay frame => setFrames (frame :: rest)

/-- Leave commands. -/
def unwind (flow : Flow) : Step Unit := do
  unwindFrames flow (← get).current.frames

/-- Complain, and leave commands because of a fault. -/
def fail (text : Raw) : Step Unit := do
  writeError ((← shell).complaint text)
  setStatus 2
  unwind .fault

/-- The words are put back on the stack after the top frame has been taken. -/
def replaceTop (frame : Frame) : Step Unit := do
  setFrames (frame :: (← get).current.frames.drop 1)

/-- Take the top frame away. -/
def popFrame : Step Unit := do
  setFrames ((← get).current.frames.drop 1)

/-! ## Copies -/

/-- What a copy of a shell remembers.  Only signals that are ignored stay as they
are. -/
def State.copied (s : State) : State :=
  { s with
    traps := s.traps.filter (·.2.isEmpty)
    pending := []
    jobs := []
    substituted := none }

/-- Take the number of a job that is to be started. -/
def takeSlot : Step Nat := do
  let slot := (← shell).freeSlot
  modifyShell fun s => { s with jobs := s.jobs.filter (·.slot ≠ slot) }
  return slot

/-- Start a copy of the shell that carries out commands. -/
def forkShell (body : List Command) (state : State) (change : Process → Process) :
    Step Nat :=
  fork fun p => change
    { p with state := state.copied, frames := [.sequence body], outputs := [] }

/-- A process with a descriptor that leads to a handle. -/
def withDescriptor (descriptor handle : Nat) (p : Process) : Process :=
  { p with descriptors :=
      (descriptor, handle) :: p.descriptors.filter (·.1 ≠ descriptor) }

/-- Start commands whose output is wanted. -/
def startOutput (body : List Command) (state : State) : Step Unit := do
  let pipe ← addPipe false
  let writer ← addHandle (.writer pipe)
  let reader ← addHandle (.reader pipe)
  let _ ← takeSlot
  let process ← forkShell body { state with isShielded := false } (withDescriptor 1 writer)
  let descriptor ← openKept reader
  push (.gather process descriptor [])

/-- The line up to which the script of some frames has been read, if they have one. -/
def readingLine? : List Frame → Option Nat
  | [] => some 1
  | .script total _ rest :: _ => some (lineAt total (rest.dropWhile (· = lineMark)))
  | .input _ :: _ => none
  | _ :: frames => readingLine? frames

/-- Expand something.  Nothing comes of it if an output has to be waited for,
or if the shell is left because of a fault. -/
def attempt {α : Type} (x : Expand α) : Step (Option α) := do
  let s ← get
  let (result, scene) := x.run.run ⟨s.current.state, s.view, s.current.outputs⟩
  match result with
  | .ok value =>
    set { s with current := { s.current with state := scene.state, outputs := [] } }
    return some value
  | .error (.output body state) =>
    startOutput body state
    return none
  | .error (.signal number) =>
    finish (.signal number)
    return none
  | .error (.fault text) =>
    set { s with current := { s.current with state := scene.state, outputs := [] } }
    if "Syntax error".toList.isPrefixOf text then
      modifyShell fun state =>
        { state with line := (readingLine? s.current.frames).getD state.line }
    fail text
    return none

/-- Say of processes that signals have ended them, except for two signals that
go without saying. -/
def reportSignals : List Nat → Step Unit
  | [] => pure ()
  | process :: rest => do
    match (← get).ending? process with
    | some (.signal n) =>
      if n ≠ 2 ∧ n ≠ 13 then writeError (signalReport n ++ ['\n'])
    | _ => pure ()
    reportSignals rest

/-- Take the output of a process. -/
def gather (process descriptor : Nat) (done : List Raw) : Step Unit := do
  match ← readSome descriptor with
  | .text raw => replaceTop (.gather process descriptor (raw :: done))
  | .later pipe => block (.input pipe)
  | _ =>
    match (← get).ending? process with
    | none => block (.processes [process] false)
    | some ending =>
      popFrame
      closeDescriptor descriptor
      reap
      reportSignals [process]
      forget [process]
      let output := (done.reverse.flatten, ending.status)
      modify fun s =>
        { s with current := { s.current with outputs := s.current.outputs ++ [output] } }

/-- Wait for processes. -/
def await (processes : List Nat) : Step Unit := do
  let s ← get
  if processes.all fun n => (s.ending? n).isSome then
    popFrame
    reap
    reportSignals processes
    match (processes.getLast?).bind s.ending? with
    | some ending => setStatus ending.status
    | none => pure ()
    forget processes
  else block (.processes processes false)

/-- Go on after waiting for processes in the background. -/
def joined (status : Nat) : Step Unit := do
  popFrame
  setStatus status

/-- Wait for processes, unless a signal has come. -/
def waitUnlessSignalled (processes : List Nat) : Step Unit := do
  match (← shell).pending with
  | signal :: _ => joined (128 + signal)
  | [] => block (.processes processes true)

/-- Wait for all processes in the background. -/
def joinAll : Step Unit := do
  let s ← get
  let running := s.current.state.jobs.filter fun j => !j.isReaped && (s.ending? j.process).isNone
  if running.isEmpty then
    reap
    modifyShell fun t => { t with jobs := t.jobs.map fun j => { j with isWaited := true } }
    joined 0
  else waitUnlessSignalled (running.map (·.process))

/-- Wait for the processes that some names stand for, one after the other. -/
def joinNext (names : List Raw) (status : Nat) : Step Unit := do
  let s ← get
  let jobs := s.current.state.jobs
  let refused (text : Raw) : Step Unit := do
    warn "wait" text
    joined 2
  let found (job : BackgroundJob) (rest : List Raw) : Step Unit := do
    match s.ending? job.process with
    | none => waitUnlessSignalled [job.process]
    | some ending =>
      if ¬ job.isReaped then
        reap
        reportSignals [job.process]
      modifyShell fun t =>
        { t with jobs := t.jobs.map fun j =>
            if j.slot = job.slot then { j with isWaited := true } else j }
      replaceTop (.join rest ending.status)
  match names with
  | [] => joined status
  | name :: rest =>
    if name.head? = some '%' then
      match s.current.state.jobNamed? name with
      | none => refused (noJob name)
      | some job => found job rest
    else
      match number? name with
      | none => refused (badNumber name)
      | some n =>
        match jobs.find? (·.process == n) with
        | none => replaceTop (.join rest status)
        | some job => found job rest

/-! ## Redirections -/

/-- What a redirection comes to. -/
def expandRedirect : Redirect → Expand Redirection
  | .file descriptor opening path => do return .file descriptor opening (← expandText path)
  | .document descriptor text => do return .document descriptor (← expandText text)
  | .copy descriptor source => do
    match ← expandText source with
    | ['-'] => return .close descriptor
    | [c] =>
      if c.isDigit then return .copy descriptor (Raw.digitValue c)
      else throw (.fault "Syntax error: Bad fd number".toList)
    | _ => throw (.fault "Syntax error: Bad fd number".toList)

/-- Whether a file is protected from being written over. -/
def isProtected (s : Machine) (opening : Opening) (node : FileNode) : Bool :=
  match node with
  | .file _ => opening = .write && s.current.state.has "noclobber"
  | _ => false

/-- What opening a path leads to. -/
def openPath (opening : Opening) (path : Raw) : Step (Except HostFault Handle) := do
  let s ← get
  let files := s.view
  let name := Raw.toString path
  let created : Step (Except HostFault Handle) := do
    match files.write name (opening ≠ .write ∧ opening ≠ .overwrite) [] with
    | .error fault => return .error fault
    | .ok files =>
      setFiles files
      match files.follow name with
      | .ok place => return .ok (.file place 0 (opening = .append))
      | .error fault => return .error fault
  match files.follow name with
  | .error fault => if opening = .read then return .error fault else created
  | .ok place =>
    match files.at? place with
    | some (.device (.descriptor n)) =>
      match s.handleOf? s.current n with
      | none => return .error .missing
      | some (.reader pipe) =>
        return .ok (if opening = .read then .reader pipe else .writer pipe)
      | some (.writer pipe) =>
        return .ok (if opening = .read then .reader pipe else .writer pipe)
      | some (.device device) => return .ok (.device device)
      | some (.file place _ _) =>
        if opening = .write ∨ opening = .overwrite then
          setFiles (files.setContents place [])
        return .ok (.file place 0 (opening = .append))
    | some (.device .terminal) => return .error .noDevice
    | some (.device device) => return .ok (.device device)
    | some node =>
      if opening = .read then return .ok (.file place 0 false)
      else if isProtected s opening node then return .error .exists
      else created
    | none => return .error .missing

/-- How the shell words that a file cannot be opened. -/
def openingComplaint (opening : Opening) (path : Raw) (fault : HostFault) : Raw :=
  if opening = .read then
    "cannot open ".toList ++ path ++ ": ".toList ++ openingFault fault
  else
    let cause := if fault = .missing ∨ fault = .notDirectory then "Directory nonexistent".toList
      else fault.text.toList
    "cannot create ".toList ++ path ++ ": ".toList ++ cause

/-- Put one redirection in place.  A complaint if that is not possible. -/
def redirectOne (kept : List (Nat × Option Nat)) (r : Redirection) :
    Step (Except Raw (List (Nat × Option Nat))) := do
  let saving (descriptor : Nat) : Step (List (Nat × Option Nat)) := do
    if kept.any (·.1 == descriptor) then return kept
    else return (← keep descriptor) :: kept
  match r with
  | .file descriptor opening path =>
    match ← openPath opening path with
    | .error fault => return .error (openingComplaint opening path fault)
    | .ok handle =>
      let handle ← addHandle handle
      let kept ← saving descriptor
      setDescriptor descriptor handle
      return .ok kept
  | .document descriptor text =>
    let pipe ← addPipe false
    modify fun s => s.pushPipe pipe text
    let handle ← addHandle (.reader pipe)
    let kept ← saving descriptor
    setDescriptor descriptor handle
    return .ok kept
  | .close descriptor =>
    let kept ← saving descriptor
    closeDescriptor descriptor
    return .ok kept
  | .copy descriptor source =>
    if descriptor = source then return .ok kept
    else
      match (← get).current.descriptors.lookup source with
      | none => return .error (Raw.ofNat source ++ ": Bad file descriptor".toList)
      | some handle =>
        let kept ← saving descriptor
        setDescriptor descriptor handle
        return .ok kept

/-- Put redirections in place.  If one of them is not possible, a complaint is
made and all is put back. -/
def redirectAll (kept : List (Nat × Option Nat)) :
    List Redirection → Step (Option (List (Nat × Option Nat)))
  | [] => return some kept
  | r :: rest => do
    match ← redirectOne kept r with
    | .ok kept => redirectAll kept rest
    | .error text =>
      writeError ((← shell).complaint text)
      restoreDescriptors kept
      return none

/-! ## Simple commands -/

/-- The words of a command without those that only say how its name is looked
up, and whether there are such words. -/
def stripCommand : Nat → List Raw → List Raw × Bool
  | 0, fields => (fields, false)
  | fuel + 1, fields =>
    match fields with
    | word :: rest =>
      let rest := rest.dropWhile fun r => r.length > 1 ∧ r.head? = some '-' ∧ (r.drop 1).all (· == 'p')
      match rest with
      | ['-', '-'] :: name :: more =>
        if word = "command".toList then ((stripCommand fuel (name :: more)).1, true)
        else (fields, false)
      | name :: _ =>
        if word = "command".toList ∧ (name.head? ≠ some '-' ∨ name = ['-']) then ((stripCommand fuel rest).1, true)
        else (fields, false)
      | [] => (fields, false)
    | [] => (fields, false)

/-- What a command is, after words that only say how its name is looked up. -/
structure Target where
  fields : List Raw
  /-- Whether such words were there; then functions do not count, and a fault does
  not end the shell. -/
  isTame : Bool

/-- What a command is. -/
def targetOf (s : State) (fields : List Raw) : Target :=
  if (s.functions.lookup "command").isSome then ⟨fields, false⟩
  else
    let (fields, isTame) := stripCommand fields.length fields
    ⟨fields, isTame⟩

/-- The name of a command. -/
def Target.name (t : Target) : String :=
  String.ofList (t.fields.head?.getD [])

/-- Whether a command assigns its arguments, which are then not split. -/
def assigns (fields : List Raw) : Bool :=
  let name := (stripCommand fields.length fields).1.head?.getD []
  ["export", "readonly", "local"].any (·.toList = name)

/-- Whether the assignments in front of a command stay, and a fault ends the
shell. -/
def isSpecialTarget (s : State) (fields : List Raw) : Bool :=
  let t := targetOf s fields
  !t.isTame && isSpecialBuiltin t.name

/-- Whether a command only puts its redirections in place. -/
def isBareExec (s : State) (fields : List Raw) : Bool :=
  (targetOf s fields).fields = ["exec".toList]

/-- Expand the next word of a simple command. -/
def expandNext (todo : List Word) (done : List Raw) (assignments : List (String × Word))
    (redirects : List Redirect) : Step Unit := do
  match todo with
  | [] => replaceTop (.redirect redirects [] (.simple done.reverse assignments))
  | word :: rest =>
    let expanding : Expand (List Raw) :=
      if isAssignment word ∧ assigns done.reverse then do return [← expandAssignment word]
      else expandFields word
    match ← attempt expanding with
    | some fields => replaceTop (.expand rest (fields.reverse ++ done) assignments redirects)
    | none => pure ()

/-- Go on with a simple command whose redirections are in place.  Assignments
that do not stay are taken back at its end. -/
def startAssignments (fields : List Raw) (assignments : List (String × Word)) (shown : Nat) :
    Step Unit := do
  let s ← shell
  if ¬ fields.isEmpty ∧ ¬ assignments.isEmpty ∧ ¬ isSpecialTarget s fields then
    push (.bindings (assignments.map fun (name, _) => (name, s.valueOf? name)).reverse)
  push (.assign assignments [] fields shown)

/-- Start a copy of the shell that puts redirections in place and goes on with a
command. -/
def forkRedirected (done : List Redirection) (body : List Command) : Step Unit := do
  let _ ← takeSlot
  let frame := Frame.redirect [] done (.copied body)
  let process ← forkShell body (← shell) fun p => { p with frames := [frame] }
  push (.await [process])

/-- Whether the shell only ends after some frames. -/
def isTail : List Frame → Bool
  | [] => true
  | .check :: rest => isTail rest
  | .sequence [] :: rest => isTail rest
  | _ => false

/-- Whether a process that goes on after some frames only has to end then, so that a program
may take its place.  It has to be a copy of a shell without traps. -/
def endsAfter (p : Process) (frames : List Frame) : Bool :=
  p.number ≠ p.state.number && isTail frames && p.state.traps.all (·.2.isEmpty)

/-- Put the redirections of a command in place and go on with it.  Those of a copy of
the shell are put in place there. -/
def redirectNext (todo : List Redirect) (done : List Redirection) (next : Redirected) :
    Step Unit := do
  match todo with
  | r :: rest =>
    match ← attempt (expandRedirect r) with
    | some r => replaceTop (.redirect rest (r :: done) next)
    | none => pure ()
  | [] =>
    let s ← shell
    popFrame
    match next with
    | .compound (.subshell body) =>
      let p := (← get).current
      if endsAfter p p.frames then
        push (.redirect [] done (.copied body))
      else forkRedirected done body
    | .copied body =>
      match ← redirectAll [] done.reverse with
      | none => setStatus 2
      | some kept =>
        forgetDescriptors kept
        push (.sequence body)
    | next =>
    let isRestored : Bool := match next with
      | .simple fields _ => !isBareExec s fields
      | _ => true
    match ← redirectAll [] done.reverse with
    | none =>
      setStatus 2
      match next with
      | .simple fields _ => if isSpecialTarget s fields then unwind .fault
      | _ => pure ()
    | some kept =>
      if ¬ kept.isEmpty then push (.descriptors kept isRestored)
      match next with
      | .compound body => push (.command body)
      | .copied body => push (.sequence body)
      | .simple fields assignments =>
        startAssignments fields assignments (((kept.lookup 2).bind id).getD 2)

/-- What a shell puts in front of the commands that it shows. -/
def tracePrompt : Step Raw := do
  let s ← get
  match s.current.state.lookup? "PS4" with
  | none => return []
  | some raw =>
    if ¬ raw.any startsPart then return raw
    else
      match readParts [] 0 (4 * raw.length + 8) (.literal false) .never raw with
      | .error _ => return raw
      | .ok (word, _) =>
        match ((expandText word).run.run ⟨s.current.state, s.view, []⟩).1 with
        | .ok text => return text
        | .error _ => return raw

/-- Show a command. -/
def trace (assignments : List (String × Raw)) (fields : List Raw) (shown : Nat) : Step Unit := do
  if (← shell).has "xtrace" then
    let words := assignments.map (fun (name, value) => name.toList ++ '=' :: value) ++ fields
    let _ ← write shown ((← tracePrompt) ++ Raw.join [' '] words ++ ['\n'])

/-- Make the next assignment of a simple command. -/
def assignNext (todo : List (String × Word)) (done : List (String × Raw)) (fields : List Raw)
    (shown : Nat) : Step Unit := do
  match todo with
  | (name, word) :: rest =>
    let expanding : Expand Raw := do
      let raw ← expandText word
      assignVariable name raw
      return raw
    match ← attempt expanding with
    | none => pure ()
    | some raw =>
      let s ← shell
      if ¬ fields.isEmpty ∧ (¬ isSpecialTarget s fields ∨ (targetOf s fields).name = "exec") then
        modifyShell (declared (fun v => { v with isExported := true }) name none)
      replaceTop (.assign rest ((name, raw) :: done) fields shown)
  | [] =>
    trace done.reverse fields shown
    if fields.isEmpty then
      popFrame
      setStatus ((← shell).substituted.getD 0)
    else replaceTop (.invoke fields)

/-! ## Invoking -/

/-- Call a function. -/
def callFunction (body : Command) (arguments : List Raw) : Step Unit := do
  let s ← shell
  if State.callLimit ≤ s.calls then
    fail ("Maximum function recursion depth (".toList ++ Raw.ofNat State.callLimit ++
      ") reached".toList)
  else
    popFrame
    push (.call ⟨s.positional, s.hidden, s.loops, s.optionIndex, s.cursor⟩)
    modifyShell fun s =>
      { s with positional := arguments, hidden := [], loops := 0, optionIndex := 1,
               cursor := none, calls := s.calls + 1 }
    push (.command body)

/-- Write what a builtin command prints.  The answer is whether that worked;
nothing if the shell has come to its end over it. -/
def printOutput (name : String) (output : Raw) : Step (Option Bool) := do
  match ← write 1 output with
  | none => return some true
  | some fault =>
    let s ← get
    if fault = .brokenPipe ∧ ¬ (s.current.state.traps.any (·.1 == 13)) then
      finish (.signal 13)
      return none
    else
      warn name (name.toList ++ ": I/O error".toList)
      return some false

/-- Carry out a builtin command. -/
def runBuiltin (builtin : Builtin) (t : Target) : Step Unit := do
  let s ← get
  match s.fullPipe? 1 with
  | some pipe => block (.room pipe)
  | none =>
    popFrame
    if t.isTame then push .guard
    let isSpecial := isSpecialBuiltin t.name && !t.isTame
    let (output, outcome) ← builtin (t.fields.drop 1)
    match ← printOutput t.name output with
    | none => pure ()
    | some isPrinted =>
      match outcome with
      | .done status => setStatus (if isPrinted then status else status ||| 1)
      | .refused =>
        setStatus 2
        if isSpecial then unwind .fault
      | .left flow => unwind flow
      | .begun => pure ()

/-- The status of a program that cannot be started. -/
def refusalStatus (isPath : Bool) (fault : HostFault) : Nat :=
  if isPath ∧ fault ≠ .missing ∧ fault ≠ .notDirectory then 126 else 127

/-- How a shell words that a program cannot be started. -/
def refusalText (name : Raw) (fault : HostFault) : Raw :=
  if fault = .missing ∨ fault = .notDirectory then name ++ ": not found".toList
  else name ++ ": ".toList ++ fault.text.toList

/-- The place of a program, and the path that leads there. -/
def findCommand (s : Machine) (name : Raw) : Except HostFault (List String × Raw) :=
  if name.isEmpty then .error .denied
  else
    let search := Raw.toString ((s.current.state.lookup? "PATH").getD [])
    match s.view.findProgram search (Raw.toString name) with
    | .error fault => .error fault
    | .ok place =>
      if name.contains '/' then .ok (place, name)
      else
        let path := (s.view.locate? search (Raw.toString name)).map Raw.ofString
        .ok (place, path.getD name)

/-- A shell's copy that becomes a program. -/
def Process.program (p : Process) : Process :=
  { p with ignored := p.ignored ++ (p.state.traps.filter (·.2.isEmpty)).map (·.1) }

/-- Whether a frame puts things back after a simple command. -/
def Frame.isOfCommand : Frame → Bool
  | .descriptors _ _ => true
  | .bindings _ => true
  | _ => false

/-- Whether nothing but the end of the shell comes after the simple command that is
carried out, so that a program may take the place of the shell.  A trap is in the way of
that. -/
def endsWithCommand : Step Bool := do
  let p := (← get).current
  return endsAfter p (p.frames.dropWhile Frame.isOfCommand)

/-- Become a program in a copy of the shell, or in the shell itself if it is at its end
then. -/
def launchFields (fields : List Raw) : Step Unit := do
  let s ← get
  let name := fields.head?.getD []
  match findCommand s name with
  | .error fault =>
    popFrame
    writeError (s.current.state.complaint (refusalText name fault))
    setStatus (refusalStatus (name.contains '/') fault)
  | .ok (place, path) =>
    if ¬ name.contains '/' then track name path
    let environment := s.current.state.environment
    let state := s.current.state
    popFrame
    if ← endsWithCommand then
      modify fun t => { t with current := Process.program t.current }
      match ← becomeOrShell place path fields environment with
      | none => return
      | some fault =>
        writeError (state.complaint (refusalText name fault))
        finish (.exit (refusalStatus true fault))
        return
    let _ ← takeSlot
    let process ← fork fun p => Process.program { p with
      frames := [], activity := none, outputs := [],
      state := { state.copied with
        pending := [] } }
    -- the copy takes its turn for as long as it takes to become the program
    let t ← get
    match t.others.getLast? with
    | none => pure ()
    | some child =>
      set { t with current := child, others := t.others.dropLast }
      match ← becomeOrShell place path fields environment with
      | none => pure ()
      | some fault =>
        writeError (state.complaint (refusalText name fault))
        finish (.exit (refusalStatus true fault))
      modify fun u =>
        if u.isDone then { u with current := t.current, isDone := false }
        else { u with current := t.current, others := u.others ++ [u.current] }
    push (.await [process])

/-- Let a program take the place of the shell. -/
def execFields (fields : List Raw) : Step Unit := do
  let s ← get
  match fields with
  | [] =>
    popFrame
    setStatus 0
  | name :: _ =>
    let refused (fault : HostFault) (isPath : Bool) : Step Unit := do
      writeError (s.current.state.report ("exec: ".toList ++ refusalText name fault))
      setStatus (refusalStatus isPath fault)
      unwind .exit
    match findCommand s name with
    | .error fault => refused fault true
    | .ok (place, path) =>
      let environment := s.current.state.environment
      modify fun t => { t with current := Process.program t.current }
      match ← becomeOrShell place path fields environment with
      | none => pure ()
      | some fault => refused fault true

/-- Carry out a simple command whose words are known. -/
def invoke (fields : List Raw) : Step Unit := do
  let s ← shell
  let t := targetOf s fields
  match if t.isTame ∨ isSpecialBuiltin t.name then none else s.functions.lookup t.name with
  | some body => callFunction body (t.fields.drop 1)
  | none =>
    if t.name = "exec" then execFields (t.fields.drop 1)
    else
      match builtin? t.name with
      | some builtin => runBuiltin builtin t
      | none => launchFields t.fields

/-! ## Reading lines -/

/-- A line of the input: its characters, those after a backslash being quoted,
what follows it, and whether it has an end. -/
structure InputLine where
  glyphs : List Glyph
  rest : Raw
  isEnded : Bool

/-- The line at the head of a text, after some characters in reverse. -/
def readInputLine (isRaw : Bool) (glyphs : List Glyph) : Raw → InputLine
  | [] => ⟨glyphs.reverse, [], false⟩
  | '\n' :: rest => ⟨glyphs.reverse, rest, true⟩
  | '\\' :: rest =>
    if isRaw then readInputLine isRaw (⟨'\\', false⟩ :: glyphs) rest
    else
      match rest with
      | '\n' :: rest => readInputLine isRaw glyphs rest
      | c :: rest =>
        if c = Raw.nul then readInputLine isRaw glyphs ('\\' :: rest)
        else readInputLine isRaw (⟨c, true⟩ :: glyphs) rest
      | [] => ⟨glyphs.reverse, [], false⟩
  | c :: rest => readInputLine isRaw (if c = Raw.nul then glyphs else ⟨c, false⟩ :: glyphs) rest

/-- A line on its way into fields. -/
structure FieldReading where
  /-- The fields so far, backwards. -/
  done : List Raw
  /-- The current field, backwards. -/
  current : List Glyph
  /-- How many fields are left; the last one takes all of the line. -/
  left : Nat
  /-- How much of the last field is kept if only separators follow. -/
  kept : Option Nat
  /-- Whether the last character was a blank that ended a field. -/
  afterBlank : Bool

/-- The reading after one more character.  One after a backslash always belongs to a
field, but does not keep what the last field loses at its end. -/
def FieldReading.add (separators : Raw) (r : FieldReading) (g : Glyph) : FieldReading :=
  let longer := { r with current := g :: r.current }
  let isSeparator := separators.contains g.char
  let isBlank := isSeparator && isBlankSeparator g.char
  if g.quoted then { longer with afterBlank := false }
  else if r.left = 0 then
    if isBlank then { longer with kept := some (r.kept.getD r.current.length) }
    else
      { longer with
        kept := if isSeparator && r.afterBlank then r.kept else none
        afterBlank := false }
  else if r.afterBlank then
    { r with current := if isSeparator then [] else [g], afterBlank := isBlank }
  else if ¬ isSeparator then longer
  else if isBlank ∧ r.current.isEmpty then r
  else if r.left = 1 then
    { longer with left := 0, kept := some r.current.length, afterBlank := isBlank }
  else
    { r with
      done := r.current.reverse.map Glyph.char :: r.done, current := [],
      left := r.left - 1, afterBlank := isBlank }

/-- The fields of a line, at most so many. -/
def lineFields (separators : Raw) (count : Nat) (line : List Glyph) : List Raw :=
  let r := line.foldl (FieldReading.add separators) ⟨[], [], count, none, false⟩
  let last := r.current.reverse.map Glyph.char
  let last := last.take (r.kept.getD last.length)
  (if last.isEmpty then r.done else last :: r.done).reverse

/-- Read a line into variables; `done` has been read before. -/
def readNext (names : List String) (isRaw : Bool) (done : Raw) : Step Unit := do
  let ended (line : InputLine) : Step Unit := do
    popFrame
    let fields := lineFields (← shell).separators names.length line.glyphs
    let fields := fields ++ List.replicate (names.length - fields.length) []
    match ← assignAll "read" (names.zip (fields.map some)) with
    | .ok _ => setStatus (if line.isEnded then 0 else 1)
    | .error _ => setStatus 2
  match ← readSome 0 with
  | .text raw =>
    let line := readInputLine isRaw [] (done ++ raw)
    if line.isEnded then
      unread 0 line.rest
      ended line
    else replaceTop (.read names isRaw (done ++ raw))
  | .later pipe => block (.input pipe)
  | _ => ended (readInputLine isRaw [] done)

/-! ## Compound commands -/

/-- Start a pipeline; `input` is where the next command reads from. -/
def startStages (input : Option Nat) : List Command → Step (List Nat)
  | [] => return []
  | [command] => do
    let state ← shell
    let process ← forkShell [command] state fun p => match input with
      | some handle => withDescriptor 0 handle p
      | none => p
    return [process]
  | command :: rest => do
    let state ← shell
    let pipe ← addPipe false
    let writer ← addHandle (.writer pipe)
    let reader ← addHandle (.reader pipe)
    let process ← forkShell [command] state fun p =>
      let p := match input with
        | some handle => withDescriptor 0 handle p
        | none => p
      withDescriptor 1 writer p
    return process :: (← startStages (some reader) rest)

/-- Start a command in the background. -/
def startBackground (body : Command) : Step Unit := do
  let state ← shell
  let nothing ← addHandle (.device .null)
  let slot ← takeSlot
  let process ← forkShell [body] { state with isShielded := false } (withDescriptor 0 nothing)
  let stages := match body with
    | .pipeline commands => commands.length
    | _ => 1
  modifyShell fun s =>
    { s with
      background := some process
      jobs := ⟨slot, process, stages, false, false⟩ :: s.jobs
      status := 0 }

/-- Put commands on top whose failure is looked at by what is below. -/
def pushTest (test : List Command) : Step Unit := do
  push (.shield (← shell).isShielded)
  modifyShell fun s => { s with isShielded := true }
  push (.sequence test)

/-- Start the line of a command. -/
def setLine (line : Nat) : Step Unit :=
  modifyShell fun s => { s with line }

/-- Carry out a command, which has been taken from the stack. -/
def runCommand (command : Command) : Step Unit := do
  if (← shell).has "noexec" then pure ()
  else
    match command with
    | .simple line assignments words redirects =>
      modifyShell fun s => { s with line, substituted := none }
      push .check
      push (.expand words [] assignments redirects)
    | .redirected line body redirects =>
      setLine line
      push .check
      push (.redirect redirects [] (.compound body))
    | .pipeline commands =>
      push .check
      let _ ← takeSlot
      push (.await (← startStages none commands))
    | .negated body =>
      push .negate
      pushTest [body]
    | .andThen first second =>
      push (.andThen second)
      pushTest [first]
    | .orElse first second =>
      push (.orElse second)
      pushTest [first]
    | .background body => startBackground body
    | .group body => push (.sequence body)
    | .subshell body =>
      let p := (← get).current
      if endsAfter p p.frames then push (.sequence body)
      else
        push .check
        let _ ← takeSlot
        push (.await [← forkShell body (← shell) id])
    | .choose test body otherwise =>
      push (.choose body otherwise)
      pushTest test
    | .repeated untilTrue test body =>
      modifyShell fun s => { s with loops := s.loops + 1 }
      push .loop
      push (.test ⟨untilTrue, test, body⟩ 0)
      pushTest test
    | .each line name words body =>
      setLine line
      match words with
      | some words => push (.eachWords name words [] body)
      | none => push (.eachWords name [] (← shell).positional.reverse body)
    | .branch line subject branches =>
      setLine line
      push (.subject subject branches)
    | .define name body =>
      modifyShell fun s =>
        { s with functions := (name, body) :: s.functions.filter (·.1 != name), status := 0 }

/-- Expand the words of a loop, or start it. -/
def eachWords (name : String) (todo : List Word) (done : List Raw) (body : List Command) :
    Step Unit := do
  match todo with
  | word :: rest =>
    match ← attempt (expandFields word) with
    | some fields => replaceTop (.eachWords name rest (fields.reverse ++ done) body)
    | none => pure ()
  | [] =>
    popFrame
    setStatus 0
    modifyShell fun s => { s with loops := s.loops + 1 }
    push .loop
    push (.each name done.reverse body)

/-- Turn a loop over fields once more. -/
def eachTurn (name : String) (fields : List Raw) (body : List Command) : Step Unit := do
  match fields with
  | [] => popFrame
  | field :: rest =>
    match ← attempt (assignVariable name field) with
    | none => pure ()
    | some () =>
      replaceTop (.each name rest body)
      push (.sequence body)

/-- Look for a pattern that fits. -/
def chooseBranch (subject : Raw) (patterns : List Word) (body : List Command)
    (others : List (List Word × List Command)) : Step Unit := do
  match patterns with
  | pattern :: rest =>
    match ← attempt (expandPattern pattern) with
    | none => pure ()
    | some pieces =>
      if fits pieces subject then
        popFrame
        if body.isEmpty then setStatus 0 else push (.sequence body)
      else replaceTop (.choice subject rest body others)
  | [] =>
    match others with
    | (patterns, body) :: others => replaceTop (.choice subject patterns body others)
    | [] =>
      popFrame
      setStatus 0

/-! ## Scripts -/

/-- Carry out the next line of a script. -/
def scriptNext (total : Nat) (isShown : Bool) (rest : Raw) : Step Unit := do
  let s ← shell
  let reveal (upTo : Raw) : Step Unit := do
    if isShown ∧ s.has "verbose" then writeError (rest.take (rest.length - upTo.length))
  match readLine s.aliases total rest with
  | .error fault =>
    reveal []
    setLine fault.line
    fail fault.message.toList
  | .ok ([], _) =>
    reveal []
    popFrame
  | .ok (commands, rest') =>
    reveal rest'
    let frames := (← get).current.frames
    -- a text ends with its last command if no line end follows
    if frames.length = 1 ∧ ¬ isShown ∧ rest'.isEmpty ∧ rest.getLast? ≠ some '\n' ∧
        (Raw.find? ['<', '<'] rest).isNone then popFrame
    else replaceTop (.script total isShown rest')
    push (.sequence commands)

/-- Read a script from the input. -/
def readScript (done : List Raw) : Step Unit := do
  match ← readSome 0 with
  | .text raw => replaceTop (.input (raw :: done))
  | .later pipe => block (.input pipe)
  | _ =>
    let script := done.reverse.flatten
    replaceTop (.script (lineEnds script) true script)

/-! ## Ends and signals -/

/-- Put what is to be done on a signal on top. -/
def pushTrap (action : Raw) : Step Unit := do
  let s ← shell
  push (.status s.status)
  push (.shield s.isShielded)
  modifyShell fun t => { t with isShielded := false }
  pushVoice []
  pushScript action

/-- Take care of a signal that has come. -/
def takeSignal (signal : Nat) : Step Unit := do
  modifyShell fun s => { s with pending := s.pending.drop 1 }
  match (← shell).traps.lookup signal with
  | some (c :: action) => pushTrap (c :: action)
  | _ => pure ()

/-- End the shell, after what is to be done then. -/
def endShell : Step Unit := do
  let s ← shell
  match s.traps.lookup 0 with
  | some (c :: action) =>
    modifyShell fun s => { s with traps := s.traps.filter (·.1 != 0) }
    push .ending
    pushTrap (c :: action)
  | _ => finish (.exit (s.status % 256))

/-- Whether signals are taken care of before a frame. -/
def Frame.isCalm : Frame → Bool
  | .expand _ _ _ _ => false
  | .redirect _ _ _ => false
  | .assign _ _ _ _ => false
  | .invoke _ => false
  | .eachWords _ _ _ _ => false
  | .subject _ _ => false
  | .choice _ _ _ _ => false
  | .await _ => false
  | .gather _ _ _ => false
  | .joinAll => false
  | .join _ _ => false
  | .read _ _ _ => false
  | _ => true

/-! ## Steps -/

/-- Do a part of what is on top. -/
def stepFrame (frame : Frame) : Step Unit := do
  match frame with
  | .script total isShown rest => scriptNext total isShown rest
  | .input done => readScript done
  | .command command =>
    popFrame
    runCommand command
  | .sequence [] => popFrame
  | .sequence [command] => replaceTop (.command command)
  | .sequence (command :: rest) =>
    replaceTop (.sequence rest)
    push (.command command)
  | .expand todo done assignments redirects => expandNext todo done assignments redirects
  | .redirect todo done next => redirectNext todo done next
  | .assign todo done fields shown => assignNext todo done fields shown
  | .invoke fields => invoke fields
  | .eachWords name todo done body => eachWords name todo done body
  | .each name fields body => eachTurn name fields body
  | .subject word branches =>
    match ← attempt (expandText word) with
    | some raw => replaceTop (.choice raw [] [] branches)
    | none => pure ()
  | .choice subject patterns body others => chooseBranch subject patterns body others
  | .test loop status =>
    let isTrue := (← shell).status = 0
    if isTrue = loop.untilTrue then
      popFrame
      setStatus status
    else
      replaceTop (.turn loop)
      push (.sequence loop.body)
  | .turn loop =>
    replaceTop (.test loop (← shell).status)
    pushTest loop.test
  | .choose body otherwise =>
    popFrame
    if (← shell).status = 0 then push (.sequence body)
    else if otherwise.isEmpty then setStatus 0
    else push (.sequence otherwise)
  | .andThen second =>
    popFrame
    if (← shell).status = 0 then push (.command second)
  | .orElse second =>
    popFrame
    if (← shell).status ≠ 0 then push (.command second)
  | .negate =>
    popFrame
    setStatus (if (← shell).status = 0 then 1 else 0)
  | .check =>
    popFrame
    let s ← shell
    if s.has "errexit" ∧ ¬ s.isShielded ∧ s.status ≠ 0 then unwind .exit
  | .await processes => await processes
  | .gather process descriptor done => gather process descriptor done
  | .joinAll => joinAll
  | .join names status => joinNext names status
  | .read names isRaw done => readNext names isRaw done
  | .status status =>
    popFrame
    setStatus status
  | .ending =>
    popFrame
    finish (.exit ((← shell).status % 256))
  | frame =>
    popFrame
    dropFrame frame

/-- One step of the current process, which is a shell. -/
def step : Step Unit := do
  let p := (← get).current
  match p.frames with
  | [] => endShell
  | frame :: _ =>
    match p.state.pending with
    | signal :: _ => if frame.isCalm then takeSignal signal else stepFrame frame
    | [] => stepFrame frame

end Shell
end MakeTen
