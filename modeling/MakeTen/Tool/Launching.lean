import MakeTen.Host.Search
import MakeTen.Host.Signal
import MakeTen.Number.Floating
import MakeTen.Tool.Options
/-!
# Programs that start programs

Programs that start another one with other variables, with a limit of time, or
with arguments that are read, and those that let time pass.

Main definitions:

- Function `Tool.env`: a program with other variables.
- Function `Tool.timeoutProgram`: a program with a limit of time.
- Functions `Tool.nice`, `Tool.nohup`, `Tool.sleep` and `Tool.printenv`: smaller
  programs of the kind.
-/

namespace MakeTen
namespace Tool

/-! ## Starting -/

/-- The search path that some variables give. -/
def pathOf (environment : List (Raw × Raw)) : String :=
  Raw.toString ((environment.lookup "PATH".toList).getD "/bin:/usr/bin".toList)

/-- Why a program cannot be started with some arguments, if there is a reason. -/
def launchFault? (environment : List (Raw × Raw)) (words : List Raw) :
    Job (Option HostFault) := do
  let name := words.headD []
  match (← get).files.findProgram (pathOf environment) (Raw.toString name) with
  | .ok _ => return if fitsArguments name words environment then none else some .argumentsTooLong
  | .error fault => return some fault

/-- The status of a program that cannot be started. -/
def launchStatus (fault : HostFault) : Nat :=
  if fault = .missing then 127 else 126

/-- Let another program take the place of this one, or complain with some words
in front. -/
def becomeProgram (words : List Raw) (environment : List (Raw × Raw))
    (directory : Option Raw) (lead : Raw → Raw) : Job Unit := do
  let name := words.headD []
  match ← launchFault? environment words with
  | none => throw (.become words environment directory)
  | some fault =>
    complain (lead name ++ ": ".toList ++ faultText fault)
    exit (launchStatus fault)

/-! ## Variables -/

/-- Variables with another one, in place of the one of its name or at the end. -/
def setEntry (name value : Raw) : List (Raw × Raw) → List (Raw × Raw)
  | [] => [(name, value)]
  | (other, old) :: rest =>
    if other = name then (name, value) :: rest else (other, old) :: setEntry name value rest

/-- Arguments of the form of assignments at the head of a list, and the rest. -/
def splitAssignments : List Raw → List (Raw × Raw) × List Raw
  | [] => ([], [])
  | word :: rest =>
    if word.contains '=' then
      let name := word.takeWhile (· ≠ '=')
      let (more, rest) := splitAssignments rest
      ((name, word.drop (name.length + 1)) :: more, rest)
    else ([], word :: rest)

/-- Write variables. -/
def sayVariables (finish : Char) (environment : List (Raw × Raw)) : Job Unit := do
  for (name, value) in environment do
    say (name ++ '=' :: value ++ [finish])

/-- A character after a backslash in a text that is split into arguments. -/
def splitEscape (c : Char) : Char :=
  match c with
  | 'n' => '\n'
  | 't' => '\t'
  | 'r' => '\r'
  | 'v' => Char.ofNat 11
  | 'f' => Char.ofNat 12
  | '_' => ' '
  | c => c

/-- A text split into arguments at blanks; quotes keep parts together, and names in
braces after a dollar sign stand for variables.  `word` is the argument so far,
backwards, if one has begun. -/
def splitText (environment : List (Raw × Raw)) :
    Nat → Option Char → Option Raw → Raw → Except Raw (List Raw)
  | 0, _, _, _ => .ok []
  | fuel + 1, quote, word, raw =>
    let add (c : Char) : Option Raw := some (c :: word.getD [])
    match raw with
    | [] =>
      match quote with
      | some _ => .error "no terminating quote in -S string".toList
      | none => .ok (word.toList.map List.reverse)
    | c :: rest =>
      if quote = some c then splitText environment fuel none (some (word.getD [])) rest
      else if quote.isNone ∧ (c = '\'' ∨ c = '"') then
        splitText environment fuel (some c) (some (word.getD [])) rest
      else if quote.isNone ∧ Raw.isSpace c then
        (splitText environment fuel none none rest).map (word.toList.map List.reverse ++ ·)
      else if quote.isNone ∧ word.isNone ∧ c = '#' then .ok []
      else if c = '\\' ∧ quote ≠ some '\'' then
        match rest with
        | d :: rest =>
          if d = '_' ∧ quote.isNone then
            (splitText environment fuel none none rest).map (word.toList.map List.reverse ++ ·)
          else splitText environment fuel quote (add (splitEscape d)) rest
        | [] => .error "invalid backslash at end of string in -S".toList
      else if c = '$' ∧ quote ≠ some '\'' then
        match rest with
        | '{' :: inner =>
          let name := inner.takeWhile Raw.inName
          if Raw.isName name ∧ (inner.drop name.length).head? = some '}' then
            let value := (environment.lookup name).getD []
            splitText environment fuel quote (some (value.reverse ++ word.getD []))
              (inner.drop (name.length + 1))
          else .error ("only $\x7bVARNAME\x7d expansion is supported, error at: ".toList ++ raw)
        | _ => .error ("only $\x7bVARNAME\x7d expansion is supported, error at: ".toList ++ raw)
      else splitText environment fuel quote (add c) rest

/-- The options that a program with other variables knows. -/
def envFlags : String :=
  "i,ignore-environment 0,null u,unset: C,chdir: S,split-string: v,debug " ++
    "ignore-signal? default-signal? block-signal? list-signal-handling"

/-- What is asked for: with no variables to begin with, without some of them, in another
directory, with zero bytes for line ends, and with a report of every step. -/
structure EnvTask where
  clears : Bool
  unset : List Raw
  directory : Option Raw
  endsWithNul : Bool
  reports : Bool

/-- Say what is done, if that is asked for. -/
def EnvTask.report (t : EnvTask) (what : String) (raw : Raw) : Job Unit := do
  if t.reports then grumble (what.toList ++ raw)

/-- What is asked for, and the arguments after the options.  A text that is to be split
takes the place of its option, and options go on with it. -/
def envTask : Nat → EnvTask → List Raw → Job (EnvTask × List Raw)
  | 0, t, arguments => return (t, arguments)
  | fuel + 1, t, arguments => do
    let reading := arrangedReading envFlags (.upTo "S") arguments
    let (t, o) ← reading.foldJob 125 t fun t key value _ => return match key with
      | "i" => { t with clears := true }
      | "u" => { t with unset := t.unset ++ [value] }
      | "C" => { t with directory := some value }
      | "0" => { t with endsWithNul := true }
      | "v" => { t with reports := true }
      | _ => t
    match o.value? "S" with
    | none => return (t, o.operands)
    | some text =>
      match splitText (← get).call.environment (2 * text.length + 2) none none text with
      | .error fault => giveUp 125 fault
      | .ok words =>
        if ¬ words.isEmpty then t.report "split -S:  " (Quoting.forReader text)
        for (word, n) in words.zipIdx do
          t.report (if n = 0 then " into:    " else "     &    ") (Quoting.forReader word)
        envTask fuel t (words ++ o.operands)

/-- Start a program with other variables, or show them. -/
def env : Job Unit := do
  let call := (← get).call
  let fuel := (call.arguments.map List.length).foldl (· + ·) 0 + 1
  let (t, operands) ← envTask fuel ⟨false, [], none, false, false⟩ call.arguments
  let (clears, operands) : Bool × List Raw := match operands with
    | ['-'] :: rest => (true, rest)
    | operands => (t.clears, operands)
  let mut environment := call.environment
  if clears then
    t.report "cleaning environ" []
    environment := []
  else
    for name in t.unset do
      t.report "unset:    " name
      if name.isEmpty ∨ name.contains '=' then
        giveUp 125 ("cannot unset ".toList ++ Quoting.forReader name ++
          ": Invalid argument".toList)
      environment := environment.filter (·.1 ≠ name)
  let (given, words) := splitAssignments operands
  for (name, value) in given do
    t.report "setenv:   " (name ++ '=' :: value)
    environment := setEntry name value environment
  match words with
  | [] =>
    if t.directory.isSome then giveUsage 125 "must specify command with --chdir (-C)".toList
    sayVariables (if t.endsWithNul then Raw.nul else '\n') environment
  | name :: rest =>
    if t.endsWithNul then giveUsage 125 "cannot specify --null (-0) with command".toList
    match t.directory with
    | none => pure ()
    | some path =>
      t.report "chdir:    " (named path)
      match (← get).files.follow (Raw.toString path) with
      | .error fault =>
        giveUp 125 ("cannot change directory to ".toList ++ named path ++ ": ".toList ++
          faultText fault)
      | .ok place =>
        if (← get).files.at? place matches some .directory then
          modify fun d => { d with files := { d.files with here := place } }
        else
          giveUp 125 ("cannot change directory to ".toList ++ named path ++ ": ".toList ++
            faultText .notDirectory)
    t.report "executing: " name
    for (word, n) in (name :: rest).zipIdx do
      t.report "   arg[" (Raw.ofNat n ++ "]= ".toList ++ Quoting.forReader word)
    match ← launchFault? environment (name :: rest) with
    | none => throw (.become (name :: rest) environment t.directory)
    | some fault =>
      complain (Quoting.forReader name ++ ": ".toList ++ faultText fault)
      if fault = .missing ∧ name.contains ' ' then
        complain "use -[v]S to pass options in shebang lines".toList
      exit (launchStatus fault)

/-- Show variables. -/
def printenv : Job Unit := do
  let o ← leadingOptions "0,null" 2
  let finish := if o.has "0" then Raw.nul else '\n'
  let environment := (← get).call.environment
  if o.operands.isEmpty then sayVariables finish environment
  let mut isGood := true
  for name in o.operands do
    match environment.lookup name with
    | some value => say (value ++ [finish])
    | none => isGood := false
  exitGood isGood

/-! ## Priority and signals -/

/-- Arguments where a hyphen with a number alone stands for an option with that
number, as far as options go. -/
def spellAdjustments : List Raw → List Raw
  | ('-' :: c :: more) :: rest =>
    let digits := if c = '-' ∨ c = '+' then more else c :: more
    if ¬ digits.isEmpty ∧ digits.all Char.isDigit then
      ("-n".toList ++ c :: more) :: spellAdjustments rest
    else if c = 'n' ∧ more.isEmpty then
      match rest with
      | value :: rest => "-n".toList :: value :: spellAdjustments rest
      | [] => ["-n".toList]
    else (('-' :: c :: more) :: rest)
  | rest => rest

/-- Start a program with a lower priority. -/
def nice : Job Unit := do
  let call := (← get).call
  let o ← optionsOf "n,adjustment:" false 125 (spellAdjustments call.arguments)
  match o.value? "n" with
  | some text =>
    let digits := if text.head? = some '+' then text.drop 1 else text
    if (Raw.toInt? digits).isNone then
      giveUp 125 ("invalid adjustment ".toList ++ Quoting.forReader text)
  | none => pure ()
  if o.operands.isEmpty then
    if o.has "n" then giveUsage 125 "a command must be given with an adjustment".toList
    sayLine ['0']
  else becomeProgram o.operands call.environment none Quoting.forReader

/-- Start a program that goes on when its terminal is gone. -/
def nohup : Job Unit := do
  let o ← leadingOptions "" 125
  if o.operands.isEmpty then missingOperand 125
  becomeProgram o.operands (← get).call.environment none fun name =>
    "failed to run command ".toList ++ named name

/-- Start a program in a session of its own. -/
def setsid : Job Unit := do
  let o ← leadingOptions "c,ctty f,fork w,wait" 1
  if o.operands.isEmpty then
    complain "no command specified".toList
    grumble "Try 'setsid --help' for more information.".toList
    exit 1
  becomeProgram o.operands (← get).call.environment none fun name =>
    "failed to execute ".toList ++ name

/-- Start a program with other buffers. -/
def stdbuf : Job Unit := do
  let o ← leadingOptions "i,input: o,output: e,error:" 125
  if o.operands.isEmpty then missingOperand 125
  if o.options.isEmpty then
    giveUsage 125 "you must specify a buffering mode option".toList
  becomeProgram o.operands (← get).call.environment none fun name =>
    "failed to run command ".toList ++ Quoting.forReader name

/-! ## Time -/

/-- A length of time in nanoseconds: a number and perhaps a letter for its unit. -/
def duration? (raw : Raw) : Option Nat :=
  let r := FloatFormat.double.read raw
  let unit : Option Nat := match r.rest with
    | [] => some 1
    | ['s'] => some 1
    | ['m'] => some 60
    | ['h'] => some 3600
    | ['d'] => some 86400
    | _ => none
  let longest : Nat := 1000000000000000000
  if raw.isEmpty ∨ ¬ r.isNumber ∨ r.value.isNegative then none
  else
    unit.bind fun u =>
      match r.value with
      | .finite _ m e =>
        let scaled := m * u * 1000000000
        some (min longest (if 0 ≤ e then scaled <<< (min e 100).toNat
          else (scaled + (1 <<< (-e).toNat) - 1) >>> (-e).toNat))
      | .infinite _ => some longest
      | .undefined _ => none

/-- A complaint about something that is no length of time. -/
def badDuration (raw : Raw) : Raw :=
  "invalid time interval ".toList ++ Quoting.forReader raw

/-- Let time pass. -/
def sleep : Job Unit := do
  let o ← options ""
  if o.operands.isEmpty then missingOperand 1
  let times := o.operands.map fun raw => (raw, duration? raw)
  let bad := times.filter (·.2.isNone)
  match bad.getLast? with
  | some (last, _) =>
    for (raw, _) in bad.dropLast do
      complain (badDuration raw)
    giveUsage 1 (badDuration last)
  | none =>
    let _ ← ask (.pause ((times.filterMap Prod.snd).foldl (· + ·) 0))

/-- The length of time that an argument gives. -/
def durationOf (raw : Raw) : Job Nat := do
  match duration? raw with
  | some n => return n
  | none => giveUsage 125 (badDuration raw)

/-- Point to the help text and end the job. -/
def pointToHelp {α : Type} (status : Nat) : Job α := do
  grumble ("Try '".toList ++ (← get).call.name ++ " --help' for more information.".toList)
  exit status

/-- Start a program and end it when its time is over. -/
def timeoutProgram : Job Unit := do
  let call := (← get).call
  let o ← leadingOptions "k,kill-after: s,signal: v,verbose foreground preserve-status" 125
  let mut after : Option Nat := none
  let mut signal := 15
  for (key, value) in o.options do
    if key == "k" then after := some (← durationOf value)
    if key == "s" then
      match Signal.ofText? value with
      | some n => signal := n
      | none => giveUsage 125 (Quoting.forReader value ++ ": invalid signal".toList)
  match o.operands with
  | time :: name :: rest =>
    let limit ← durationOf time
    match ← launchFault? call.environment (name :: rest) with
    | some fault =>
      complain ("failed to run command ".toList ++ Quoting.forReader name ++ ": ".toList ++
        faultText fault)
      exit (launchStatus fault)
    | none => pure ()
    let second := after.getD 0
    let limits : List (Nat × Nat) := if limit = 0 then []
      else if second = 0 then [(limit, signal)]
      else [(limit, signal), (limit + second, 9)]
    let answer ← ask (.start ⟨name :: rest, call.environment, .shared, false, limits, false⟩)
    if o.has "v" then
      for n in answer.sent.reverse do
        let shownSignal := ((Signal.name? n).map String.toList).getD (Raw.ofNat n)
        complain ("sending signal ".toList ++ shownSignal ++ " to command ".toList ++
          Quoting.forReader name)
    if answer.sent.contains 9 ∧ ¬ o.has "foreground" then throw (.signal 9)
    else if answer.sent.isEmpty then
      if answer.isKilled then throw (.signal (answer.status - 128))
      exit answer.status
    else if o.has "preserve-status" ∨ answer.status = 137 then exit answer.status
    else exit 124
  | _ => pointToHelp 125

end Tool
end MakeTen
