import MakeTen.Tool.Job
/-!
# Options

How programs read their arguments.  Short options are letters after a hyphen,
long ones names after two; a value stands in the same argument or in the next
one.  Options may stand among the other arguments unless a program says that
the first of these ends them, and two hyphens end them in any case.

Main definitions:

- Structure `Tool.Flag`: an option that a program knows.
- Definition `Tool.flags`: the options that a text describes.
- Function `Tool.options`: the options and operands of a job.
-/

namespace MakeTen
namespace Tool

/-- Whether an option takes a value. -/
inductive Takes where
  | nothing
  | needed
  /-- A value may follow in the same argument. -/
  | allowed
  deriving DecidableEq

/-- An option by its names, the first of which is what it is known by. -/
structure Flag where
  names : List Raw
  takes : Takes

/-- The options that a text describes: words, each with the names of one option
between commas, and a colon at its end if the option needs a value, or a question
mark if it may have one. -/
def flags (text : String) : List Flag :=
  (Raw.words text.toList).map fun word =>
    let takes : Takes := match word.getLast? with
      | some ':' => .needed
      | some '?' => .allowed
      | _ => .nothing
    let body := if takes = .nothing then word else word.dropLast
    ⟨Raw.splitOn ',' body, takes⟩

/-- What an option is known by. -/
def Flag.key (f : Flag) : String :=
  String.ofList (f.names.head?.getD [])

/-- Options with their values, in the order in which they were given, and the
other arguments. -/
structure Chosen where
  options : List (String × Raw)
  /-- How the options were written. -/
  spellings : List Raw
  operands : List Raw

/-- Whether an option was given. -/
def Chosen.has (c : Chosen) (key : String) : Bool :=
  c.options.any (·.1 == key)

/-- The last value that was given for an option. -/
def Chosen.value? (c : Chosen) (key : String) : Option Raw :=
  c.options.reverse.lookup key

/-- The options in the order in which they were given, each with how it was written. -/
def Chosen.all (c : Chosen) : List (String × Raw × Raw) :=
  (c.options.zip c.spellings).map fun (o, spelling) => (o.1, o.2, spelling)

/-- The last one of some options that was given. -/
def Chosen.last? (c : Chosen) (keys : List String) : Option String :=
  (c.options.reverse.find? fun o => keys.contains o.1).map Prod.fst

/-- What is wrong with an option, in words. -/
inductive FlagFault where
  | unknownLetter (letter : Char)
  | unknownName (name : Raw)
  | ambiguous (name : Raw) (possible : List Raw)
  | letterNeedsValue (letter : Char)
  | nameNeedsValue (name : Raw)
  | noValue (name : Raw)

/-- The fault in words. -/
def FlagFault.text : FlagFault → Raw
  | .unknownLetter letter => "invalid option -- '".toList ++ [letter, '\'']
  | .unknownName name => "unrecognized option '--".toList ++ name ++ ['\'']
  | .ambiguous name possible =>
    "option '--".toList ++ name ++ "' is ambiguous; possibilities:".toList ++
      possible.flatMap fun p => " '--".toList ++ p ++ ['\'']
  | .letterNeedsValue letter => "option requires an argument -- '".toList ++ [letter, '\'']
  | .nameNeedsValue name => "option '--".toList ++ name ++ "' requires an argument".toList
  | .noValue name => "option '--".toList ++ name ++ "' doesn't allow an argument".toList

/-- The option of a letter. -/
def letterFlag? (known : List Flag) (letter : Char) : Option Flag :=
  known.find? fun f => f.names.contains [letter]

/-- The option of a long name, or of the start of one that no other option
shares, with the whole name. -/
def nameFlag? (known : List Flag) (name : Raw) : Except FlagFault (Flag × Raw) :=
  let all := known.flatMap fun f => (f.names.filter (1 < ·.length)).map fun n => (f, n)
  match all.find? (·.2 = name) with
  | some found => .ok found
  | none =>
    match all.filter fun a => name.isPrefixOf a.2 with
    | [] => .error (.unknownName name)
    | found :: rest =>
      if rest.all (·.1.key == found.1.key) then .ok found
      else .error (.ambiguous name ((found :: rest).map Prod.snd))

/-- Options as they are read: those before the first fault, and the fault. -/
structure FlagReading where
  chosen : Chosen
  fault : Option FlagFault

/-- The reading with one more option in front. -/
def FlagReading.add (r : FlagReading) (spelling : Raw) (key : String) (value : Raw) :
    FlagReading :=
  { r with chosen :=
    { r.chosen with
      options := (key, value) :: r.chosen.options
      spellings := spelling :: r.chosen.spellings } }

/-- Where options may stand among operands. -/
inductive Arrangement where
  | optionsFirst
  | anyOrder
  /-- In any order, where each operand counts as an option without a name. -/
  | inPlace
  /-- First, and only up to the option of a key. -/
  | upTo (key : String)
  /-- First, and only up to an argument of some kind. -/
  | before (isEnd : Raw → Bool)

/-- Whether an argument ends the options by what it looks like. -/
def Arrangement.endsAt (a : Arrangement) (argument : Raw) : Bool :=
  match a with
  | .before isEnd => isEnd argument
  | _ => false

/-- Whether an option is the last one. -/
def Arrangement.endsAfter (a : Arrangement) (key : String) : Bool :=
  match a with
  | .upTo last => key == last
  | _ => false

/-- The options among some arguments.  The letters of an argument are read one
after the other; `letters` are those left of it. -/
def readFlags (known : List Flag) (arrangement : Arrangement) :
    Nat → Raw → List Raw → FlagReading
  | 0, _, _ => ⟨⟨[], [], []⟩, none⟩
  | fuel + 1, letters, arguments =>
    let faulty (fault : FlagFault) : FlagReading := ⟨⟨[], [], []⟩, some fault⟩
    let next := readFlags known arrangement fuel
    let valued (spelling : Raw) (key : String) (value : Raw) (rest : List Raw) : FlagReading :=
      (if arrangement.endsAfter key then ⟨⟨[], [], rest⟩, none⟩ else next [] rest).add
        spelling key value
    match letters with
    | letter :: more =>
      match letterFlag? known letter with
      | none => faulty (.unknownLetter letter)
      | some f =>
        let spelling := ['-', letter]
        match f.takes with
        | .nothing => (next more arguments).add spelling f.key []
        | .allowed => (next [] arguments).add spelling f.key more
        | .needed =>
          if ¬ more.isEmpty then valued spelling f.key more arguments
          else
            match arguments with
            | value :: rest => valued spelling f.key value rest
            | [] => faulty (.letterNeedsValue letter)
    | [] =>
      if (arguments.head?.map arrangement.endsAt).getD false then ⟨⟨[], [], arguments⟩, none⟩
      else match arguments with
      | [] => ⟨⟨[], [], []⟩, none⟩
      | ['-', '-'] :: rest => ⟨⟨[], [], rest⟩, none⟩
      | ('-' :: '-' :: body) :: rest =>
        let name := body.takeWhile (· ≠ '=')
        let value : Option Raw :=
          if name.length < body.length then some (body.drop (name.length + 1)) else none
        match nameFlag? known name with
        | .error fault => faulty fault
        | .ok (f, whole) =>
          let spelling := "--".toList ++ whole
          match f.takes, value with
          | .nothing, some _ => faulty (.noValue whole)
          | .needed, none =>
            match rest with
            | value :: rest => valued spelling f.key value rest
            | [] => faulty (.nameNeedsValue whole)
          | _, value => valued spelling f.key (value.getD []) rest
      | ('-' :: letter :: more) :: rest => next (letter :: more) rest
      | operand :: rest =>
        match arrangement with
        | .anyOrder =>
          let r := next [] rest
          { r with chosen := { r.chosen with operands := operand :: r.chosen.operands } }
        | .inPlace => (next [] rest).add [] "" operand
        | _ => ⟨⟨[], [], operand :: rest⟩, none⟩

/-- The options and operands among some arguments, as far as they can be read. -/
def arrangedReading (known : String) (arrangement : Arrangement) (arguments : List Raw) :
    FlagReading :=
  let fuel := (arguments.map List.length).foldl (· + ·) 0 + arguments.length + 2
  readFlags (flags (known ++ " help version")) arrangement fuel [] arguments

/-- The options and operands among some arguments, as far as they can be read. -/
def readingOf (known : String) (permutes : Bool) (arguments : List Raw) : FlagReading :=
  arrangedReading known (if permutes then .anyOrder else .optionsFirst) arguments

/-- The options and operands among some arguments, or what is wrong with them. -/
def chosenOf (known : String) (permutes : Bool) (arguments : List Raw) :
    Except FlagFault Chosen :=
  let r := readingOf known permutes arguments
  match r.fault with
  | some fault => .error fault
  | none => .ok r.chosen

/-- The options before the first one that asks for help, and whether there is such one. -/
def Chosen.beforeHelp (c : Chosen) : Chosen × Bool :=
  let options := c.options.takeWhile fun (key, _) => key != "help" && key != "version"
  ({ c with options, spellings := c.spellings.take options.length },
    options.length < c.options.length)

/-- Say how a program is used, and end the job. -/
def sayUsage {α : Type} : Job α := do
  sayLine ("Usage: ".toList ++ (← get).call.name ++ " [OPTION]...".toList)
  exit 0

/-- The options and operands of a job.  If there is something wrong with them, the
job ends with a status. -/
def optionsOf (known : String) (permutes : Bool) (status : Nat) (arguments : List Raw) :
    Job Chosen := do
  match chosenOf known permutes arguments with
  | .error fault => giveUsage status fault.text
  | .ok chosen => if chosen.beforeHelp.2 then sayUsage else return chosen

/-- The options and operands of a job, in any order. -/
def options (known : String) : Job Chosen := do
  optionsOf known true 1 (← get).call.arguments

/-- The options and operands of a job, the options first. -/
def leadingOptions (known : String) (status : Nat) : Job Chosen := do
  optionsOf known false status (← get).call.arguments

/-- What the options of a reading come to, each looked at in turn, and the options and
operands.  What is wrong with an option counts before what is wrong with a later one. -/
def FlagReading.foldJob {σ : Type} (r : FlagReading) (status : Nat) (state : σ)
    (next : σ → String → Raw → Raw → Job σ) : Job (σ × Chosen) := do
  let (chosen, asksHelp) := r.chosen.beforeHelp
  let mut state := state
  for (key, value, spelling) in chosen.all do
    state ← next state key value spelling
  if asksHelp then sayUsage
  match r.fault with
  | some fault => giveUsage status fault.text
  | none => return (state, chosen)

/-- What the options of a job come to, each looked at in turn, and the options and
operands. -/
def foldOptions {σ : Type} (known : String) (permutes : Bool) (status : Nat)
    (arguments : List Raw) (state : σ) (next : σ → String → Raw → Raw → Job σ) :
    Job (σ × Chosen) :=
  (readingOf known permutes arguments).foldJob status state next

/-! ## Operands -/

/-- A path in a complaint, between quotes only if it needs them. -/
def shown (path : Raw) : Raw :=
  if path.contains ':' then Quoting.alwaysForShell path else Quoting.forShell path

/-- A path in a complaint, between quotes. -/
def named (path : Raw) : Raw :=
  Quoting.alwaysForShell path

/-- Complain about a file. -/
def complainOf (path : Raw) (fault : HostFault) : Job Unit :=
  complain (shown path ++ ": ".toList ++ faultText fault)

/-- Whether a file can be opened but not read. -/
def failsReading (fault : HostFault) : Bool :=
  fault == .isDirectory || fault == .badDescriptor

/-- Complain that no operand is given, and end the job. -/
def missingOperand {α : Type} (status : Nat) : Job α :=
  giveUsage status "missing operand".toList

/-- Complain that an operand is missing after another one, and end the job. -/
def missingAfter {α : Type} (status : Nat) (operand : Raw) : Job α :=
  giveUsage status ("missing operand after ".toList ++ Quoting.forReader operand)

/-- Complain about an operand too many, and end the job. -/
def extraOperand {α : Type} (status : Nat) (operand : Raw) : Job α :=
  giveUsage status ("extra operand ".toList ++ Quoting.forReader operand)

/-- The group of words that an argument is one of, or the start of one that no other group
shares if words may be cut short; the answer is the first word of the group.  The complaint
about others says what the argument is for. -/
def chooseWord (status : Nat) (purpose : String) (isShort : Bool) (groups : List (List String))
    (value : Raw) : Job String := do
  let startsWith (group : List String) : Bool :=
    isShort && group.any fun word => value.isPrefixOf word.toList
  match groups.find? fun group => group.any (·.toList = value), groups.filter startsWith with
  | some group, _ => return group.headD ""
  | none, [group] => return group.headD ""
  | none, starts =>
    let word := if starts.isEmpty then "invalid" else "ambiguous"
    complain (word.toList ++ " argument ".toList ++ Quoting.forReader value ++ " for ".toList ++
      Quoting.forReader purpose.toList)
    grumble "Valid arguments are:".toList
    for group in groups do
      grumble ("  - ".toList ++ Raw.join ", ".toList
        (group.map fun word => Quoting.forReader word.toList))
    grumble ("Try '".toList ++ (← get).call.name ++ " --help' for more information.".toList)
    exit status

/-- The operands, or the input if there are none. -/
def Chosen.files (c : Chosen) : List Raw :=
  if c.operands.isEmpty then [['-']] else c.operands

/-- Do something with the contents of files, one after the other; complain about
those that cannot be read.  The answer is whether all could be read. -/
def eachFile (files : List Raw) (action : Raw → Raw → Job Unit) : Job Bool := do
  let mut isGood := true
  for path in files do
    match ← operand path with
    | .ok raw => action path raw
    | .error fault =>
      flush
      complainOf path fault
      isGood := false
  return isGood

/-- End the job with status zero, or one if something has gone wrong. -/
def exitGood {α : Type} (isGood : Bool) : Job α :=
  exit (if isGood then 0 else 1)

/-- End the job after some files.  If the input is among them and was never open, it
cannot be closed either, and a complaint names it as given. -/
def exitClosing {α : Type} (isGood : Bool) (files : List Raw) (name : String) : Job α := do
  if files.contains ['-'] ∧ (← get).call.inputFault = some .badDescriptor then
    flush
    complain (name.toList ++ ": Bad file descriptor".toList)
    exit 1
  else exitGood isGood

/-- The name of a file for people. -/
def prettyName (path : Raw) : Raw :=
  if path = ['-'] then "standard input".toList else path

/-- The whole number that some digits spell, after blanks and a plus sign if there are
any. -/
def wholeNumber? (raw : Raw) : Option Nat :=
  let body := raw.dropWhile Raw.isSpace
  Raw.toNat? (if body.head? = some '+' then body.drop 1 else body)

/-- What is wrong with a number. -/
inductive NumberFault where
  | none
  | suffix
  | tooLarge

/-- The number that some digits spell, with a letter for a multiple from those that are
allowed, after blanks and a plus sign if there are any.  Base zero means that the digits
say the base themselves.  A multiple may be followed by a letter that says what a thousand
is, if a zero is among the letters. -/
def scaled? (base : Nat) (units : String) (raw : Raw) : Except NumberFault Nat :=
  let body := raw.dropWhile Raw.isSpace
  let body := if body.head? = some '+' then body.drop 1 else body
  let (base, body) : Nat × Raw := match base, body with
    | 0, '0' :: 'x' :: c :: rest => if Raw.isHexadecimal c then (16, c :: rest) else (8, body)
    | 0, '0' :: 'X' :: c :: rest => if Raw.isHexadecimal c then (16, c :: rest) else (8, body)
    | 0, '0' :: _ => (8, body)
    | 0, _ => (10, body)
    | base, _ => (base, body)
  let isDigit : Char → Bool := if base = 16 then Raw.isHexadecimal
    else if base = 8 then Raw.isOctal else Char.isDigit
  let digits := body.takeWhile isDigit
  let rest := body.drop digits.length
  let units := units.toList
  let isKnown (c : Char) : Bool := c != '0' && units.contains c
  if digits.isEmpty ∧ ¬ (rest.head?.any isKnown ∧ raw.head? = rest.head?) then .error .none
  else
    let n := if digits.isEmpty then 1 else Raw.valueIn base digits
    let thousand (rest : Raw) : Nat × Raw :=
      if ¬ units.contains '0' then (1024, rest)
      else
        match rest with
        | 'i' :: 'B' :: rest => (1024, rest)
        | 'B' :: rest => (1000, rest)
        | 'D' :: rest => (1000, rest)
        | rest => (1024, rest)
    let power (c : Char) : Option Nat := match c with
      | 'k' => some 1
      | 'K' => some 1
      | 'm' => some 2
      | 'M' => some 2
      | 'g' => some 3
      | 'G' => some 3
      | 't' => some 4
      | 'T' => some 4
      | 'P' => some 5
      | 'E' => some 6
      | 'Z' => some 7
      | 'Y' => some 8
      | _ => none
    let finish (factor : Nat) (rest : Raw) : Except NumberFault Nat :=
      if ¬ rest.isEmpty then .error .suffix
      else if 18446744073709551616 ≤ n * factor then .error .tooLarge
      else .ok (n * factor)
    match rest with
    | [] => finish 1 []
    | c :: rest =>
      if ¬ isKnown c then .error .suffix
      else
        match c, power c with
        | 'b', _ => finish 512 rest
        | 'B', _ => finish 1024 rest
        | 'c', _ => finish 1 rest
        | 'w', _ => finish 2 rest
        | _, some p =>
          let (k, rest) := thousand rest
          finish ((List.replicate p k).foldl (· * ·) 1) rest
        | _, none => .error .suffix

/-- The number that an option asks for, or a complaint about the option as it was
written, which ends the job with a status. -/
def scaledOr (status base : Nat) (units : String) (spelling value : Raw) : Job Nat := do
  let after := spelling ++ " argument '".toList ++ value ++ ['\'']
  match scaled? base units value with
  | .ok n => return n
  | .error .none => giveUp status ("invalid ".toList ++ after)
  | .error .suffix => giveUp status ("invalid suffix in ".toList ++ after)
  | .error .tooLarge => giveUp status (after ++ " too large".toList)

/-- The number that an option asks for, or a complaint about the option as it was
written. -/
def scaledOption (base : Nat) (units : String) (spelling value : Raw) : Job Nat :=
  scaledOr 1 base units spelling value

/-- A number between bounds, with a letter for a multiple from those that are allowed; a
complaint about others says what the number is for. -/
def numberWithin (what : String) (least most : Nat) (units : String) (raw : Raw) :
    Job Nat := do
  let complaint := what.toList ++ ": ".toList ++ Quoting.forReader raw
  let tooLarge : Raw := ": Value too large for defined data type".toList
  match scaled? 10 units raw with
  | .ok n =>
    if least ≤ n ∧ n ≤ most then return n
    else if 9223372036854775807 < n then giveUp 1 (complaint ++ tooLarge)
    else giveUp 1 (complaint ++ ": Numerical result out of range".toList)
  | .error .tooLarge => giveUp 1 (complaint ++ tooLarge)
  | .error _ => giveUp 1 complaint

/-- The greatest number that a machine word without a sign holds. -/
def unsignedLimit : Nat := 18446744073709551615

/-- The number of decimal digits with a letter for a multiple, as sizes are
given. -/
def size? (raw : Raw) : Option Nat :=
  let body := raw.dropWhile Raw.isSpace
  let raw := if body.head? = some '+' then body.drop 1 else body
  let digits := raw.takeWhile Char.isDigit
  let unit : Option Nat := match String.ofList (raw.drop digits.length) with
    | "" => some 1
    | "b" => some 512
    | "c" => some 1
    | "w" => some 2
    | "k" => some 1024
    | "K" => some 1024
    | "KiB" => some 1024
    | "kB" => some 1000
    | "KB" => some 1000
    | "m" => some 1048576
    | "M" => some 1048576
    | "MiB" => some 1048576
    | "MB" => some 1000000
    | "G" => some 1073741824
    | "GB" => some 1000000000
    | "GiB" => some 1073741824
    | "T" => some 1099511627776
    | _ => none
  if digits.isEmpty then none else unit.map fun u => Raw.valueIn 10 digits * u

end Tool
end MakeTen
