import MakeTen.Tool.Launching
/-!
# Surroundings

Programs that tell something about the host: where programs are, who uses it,
what it is called, and what time it is.

Main definitions:

- Function `Tool.which`: the places of programs.
- Function `Tool.date`: the time in a format.
- Functions `Tool.tty`, `Tool.whoami`, `Tool.idProgram` and `Tool.uname`: what
  the host is.
-/

namespace MakeTen
namespace Tool

/-! ## Programs -/

/-- The paths that a name of a program leads to, in the order of the search
path. -/
def programPaths (files : Files) (searchPath name : String) : List String :=
  let isProgram (path : String) : Bool := match files.runnableAt path with
    | .ok _ => true
    | .error _ => false
  if name.toList.contains '/' then [name].filter isProgram
  else ((searchPath.splitOn ":").map fun d => Files.pathIn d name).filter isProgram

/-- The places of programs. -/
def which : Job Unit := do
  let d ← get
  let (o, rest) : List Raw × List Raw :=
    (d.call.arguments.takeWhile fun a => a == "-a".toList || a == "-s".toList,
      d.call.arguments.dropWhile fun a => a == "-a".toList || a == "-s".toList)
  let isAll := o.contains "-a".toList
  let isSilent := o.contains "-s".toList
  let rest := match rest with
    | ['-', '-'] :: rest => rest
    | rest => rest
  match rest with
  | ('-' :: c :: _) :: _ =>
    put 2 ("Illegal option -".toList ++ [c, '\n'])
    sayLine ("Usage: ".toList ++ d.call.name ++ " [-as] args".toList)
    exit 2
  | _ => pure ()
  if rest.isEmpty then exit 1
  let mut isGood := true
  for name in rest do
    match programPaths d.files (pathOf d.call.environment) (Raw.toString name) with
    | [] => isGood := false
    | first :: more =>
      if ¬ isSilent then
        for path in first :: (if isAll then more else []) do
          sayLine (Raw.ofString path)
  exitGood isGood

/-! ## The host -/

/-- The terminal, if the input is one. -/
def tty : Job Unit := do
  let o ← optionsOf "s,silent,quiet" true 2 (← get).call.arguments
  match o.operands with
  | extra :: _ => extraOperand 2 extra
  | [] =>
    if ¬ o.has "s" then sayLine "not a tty".toList
    exit 1

/-- The name of the one who runs programs. -/
def whoami : Job Unit := do
  let o ← options ""
  match o.operands with
  | extra :: _ => extraOperand 1 extra
  | [] => sayLine "root".toList

/-- A number with the name that goes with it. -/
def numberNamed (number : Nat) (name : Option String) : Raw :=
  Raw.ofNat number ++ (match name with
    | some name => '(' :: name.toList ++ [')']
    | none => [])

/-- The numbers and names of the one who runs programs, or of others. -/
def idProgram : Job Unit := do
  let (_, o) ← foldOptions "a Z,context g,group G,groups n,name r,real u,user z,zero" true 1
    (← get).call.arguments () fun _ key _ _ => do
      if key == "Z" then
        giveUp 1 "--context (-Z) works only on an SELinux-enabled kernel".toList
  let kinds := ["u", "g", "G"].filter o.has
  let usesNames := o.has "n"
  if 1 < kinds.length then
    giveUp 1 "cannot print \"only\" of more than one choice".toList
  if kinds.isEmpty ∧ (usesNames ∨ o.has "r") then
    giveUp 1 "cannot print only names or real IDs in default format".toList
  if kinds.isEmpty ∧ o.has "z" then
    giveUp 1 "option --zero not permitted in default format".toList
  let ending := if o.has "z" then Raw.nul else '\n'
  let isMany : Bool := 1 < o.operands.length
  let mut isGood := true
  for name in (if o.operands.isEmpty then ["root".toList] else o.operands) do
    match Account.named? (String.ofList name) with
    | none =>
      flush
      complain (Quoting.forReader name ++ ": no such user".toList)
      isGood := false
    | some a =>
      let group := Account.groupName? a.group
      match kinds with
      | ["u"] => say (if usesNames then a.name.toList else Raw.ofNat a.number)
      | [_] =>
        say (match usesNames, group with
          | true, some group => group.toList
          | _, _ => Raw.ofNat a.group)
      | _ =>
        say ("uid=".toList ++ numberNamed a.number a.name ++ " gid=".toList ++
          numberNamed a.group group ++ " groups=".toList ++ numberNamed a.group group)
      say (if isMany ∧ ending = Raw.nul ∧ kinds = ["G"] then [ending, ending] else [ending])
  exitGood isGood

/-- What the host is called in some respects. -/
def uname : Job Unit := do
  let o ← options ("a,all s,kernel-name n,nodename r,kernel-release v,kernel-version m,machine " ++
    "p,processor i,hardware-platform o,operating-system")
  match o.operands with
  | extra :: _ => extraOperand 1 extra
  | [] => pure ()
  let isAll := o.has "a"
  let parts := [("s", "Linux"), ("n", "localhost"), ("r", "6.1.0"), ("v", "#1 SMP"),
    ("m", "x86_64"), ("p", "unknown"), ("i", "unknown"), ("o", "GNU/Linux")]
  let wanted := if o.options.isEmpty then [("s", "Linux")]
    else parts.filter fun (key, value) => (isAll && value != "unknown") || o.has key
  sayLine (Raw.join [' '] (wanted.map fun p => p.2.toList))

/-- The kind of processor. -/
def arch : Job Unit := do
  let o ← options ""
  match o.operands with
  | extra :: _ => extraOperand 1 extra
  | [] => sayLine "x86_64".toList

/-- The number of processors. -/
def nproc : Job Unit := do
  let (ignored, o) ← foldOptions "all ignore:" true 1 (← get).call.arguments 0
    fun ignored key value _ =>
      if key == "ignore" then numberWithin "invalid number" 0 unsignedLimit "" value
      else pure ignored
  match o.operands with
  | extra :: _ => extraOperand 1 extra
  | [] => sayLine (Raw.ofNat (max 1 (1 - ignored)))

/-- The name of the host. -/
def hostname : Job Unit := do
  let _ ← options "s,short f,fqdn i,ip-address"
  sayLine "localhost".toList

/-! ## Time -/

/-- A time of the calendar. -/
structure CalendarTime where
  year : Int
  /-- From one to twelve. -/
  month : Nat
  /-- From one on. -/
  day : Nat
  hour : Nat
  minute : Nat
  second : Nat
  nanosecond : Nat

/-- The number of days from the first day of 1970 to a date. -/
def daysFrom (year : Int) (month day : Nat) : Int :=
  let shifted := if month ≤ 2 then year - 1 else year
  let era := shifted.fdiv 400
  let yearOfEra := shifted - era * 400
  let monthFromMarch : Nat := (month + 9) % 12
  let dayOfYear : Int := ((153 * monthFromMarch + 2) / 5 + day - 1 : Nat)
  let dayOfEra := yearOfEra * 365 + yearOfEra.fdiv 4 - yearOfEra.fdiv 100 + dayOfYear
  era * 146097 + dayOfEra - 719468

/-- The date that lies some days after the first day of 1970. -/
def dateOf (days : Int) : Int × Nat × Nat :=
  let shifted := days + 719468
  let era := shifted.fdiv 146097
  let dayOfEra := (shifted - era * 146097).toNat
  let yearOfEra := (dayOfEra - dayOfEra / 1460 + dayOfEra / 36524 - dayOfEra / 146096) / 365
  let dayOfYear := dayOfEra - (365 * yearOfEra + yearOfEra / 4 - yearOfEra / 100)
  let monthFromMarch := (5 * dayOfYear + 2) / 153
  let day := dayOfYear - (153 * monthFromMarch + 2) / 5 + 1
  let month := if monthFromMarch < 10 then monthFromMarch + 3 else monthFromMarch - 9
  ((yearOfEra : Int) + era * 400 + (if month ≤ 2 then 1 else 0), month, day)

/-- The time that lies some seconds and nanoseconds after the start of 1970. -/
def CalendarTime.ofSeconds (seconds : Int) (nanosecond : Nat) : CalendarTime :=
  let days := seconds.fdiv 86400
  let rest := (seconds - days * 86400).toNat
  let (year, month, day) := dateOf days
  ⟨year, month, day, rest / 3600, rest / 60 % 60, rest % 60, nanosecond⟩

namespace CalendarTime

/-- Days from the first day of 1970. -/
def days (t : CalendarTime) : Int :=
  daysFrom t.year t.month t.day

/-- Seconds from the start of 1970. -/
def seconds (t : CalendarTime) : Int :=
  t.days * 86400 + ((t.hour * 3600 + t.minute * 60 + t.second : Nat) : Int)

/-- The day of the week, with zero for Sunday. -/
def weekday (t : CalendarTime) : Nat :=
  ((t.days + 4).fmod 7).toNat

/-- The day of the year, from one on. -/
def yearday (t : CalendarTime) : Nat :=
  (t.days - daysFrom t.year 1 1 + 1).toNat

/-- The week of the year by the rule that the first week has a Thursday in it, with
the year that it belongs to. -/
def isoWeek (t : CalendarTime) : Int × Nat :=
  let fromMonday : Int := ((t.weekday + 6) % 7 : Nat)
  let thursday := t.days - fromMonday + 3
  let (year, _, _) := dateOf thursday
  (year, ((thursday - daysFrom year 1 1).fdiv 7 + 1).toNat)

end CalendarTime

/-- The names of the days of the week. -/
def dayNames : List String :=
  ["Sunday", "Monday", "Tuesday", "Wednesday", "Thursday", "Friday", "Saturday"]

/-- The names of the months. -/
def monthNames : List String :=
  ["January", "February", "March", "April", "May", "June", "July", "August", "September",
    "October", "November", "December"]

/-- One part of a time in the style of a letter, with the usual width and filler, or
nothing if the letter is not known. -/
def timePart? (t : CalendarTime) (letter : Char) : Option (Raw × Nat × Char) :=
  let two (n : Nat) : Option (Raw × Nat × Char) := some (Raw.ofNat n, 2, '0')
  let text (s : String) : Option (Raw × Nat × Char) := some (s.toList, 0, ' ')
  let padded (n : Nat) : String := String.ofList (Raw.padStart 2 '0' (Raw.ofNat n))
  let hour12 := if t.hour % 12 = 0 then 12 else t.hour % 12
  let year := String.ofList (Raw.ofInt t.year)
  let clock := padded t.hour ++ ":" ++ padded t.minute ++ ":" ++ padded t.second
  let day := (dayNames[t.weekday]?).getD ""
  let month := (monthNames[t.month - 1]?).getD ""
  let short (s : String) : String := String.ofList (s.toList.take 3)
  match letter with
  | '%' => text "%"
  | 'n' => text "\n"
  | 't' => text "\t"
  | 'Y' => some (Raw.ofInt t.year, 4, '0')
  | 'C' => two (t.year.fdiv 100).toNat
  | 'y' => two (t.year.fmod 100).toNat
  | 'm' => two t.month
  | 'd' => two t.day
  | 'e' => some (Raw.ofNat t.day, 2, ' ')
  | 'H' => two t.hour
  | 'k' => some (Raw.ofNat t.hour, 2, ' ')
  | 'I' => two hour12
  | 'l' => some (Raw.ofNat hour12, 2, ' ')
  | 'M' => two t.minute
  | 'S' => two t.second
  | 'N' => some (Raw.padStart 9 '0' (Raw.ofNat t.nanosecond), 9, '0')
  | 'j' => some (Raw.ofNat t.yearday, 3, '0')
  | 'u' => some (Raw.ofNat (if t.weekday = 0 then 7 else t.weekday), 1, '0')
  | 'w' => some (Raw.ofNat t.weekday, 1, '0')
  | 'U' => two ((t.yearday + 6 - t.weekday) / 7)
  | 'W' => two ((t.yearday + 6 - (t.weekday + 6) % 7) / 7)
  | 'V' => two t.isoWeek.2
  | 'G' => some (Raw.ofInt t.isoWeek.1, 4, '0')
  | 'g' => two (t.isoWeek.1.fmod 100).toNat
  | 's' => some (Raw.ofInt t.seconds, 1, '0')
  | 'q' => some (Raw.ofNat ((t.month + 2) / 3), 1, '0')
  | 'a' => text (short day)
  | 'A' => text day
  | 'b' => text (short month)
  | 'h' => text (short month)
  | 'B' => text month
  | 'p' => text (if t.hour < 12 then "AM" else "PM")
  | 'P' => text (if t.hour < 12 then "am" else "pm")
  | 'F' => text (year ++ "-" ++ padded t.month ++ "-" ++ padded t.day)
  | 'T' => text clock
  | 'X' => text clock
  | 'R' => text (padded t.hour ++ ":" ++ padded t.minute)
  | 'r' => text (padded hour12 ++ ":" ++ padded t.minute ++ ":" ++ padded t.second ++
      (if t.hour < 12 then " AM" else " PM"))
  | 'D' => text (padded t.month ++ "/" ++ padded t.day ++ "/" ++ padded (t.year.fmod 100).toNat)
  | 'x' => text (padded t.month ++ "/" ++ padded t.day ++ "/" ++ padded (t.year.fmod 100).toNat)
  | 'c' => text (short day ++ " " ++ short month ++ " " ++
      String.ofList (Raw.padStart 2 ' ' (Raw.ofNat t.day)) ++ " " ++ clock ++ " " ++ year)
  | 'z' => text "+0000"
  | 'Z' => text "UTC"
  | _ => none

/-- A time in a format. -/
def formatTime (t : CalendarTime) : Nat → Raw → Raw
  | 0, _ => []
  | fuel + 1, format =>
    match format with
    | [] => []
    | '%' :: rest =>
      let flags := rest.takeWhile fun c => "-_0^#+".toList.contains c
      let afterFlags := rest.drop flags.length
      let digits := afterFlags.takeWhile Char.isDigit
      let afterWidth := (afterFlags.drop digits.length).dropWhile fun c => c == 'E' || c == 'O'
      match afterWidth with
      | ':' :: 'z' :: more => "+00:00".toList ++ formatTime t fuel more
      | letter :: more =>
        match timePart? t letter with
        | none => '%' :: (rest.take (rest.length - more.length)) ++ formatTime t fuel more
        | some (text, width, filler) =>
          let filler :=
            if flags.contains '_' then ' ' else if flags.contains '0' then '0' else filler
          let width := if digits.isEmpty then width else Raw.valueIn 10 digits
          let text := if flags.contains '-' then text else Raw.padStart width filler text
          let text := if flags.contains '^' then text.map Char.toUpper else text
          text ++ formatTime t fuel more
      | [] => ['%']
    | c :: rest => c :: formatTime t fuel rest

/-- Numbers between separators. -/
def numbersBetween (separator : Char) (raw : Raw) : Option (List Nat) :=
  (Raw.splitOn separator raw).mapM Raw.toNat?

/-- The seconds that a description of a time stands for: a number after an at sign,
or a date with or without a clock time. -/
def readTime? (now : Int) (raw : Raw) : Option (Int × Nat) :=
  match Raw.trim raw with
  | '@' :: digits =>
    match Raw.splitOn '.' digits with
    | [whole] => (Raw.toInt? whole).map fun n => (n, 0)
    | [whole, part] =>
      (Raw.toInt? whole).bind fun n =>
        (Raw.toNat? ((part ++ List.replicate 9 '0').take 9)).map fun m => (n, m)
    | _ => none
  | text =>
    let isZone (w : Raw) : Bool := w == "UTC".toList || w == "Z".toList || w == "GMT".toList
    let text := text.map fun c => if c = 'T' then ' ' else c
    let words := (Raw.words (Raw.dropEnd (· == 'Z') text)).filter fun w =>
      !isZone w && w != "U".toList && w != "UC".toList
    let clockOf (w : Raw) : Option Nat :=
      match numbersBetween ':' w with
      | some [h, m] => if h < 24 ∧ m < 60 then some (h * 3600 + m * 60) else none
      | some [h, m, s] =>
        if h < 24 ∧ m < 60 ∧ s < 61 then some (h * 3600 + m * 60 + s) else none
      | _ => none
    let dayOf (w : Raw) : Option Int :=
      match numbersBetween '-' w with
      | some [y, m, d] =>
        if 1 ≤ m ∧ m ≤ 12 ∧ 1 ≤ d ∧ (dateOf (daysFrom y m d)).2 = (m, d) then
          some (daysFrom y m d)
        else none
      | _ => none
    let today := now.fdiv 86400
    match words with
    | [] => some (today * 86400, 0)
    | [w] =>
      if w = "now".toList ∨ w = "today".toList then some (now, 0)
      else if w = "tomorrow".toList then some (now + 86400, 0)
      else if w = "yesterday".toList then some (now - 86400, 0)
      else
        match dayOf w, clockOf w with
        | some d, _ => some (d * 86400, 0)
        | none, some s => some (today * 86400 + s, 0)
        | none, none => none
    | [d, c] =>
      (dayOf d).bind fun d => (clockOf c).map fun s => (d * 86400 + s, 0)
    | _ => none

/-- The time in a format. -/
def date : Job Unit := do
  let o ← options ("d,date: f,file: I,iso-8601? R,rfc-email rfc-3339: r,reference: s,set: " ++
    "u,utc,universal debug resolution")
  let clock := (← get).call.clock
  let now : Int := (clock / 1000000000 : Nat)
  let (seconds, nanosecond) ← match o.value? "d" with
    | none => pure (now, clock % 1000000000)
    | some text =>
      match readTime? now text with
      | some found => pure found
      | none => giveUp 1 ("invalid date ".toList ++ Quoting.forReader text)
  let format ← match o.operands with
    | [] => pure none
    | ['+' :: format] => pure (some format)
    | ('+' :: _) :: extra :: _ => extraOperand 1 extra
    | other :: _ => giveUp 1 ("invalid date ".toList ++ Quoting.forReader other)
  let usual : String :=
    if o.has "R" then "%a, %d %b %Y %H:%M:%S %z"
    else if o.has "I" then
      match String.ofList ((o.value? "I").getD []) with
      | "hours" => "%FT%H%:z"
      | "minutes" => "%FT%H:%M%:z"
      | "seconds" => "%FT%T%:z"
      | "ns" => "%FT%T,%N%:z"
      | _ => "%F"
    else if o.has "rfc-3339" then
      match String.ofList ((o.value? "rfc-3339").getD []) with
      | "date" => "%F"
      | "ns" => "%F %T.%N%:z"
      | _ => "%F %T%:z"
    else "%a %b %e %H:%M:%S %Z %Y"
  let format := format.getD usual.toList
  sayLine (formatTime (.ofSeconds seconds nanosecond) (format.length + 1) format)

end Tool
end MakeTen
