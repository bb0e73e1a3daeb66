import MakeTen.Tool.Launching
import MakeTen.Tool.Lines
/-!
# The ends of files

The programs that show the first part of files, or the last one.  The latter may go on
with what is added to the files.

Main definitions:

- Structure `Tool.Extent`: how much of a file is shown.
- Functions `Tool.head` and `Tool.tail`: the programs.
-/

namespace MakeTen
namespace Tool

/-- How much of a file is shown: a number of lines or bytes, up to the other end of the
file or counted from there. -/
structure Extent where
  isBytes : Bool
  /-- Whether the count is of what is left out. -/
  isOther : Bool
  count : Nat
  /-- What ends a line. -/
  ending : Char

/-- When the names of files are shown. -/
inductive Titles where
  /-- If there are several files. -/
  | usual
  | never
  | always
  deriving DecidableEq

/-- Whether names are shown of so many files. -/
def Titles.areShown (t : Titles) (files : Nat) : Bool :=
  match t with
  | .usual => 1 < files
  | .never => false
  | .always => true

/-- The number of an option, with a complaint about others. -/
def readAmount (isBytes : Bool) (raw : Raw) : Job Nat :=
  numberWithin (if isBytes then "invalid number of bytes" else "invalid number of lines")
    0 unsignedLimit "bkKmMGTPEZY0" raw

/-- The title of a part of a file. -/
def title (isFirst : Bool) (path : Raw) : Raw :=
  (if isFirst then [] else ['\n']) ++ "==> ".toList ++ prettyName path ++ " <==\n".toList

/-- Lines as they were written. -/
def joinLines (ending : Char) (lines : List Line) : Raw :=
  lines.flatMap fun line => if line.isEnded then line.raw ++ [ending] else line.raw

/-- The first part of a text. -/
def Extent.headOf (e : Extent) (raw : Raw) : Raw :=
  if e.isBytes then raw.take (if e.isOther then raw.length - e.count else e.count)
  else
    let lines := linesEnding e.ending raw
    joinLines e.ending (lines.take (if e.isOther then lines.length - e.count else e.count))

/-- The last part of a text. -/
def Extent.tailOf (e : Extent) (raw : Raw) : Raw :=
  if e.isBytes then raw.drop (if e.isOther then e.count - 1 else raw.length - e.count)
  else
    let lines := linesEnding e.ending raw
    joinLines e.ending (lines.drop (if e.isOther then e.count - 1 else lines.length - e.count))

/-- Show the first part of the input as it comes. -/
def Extent.headInput (e : Extent) : Job Unit := do
  if e.isBytes then
    let d ← get
    say (d.input.take e.count)
    set { ← get with input := d.input.drop e.count }
    if d.input.length < e.count ∧ ¬ d.isEnded then throw .input
  else if e.count = 0 then pure ()
  else
    let mut left := e.count
    for _ in [0:e.count] do
      match ← readUntil? e.ending with
      | none => return
      | some (raw, isEnded) =>
        say (joinLines e.ending [⟨raw, isEnded⟩])
        left := left - 1

/-- Complain that a file cannot be shown in part. -/
def complainOfPart (path : Raw) (fault : HostFault) : Job Unit := do
  flush
  let name := named (prettyName path)
  if fault = .isDirectory ∨ fault = .badDescriptor then
    complain ("error reading ".toList ++ name ++ ": ".toList ++ faultText fault)
  else
    complain ("cannot open ".toList ++ name ++ " for reading: ".toList ++ faultText fault)

/-! ## The first part -/

/-- What the first program is asked for. -/
structure HeadTask where
  extent : Extent
  titles : Titles

/-- The task that letters after a number ask for; `unit` multiplies the number. -/
def HeadTask.withLetters (t : HeadTask) (unit : Raw) : Raw → Job (HeadTask × Raw)
  | [] => return (t, unit)
  | c :: rest => do
    let counting (isBytes : Bool) : HeadTask := { t with extent := { t.extent with isBytes } }
    match c with
    | 'c' => (counting true).withLetters [] rest
    | 'b' => (counting true).withLetters [c] rest
    | 'k' => (counting true).withLetters [c] rest
    | 'm' => (counting true).withLetters [c] rest
    | 'l' => (counting false).withLetters unit rest
    | 'q' => HeadTask.withLetters { t with titles := .never } unit rest
    | 'v' => HeadTask.withLetters { t with titles := .always } unit rest
    | 'z' =>
      HeadTask.withLetters { t with extent := { t.extent with ending := Raw.nul } } unit rest
    | c => giveUsage 1 ("invalid trailing option -- ".toList ++ [c])

/-- The task that an option asks for. -/
def HeadTask.withOption (t : HeadTask) (key : String) (value : Raw) : Job HeadTask := do
  let amount (isBytes : Bool) : Job HeadTask := do
    let isOther := value.head? = some '-'
    let count ← readAmount isBytes (if isOther then value.drop 1 else value)
    return { t with extent := { t.extent with isBytes, isOther, count } }
  match key with
  | "n" => amount false
  | "c" => amount true
  | "q" => return { t with titles := .never }
  | "v" => return { t with titles := .always }
  | "z" => return { t with extent := { t.extent with ending := Raw.nul } }
  | c => giveUsage 1 ("invalid trailing option -- ".toList ++ c.toList)

/-- Show the first lines of files. -/
def head : Job Unit := do
  let mut first : HeadTask := ⟨⟨false, false, 10, '\n'⟩, .usual⟩
  let mut arguments := (← get).call.arguments
  if let ('-' :: digit :: more) :: rest := arguments then
    if digit.isDigit then
      let digits := (digit :: more).takeWhile Char.isDigit
      let (next, unit) ← first.withLetters [] ((digit :: more).drop digits.length)
      let count ← readAmount next.extent.isBytes (digits ++ unit)
      first := { next with extent := { next.extent with count } }
      arguments := rest
  let (t, o) ← foldOptions ("n,lines: c,bytes: q,quiet,silent v,verbose z,zero-terminated " ++
    "0 1 2 3 4 5 6 7 8 9") true 1 arguments first fun t key value _ => t.withOption key value
  let e := t.extent
  let showsTitles := t.titles.areShown o.operands.length
  let mut isGood := true
  let mut isFirst := true
  for path in o.files do
    if path = ['-'] ∧ ¬ e.isOther ∧ (← get).call.inputFault.isNone then
      if showsTitles then say (title isFirst path)
      isFirst := false
      e.headInput
    else
      match ← operand path with
      | .error fault =>
        if (fault = .isDirectory ∨ fault = .badDescriptor) ∧ showsTitles then
          say (title isFirst path)
          isFirst := false
        if ¬ (fault = .isDirectory ∧ ¬ e.isOther ∧ e.count = 0) then
          complainOfPart path fault
          isGood := false
      | .ok raw =>
        if showsTitles then say (title isFirst path)
        isFirst := false
        say (e.headOf raw)
  exitClosing isGood o.files "-"

/-! ## The last part -/

/-- How additions to files are followed. -/
inductive Follow where
  | no
  /-- The file that was opened is followed. -/
  | opened
  /-- What has the name of the file is followed. -/
  | name
  deriving DecidableEq

/-- What the second program is asked for. -/
structure TailTask where
  extent : Extent
  titles : Titles
  follow : Follow
  /-- Whether files that are not there are waited for. -/
  retries : Bool
  hasProcess : Bool

/-- The count that an argument of its own spells, with letters after it. -/
def readOldTail? (argument : Raw) : Job (Option TailTask) := do
  let (isOther, body) : Bool × Raw := match argument with
    | '+' :: rest => (true, rest)
    | '-' :: rest => (false, rest)
    | _ => (false, [])
  let isSign := argument.head? = some '+' || argument.head? = some '-'
  let isBare := argument.head? = some '-' && (body.isEmpty || body = ['c'])
  if ¬ isSign ∨ isBare then return none
  else
    let digits := body.takeWhile Char.isDigit
    let letters := body.drop digits.length
    let (isBytes, unit, letters) : Bool × Nat × Raw := match letters with
      | 'b' :: rest => (true, 512, rest)
      | 'c' :: rest => (true, 1, rest)
      | 'l' :: rest => (false, 1, rest)
      | rest => (false, 1, rest)
    let (follows, letters) : Bool × Raw := match letters with
      | 'f' :: rest => (true, rest)
      | rest => (false, rest)
    if ¬ letters.isEmpty then return none
    else
      let factor := if digits.isEmpty then unit else if unit = 512 then 512 else 1
      let count := (if digits.isEmpty then 10 else Raw.valueIn 10 digits) * factor
      if unsignedLimit < count then
        giveUp 1 ("invalid number: ".toList ++ Quoting.forReader argument ++
          ": Numerical result out of range".toList)
      else
        return some ⟨⟨isBytes, isOther, count, '\n'⟩, .usual, if follows then .opened else .no,
          false, false⟩

/-- Whether some arguments may be a count of its own and a file. -/
def mayBeOldTail (arguments : List Raw) : Bool :=
  match arguments with
  | [_] => true
  | [_, file] => file == ['-'] || file.head? != some '-' || file == ['-', '-']
  | [_, second, _] => second == ['-', '-']
  | _ => false

/-- The task that an option asks for. -/
def TailTask.withOption (t : TailTask) (key : String) (value : Raw) : Job TailTask := do
  let amount (isBytes : Bool) : Job TailTask := do
    let isOther := t.extent.isOther || value.head? = some '+'
    let count ← readAmount isBytes (if value.head? = some '-' then value.drop 1 else value)
    return { t with extent := { t.extent with isBytes, isOther, count } }
  match key with
  | "n" => amount false
  | "c" => amount true
  | "q" => return { t with titles := .never }
  | "v" => return { t with titles := .always }
  | "z" => return { t with extent := { t.extent with ending := Raw.nul } }
  | "F" => return { t with follow := .name, retries := true }
  | "f" =>
    if value.isEmpty then return { t with follow := .opened }
    else
      let word ← chooseWord 1 "--follow" true [["descriptor"], ["name"]] value
      return { t with follow := if word = "name" then .name else .opened }
  | "retry" => return { t with retries := true }
  | "s" =>
    match duration? value with
    | some _ =>
      if value.getLast?.any (·.isAlpha) then
        giveUp 1 ("invalid number of seconds: ".toList ++ Quoting.forReader value)
      return t
    | none => giveUp 1 ("invalid number of seconds: ".toList ++ Quoting.forReader value)
  | "pid" =>
    let _ ← numberWithin "invalid PID" 0 2147483647 "" value
    return { t with hasProcess := true }
  | "max-unchanged-stats" =>
    let _ ← numberWithin "invalid maximum number of unchanged stats between opens" 0
      unsignedLimit "" value
    return t
  | c => giveUp 1 ("option used in invalid context -- ".toList ++ c.toList)

/-- Say which options have no use. -/
def TailTask.warn (t : TailTask) : Job Unit := do
  if t.retries ∧ t.follow = .no then
    complain "warning: --retry ignored; --retry is useful only when following".toList
  if t.retries ∧ t.follow = .opened then
    complain "warning: --retry only effective for the initial open".toList
  if t.hasProcess ∧ t.follow = .no then
    complain "warning: PID ignored; --pid=PID is useful only when following".toList

/-- A file that is followed: its name, and what has been seen of it if it is there. -/
structure Followed where
  path : Raw
  seen : Option Raw

/-- The lengths of the pauses between looks at files, in nanoseconds: short ones first. -/
def lookPauses : List Nat :=
  List.replicate 100 50000000 ++ (List.range 30).map fun n => 100000000 * Nat.pow 2 n

/-- Show what has been added to a file since it was looked at; the answer is the file as
it is now, and the name of the file that was shown last. -/
def lookAgain (t : TailTask) (showsTitles : Bool) (last : Raw) (f : Followed) :
    Job (Followed × Raw) := do
  let showMore (raw : Raw) : Job Raw := do
    if raw.isEmpty then return last
    else
      if showsTitles ∧ last ≠ f.path then say (title false f.path)
      say raw
      return f.path
  if f.path = ['-'] then return (f, last)
  match f.seen, ← operand f.path with
  | some seen, .ok raw =>
    if raw.length < seen.length then
      flush
      complain (shown (prettyName f.path) ++ ": file truncated".toList)
      let last ← showMore raw
      return (⟨f.path, some raw⟩, last)
    else
      let last ← showMore (raw.drop seen.length)
      return (⟨f.path, some raw⟩, last)
  | none, .ok raw =>
    if t.retries then
      flush
      complain (named f.path ++ " has appeared;  following new file".toList)
      let last ← showMore raw
      return (⟨f.path, some raw⟩, last)
    else return (f, last)
  | some _, .error fault =>
    if t.follow = .name then
      flush
      complain (named f.path ++ " has become inaccessible: ".toList ++ faultText fault)
      return (⟨f.path, none⟩, last)
    else return (f, last)
  | none, .error _ => return (f, last)

/-- Show what is added to files, as long as time goes on. -/
def followFiles (t : TailTask) (showsTitles : Bool) (files : List Followed) (last : Raw) :
    Job Unit := do
  let mut files := files
  let mut last := last
  for pause in lookPauses do
    let _ ← ask (.pause pause)
    let mut next : List Followed := []
    for f in files do
      let (f, shownLast) ← lookAgain t showsTitles last f
      next := next ++ [f]
      last := shownLast
    files := next
  exit 0

/-- Whether a file is the input and that is a pipe. -/
def isPipedInput (path : Raw) : Job Bool := do
  return path == ['-'] && (← get).call.descriptors.lookup 0 == some .pipe

/-- Show the last lines of files. -/
def tail : Job Unit := do
  let mut first : TailTask := ⟨⟨false, false, 10, '\n'⟩, .usual, .no, false, false⟩
  let mut arguments := (← get).call.arguments
  if mayBeOldTail arguments then
    match ← readOldTail? (arguments.headD []) with
    | some next =>
      first := next
      arguments := arguments.drop 1
    | none => pure ()
  let (t, o) ← foldOptions ("n,lines: c,bytes: q,quiet,silent v,verbose z,zero-terminated " ++
    "f,follow? F s,sleep-interval: pid: retry max-unchanged-stats: 0 1 2 3 4 5 6 7 8 9")
    true 1 arguments first fun t key value _ => t.withOption key value
  t.warn
  let e := t.extent
  let files := o.files
  if t.follow = .name ∧ files.contains ['-'] then
    giveUp 1 "cannot follow '-' by name".toList
  if e.count = 0 ∧ ¬ e.isOther ∧ t.follow = .no then exit 0
  let showsTitles := t.titles.areShown files.length
  let mut isGood := true
  let mut isFirst := true
  let mut followed : List Followed := []
  for path in files do
    match ← operand path with
    | .error fault =>
      let isOpen := fault = .isDirectory || fault = .badDescriptor
      if isOpen ∧ showsTitles then
        say (title isFirst path)
        isFirst := false
      if ¬ (fault = .isDirectory ∧ ¬ e.isOther ∧ e.count = 0) then
        if fault = .badDescriptor then
          flush
          complain ("cannot fstat ".toList ++ named (prettyName path) ++ ": ".toList ++
            faultText fault)
        else complainOfPart path fault
        isGood := false
      if t.follow ≠ .no then
        if fault = .isDirectory then
          complain (shown path ++ ": cannot follow end of this type of file".toList ++
            (if t.retries then [] else "; giving up on this name".toList))
        if t.retries then followed := followed ++ [⟨path, none⟩]
    | .ok raw =>
      if showsTitles then say (title isFirst path)
      isFirst := false
      say (e.tailOf raw)
      followed := followed ++ [⟨path, some raw⟩]
  if t.follow ≠ .no then
    let mut alive : List Followed := []
    for f in followed do
      if ¬ (← isPipedInput f.path) then alive := alive ++ [f]
    if ¬ alive.isEmpty then followFiles t showsTitles alive (files.getLastD [])
    else if followed.isEmpty then
      flush
      complain "no files remaining".toList
      exit 1
  exitClosing isGood files "-"

end Tool
end MakeTen
