import MakeTen.Tool.Ordering
/-!
# Sorted lines

The program that puts lines in order.

Main definitions:

- Structure `Tool.SortStyle`: how lines are put in order.
- Function `Tool.sort`: the program.
-/

namespace MakeTen
namespace Tool

/-! ## Putting lines in order -/

/-- How lines are put in order. -/
structure SortStyle where
  separator : Option Char
  keys : List SortKey
  /-- The style of lines as a whole. -/
  whole : OrderStyle
  isUnique : Bool
  isStable : Bool

/-- Two lines in order.  Lines whose keys are the same are compared as a whole. -/
def SortStyle.compareLines (s : SortStyle) (a b : Raw) : Ordering :=
  let all := if s.whole.isReversed then (compareRaw a b).swap else compareRaw a b
  if s.keys.isEmpty then all
  else
    match compareByKeys s.separator s.keys a b with
    | .eq => if s.isUnique || s.isStable then .eq else all
    | order => order

/-- Lines without those that are the same as the one before. -/
def SortStyle.dropSame (s : SortStyle) : List Raw → List Raw
  | a :: b :: rest =>
    if s.compareLines a b = .eq then s.dropSame (a :: rest) else a :: s.dropSame (b :: rest)
  | rest => rest
termination_by lines => lines.length

/-- Lines in order. -/
def SortStyle.sorted (s : SortStyle) (lines : List Raw) : List Raw :=
  let sorted := lines.mergeSort fun a b => s.compareLines a b != .gt
  if s.isUnique then s.dropSame sorted else sorted

/-- The least first line of some lists of lines, and the lists without it. -/
def SortStyle.takeLeast (s : SortStyle) : List (List Raw) → Option (Raw × List (List Raw))
  | [] => none
  | [] :: rest => s.takeLeast rest
  | (line :: lines) :: rest =>
    match s.takeLeast rest with
    | some (other, others) =>
      if s.compareLines line other = .gt then some (other, (line :: lines) :: others)
      else some (line, lines :: rest)
    | none => some (line, lines :: rest)

/-- Lists of lines that are in order as one such list. -/
def SortStyle.merged (s : SortStyle) : Nat → List (List Raw) → List Raw
  | 0, _ => []
  | fuel + 1, lists =>
    match s.takeLeast lists with
    | some (line, lists) => line :: s.merged fuel lists
    | none => []

/-- The first line of some lines that is out of order, with its number. -/
def SortStyle.disorder? (s : SortStyle) : Nat → List Raw → Option (Nat × Raw)
  | n, a :: b :: rest =>
    match s.compareLines a b with
    | .gt => some (n + 1, b)
    | .eq => if s.isUnique then some (n + 1, b) else s.disorder? (n + 1) (b :: rest)
    | .lt => s.disorder? (n + 1) (b :: rest)
  | _, _ => none

/-- The letters of a style, in order, if no key can have all of them. -/
def styleClash (letters : Raw) : Option Raw :=
  let all := "dfghiMnRV".toList.filter (letters.contains ·)
  let all := if all.contains 'd' then all.filter (· ≠ 'i') else all
  let isText := all.any ("diRV".toList.contains ·)
  let numbers := (all.filter ("ghMn".toList.contains ·)).length
  if 1 < numbers + (if isText then 1 else 0) then some all else none

/-! ## The program -/

/-- What is to be done with lines. -/
structure SortTask where
  letters : Raw
  separator : Option Char
  /-- The keys, each with its description. -/
  keys : List (SortKey × Raw)
  isUnique : Bool
  isStable : Bool
  ending : Char
  /-- The letter of the option that asks whether lines are in order. -/
  check : Option Char
  merges : Bool
  output : Option Raw
  /-- The file that holds the names of files. -/
  list : Option Raw

/-- Complain about options that do not go together. -/
def sortClash {α : Type} (letters : Raw) : Job α :=
  giveUp 2 ("options '-".toList ++ letters ++ "' are incompatible".toList)

/-- The size of a store in memory, which is only looked at. -/
def checkStoreSize (spelling value : Raw) : Job Unit := do
  match scaled? 10 "EgGkKmMPtTYZ" value, (value.dropWhile Raw.isSpace).dropWhile Char.isDigit with
  | .error .suffix, ['b'] => pure ()
  | .error .suffix, ['%'] => pure ()
  | _, _ =>
    let _ ← scaledOr 2 10 "EgGkKmMPtTYZ" spelling value

/-- The greatest number of files that are read at a time. -/
def batchLimit : Nat := 1048573

/-- The number of files that are read at a time, which is only looked at. -/
def checkBatchSize (spelling value : Raw) : Job Unit := do
  let tooLarge : Job Unit := do
    complain ("--batch-size argument ".toList ++ Quoting.forReader value ++ " too large".toList)
    giveUp 2 ("maximum --batch-size argument with current rlimit is ".toList ++
      Raw.ofNat batchLimit)
  match scaled? 10 "" value with
  | .ok n =>
    if n < 2 then
      complain ("invalid --batch-size argument ".toList ++ Quoting.forReader value)
      giveUp 2 "minimum --batch-size argument is '2'".toList
    else if batchLimit < n then tooLarge
  | .error .tooLarge => tooLarge
  | _ =>
    let _ ← scaledOr 2 10 "" spelling value

/-- The task with one more option. -/
def SortTask.withOption (t : SortTask) (key : String) (value spelling : Raw) :
    Job SortTask := do
  match key with
  | "sort" =>
    let word ← chooseWord 1 "--sort" true
      [["general-numeric"], ["human-numeric"], ["month"], ["numeric"], ["random"], ["version"]]
      value
    let letter := match word with
      | "month" => 'M'
      | "random" => 'R'
      | "version" => 'V'
      | word => word.toList.headD 'n'
    return { t with letters := t.letters ++ [letter] }
  | "c" =>
    let isQuiet ← if value.isEmpty then pure false
      else pure ((← chooseWord 1 "--check" true [["quiet", "silent"], ["diagnose-first"]]
        value) = "quiet")
    let letter := if isQuiet then 'C' else 'c'
    if t.check.any (· ≠ letter) then sortClash "cC".toList
    return { t with check := some letter }
  | "C" =>
    if t.check.any (· ≠ 'C') then sortClash "cC".toList
    return { t with check := some 'C' }
  | "k" =>
    match readSortKey value with
    | .ok k => return { t with keys := t.keys ++ [(k, value)] }
    | .error fault => giveUp 2 fault
  | "m" => return { t with merges := true }
  | "o" =>
    if t.output.any (· ≠ value) then giveUp 2 "multiple output files specified".toList
    return { t with output := some value }
  | "s" => return { t with isStable := true }
  | "S" =>
    checkStoreSize spelling value
    return t
  | "parallel" =>
    match scaled? 10 "" value with
    | .error .tooLarge => return t
    | _ =>
      let n ← scaledOr 2 10 "" spelling value
      if n = 0 then giveUp 2 "number in parallel must be nonzero".toList
      return t
  | "batch-size" =>
    checkBatchSize spelling value
    return t
  | "t" =>
    let next ← match value with
      | [c] => pure c
      | ['\\', '0'] => pure Raw.nul
      | [] => giveUp 2 "empty tab".toList
      | text => giveUp 2 ("multi-character tab ".toList ++ Quoting.forReader text)
    if t.separator.any (· ≠ next) then giveUp 2 "incompatible tabs".toList
    return { t with separator := some next }
  | "u" => return { t with isUnique := true }
  | "z" => return { t with ending := Raw.nul }
  | "files0-from" => return { t with list := some value }
  | key =>
    let letters := key.toList.filter ("bdfghiMnRrV".toList.contains ·)
    return if key.length = 1 then { t with letters := t.letters ++ letters } else t

/-- The style that a task asks for. -/
def SortTask.style (t : SortTask) : Job SortStyle := do
  let (whole, _) := readStyle true true .usual t.letters
  let given := t.keys.map fun (k, _) => if k.style.isUsual then { k with style := whole } else k
  let styles := t.keys.map fun (k, text) => if k.style.isUsual then t.letters else text
  let keys := if given.isEmpty ∧ ¬ whole.isUsual then [⟨none, 0, none, 0, whole⟩] else given
  match (if given.isEmpty then [t.letters] else styles).findSome? styleClash with
  | some clash => sortClash clash
  | none => return ⟨t.separator, keys, whole, t.isUnique, t.isStable⟩

/-- Complain about a file, and end the job. -/
def sortFault {α : Type} (what : String) (path : Raw) (fault : HostFault) : Job α := do
  flush
  giveUp 2 (what.toList ++ shown path ++ ": ".toList ++ faultText fault)

/-- The files whose names are in a file. -/
def listedFiles (operands : List Raw) (list : Raw) : Job (List Raw) := do
  match operands with
  | extra :: _ =>
    complain ("extra operand ".toList ++ named extra)
    grumble "file operands cannot be combined with --files0-from".toList
    grumble ("Try '".toList ++ (← get).call.name ++ " --help' for more information.".toList)
    exit 2
  | [] =>
    match ← operand list with
    | .error fault =>
      sortFault (if fault = .isDirectory then "read failed: " else "open failed: ") list fault
    | .ok raw =>
      let names := (linesEnding Raw.nul raw).map (·.raw)
      if names.isEmpty then giveUp 2 ("no input from ".toList ++ named list)
      for (name, n) in names.zipIdx do
        if list = ['-'] ∧ name = ['-'] then
          giveUp 2 "when reading file names from stdin, no file name of '-' allowed".toList
        if name.isEmpty then
          giveUp 2 (shown list ++ ':' :: Raw.ofNat (n + 1) ++
            ": invalid zero-length file name".toList)
      return names

/-- The lines of a file. -/
def SortTask.lines (t : SortTask) (path : Raw) : Job (List Raw) := do
  match ← operand path with
  | .ok raw => return (linesEnding t.ending raw).map (·.raw)
  | .error fault =>
    let what := if fault = .isDirectory ∨ fault = .badDescriptor then "read failed: "
      else if t.check.isSome then "open failed: " else "cannot read: "
    sortFault what path fault

/-- Say whether the lines of a file are in order. -/
def SortTask.checkOrder (t : SortTask) (style : SortStyle) (files : List Raw) : Job Unit := do
  let letter := t.check.getD 'c'
  match files.drop 1 with
  | extra :: _ =>
    giveUp 2 ("extra operand ".toList ++ named extra ++ " not allowed with -".toList ++ [letter])
  | [] => pure ()
  if t.output.isSome then sortClash [letter, 'o']
  let path := files.headD ['-']
  match style.disorder? 1 (← t.lines path) with
  | none => exit 0
  | some (n, line) =>
    if letter = 'c' then
      complain (path ++ ":".toList ++ Raw.ofNat n ++ ": disorder: ".toList ++ line)
    exit 1

/-- Put lines in order. -/
def sort : Job Unit := do
  let start : SortTask := ⟨[], none, [], false, false, '\n', none, false, none, none⟩
  let (t, o) ← foldOptions ("b,ignore-leading-blanks d,dictionary-order f,ignore-case " ++
    "g,general-numeric-sort h,human-numeric-sort i,ignore-nonprinting M,month-sort " ++
    "n,numeric-sort R,random-sort r,reverse V,version-sort c,check? C k,key: m,merge " ++
    "o,output: s,stable t,field-separator: u,unique z,zero-terminated S,buffer-size: " ++
    "T,temporary-directory: parallel: batch-size: debug random-source: sort: y: " ++
    "compress-program: files0-from:")
    true 2 (withUsualKeys (← get).call.arguments) start SortTask.withOption
  let files ← match t.list with
    | some list => listedFiles o.operands list
    | none => pure o.files
  let style ← t.style
  if t.check.isSome then t.checkOrder style files
  for path in files do
    if path = ['-'] then
      if ¬ t.merges ∧ (← get).call.inputFault = some .badDescriptor then
        sortFault "stat failed: " path .badDescriptor
    else
      match (← get).files.read (Raw.toString path) with
      | .error .isDirectory => pure ()
      | .error fault => sortFault "cannot read: " path fault
      | .ok _ => pure ()
  if let some path := t.output then
    match ← store path true [] with
    | .ok () => pure ()
    | .error fault => sortFault "open failed: " path fault
  let lists ← files.mapM t.lines
  let lines := if t.merges then
      let merged := style.merged (lists.flatten.length + 1) lists
      if style.isUnique then style.dropSame merged else merged
    else style.sorted lists.flatten
  let raw := lines.flatMap (· ++ [t.ending])
  match t.output with
  | none => say raw
  | some path =>
    match ← store path false raw with
    | .ok () => pure ()
    | .error fault => sortFault "open failed: " path fault
  exit 0

end Tool
end MakeTen
