import MakeTen.Tool.Ordering
/-!
# Lines that are the same

The program that looks for lines that are the same as the one before, and the one that
tells which lines of two files in order both of them have.

Main definitions:

- Structure `Tool.SameStyle`: how lines are compared.
- Functions `Tool.uniq` and `Tool.comm`: the programs.
-/

namespace MakeTen
namespace Tool

/-! ## Lines after each other -/

/-- Where empty lines go between groups of lines. -/
inductive GroupMark where
  | none
  | before
  | between
  | after
  | both
  deriving DecidableEq

/-- How lines are compared with the ones before them, and which are shown. -/
structure SameStyle where
  skipFields : Nat
  skipCharacters : Nat
  width : Option Nat
  foldsCase : Bool
  ending : Char
  /-- Whether lines are shown that are the only ones of their groups. -/
  showsSingle : Bool
  /-- Whether one line is shown for a group of several. -/
  showsGroup : Bool
  /-- Whether the other lines of groups are shown. -/
  showsOthers : Bool
  counts : Bool
  /-- Where empty lines go if all lines are shown, and if only those of groups are. -/
  marksAll : GroupMark
  marksGroups : GroupMark

/-- A line as far as it counts. -/
def SameStyle.text (s : SameStyle) (line : Raw) : Raw :=
  let rest := (dropFields none s.skipFields line).drop s.skipCharacters
  let rest := match s.width with
    | some w => rest.take w
    | none => rest
  if s.foldsCase then rest.map Char.toLower else rest

/-- Where going through lines has come to. -/
structure SameState where
  last : Option Raw
  /-- How many lines before the last one are the same. -/
  repeats : Nat
  /-- Whether there has been a group of several lines. -/
  hasGroup : Bool

/-- The last line, if it is to be shown; `goesOn` says that the next one is the same. -/
def SameStyle.lastText (s : SameStyle) (state : SameState) (goesOn : Bool) : Raw :=
  let isShown := if state.repeats = 0 then s.showsSingle
    else if goesOn then s.showsOthers else s.showsGroup
  match state.last with
  | some line =>
    let count := if s.counts then Raw.padStart 7 ' ' (Raw.ofNat (state.repeats + 1)) ++ [' ']
      else []
    if isShown then count ++ line ++ [s.ending] else []
  | none => []

/-- What is shown when a line comes, and the state after it, if no line of a group stands for
the others. -/
def SameStyle.nextOfAll (s : SameStyle) (state : SameState) (line : Raw) : Raw × SameState :=
  let isNew := state.last.all fun last => s.text last ≠ s.text line
  let isMarked := isNew && match s.marksAll with
    | .none => false
    | .before => true
    | .both => true
    | _ => state.last.isSome
  let mark := if isMarked then [s.ending] else []
  if isNew ∨ s.marksAll ≠ .none then
    (mark ++ line ++ [s.ending], { state with last := some line })
  else (mark, state)

/-- What is shown when a line comes, and the state after it. -/
def SameStyle.next (s : SameStyle) (state : SameState) (line : Raw) : Raw × SameState :=
  match state.last with
  | none => ([], { state with last := some line })
  | some last =>
    let goesOn := s.text last = s.text line
    let repeats := if goesOn then state.repeats + 1 else state.repeats
    let isMarked := goesOn ∧ repeats = 1 ∧
      (s.marksGroups = .before ∨ (s.marksGroups = .between ∧ state.hasGroup))
    let mark := if isMarked then [s.ending] else []
    let state := { state with repeats, hasGroup := state.hasGroup || (!goesOn && repeats != 0) }
    if goesOn ∧ ¬ s.showsOthers then (mark, state)
    else
      (mark ++ s.lastText state goesOn,
        { state with last := some line, repeats := if goesOn then repeats else 0 })

/-- What is shown in the end. -/
def SameStyle.finish (s : SameStyle) (state : SameState) : Raw :=
  if s.showsSingle ∧ s.showsGroup ∧ ¬ s.counts then
    if (s.marksAll = .both ∨ s.marksAll = .after) ∧ state.last.isSome then [s.ending] else []
  else s.lastText state false

/-- The way to mark groups that a word names. -/
def groupMark (word : String) : GroupMark :=
  match word with
  | "prepend" => .before
  | "append" => .after
  | "separate" => .between
  | "both" => .both
  | _ => .none

/-- The style that options ask for. -/
def sameStyle (o : Chosen) : Job SameStyle := do
  let start : SameStyle := ⟨0, 0, none, false, '\n', true, true, false, false, .none, .none⟩
  let mut s := start
  let mut isChosen := false
  for (key, value, _) in o.all do
    let number (what : String) : Job Nat := do
      match scaled? 10 "" value with
      | .ok n => return n
      | .error .tooLarge => return 18446744073709551615
      | .error _ => giveUp 1 (value ++ ": invalid number of ".toList ++ what.toList)
    let mark (option : String) (words : List String) : Job GroupMark := do
      if value.isEmpty then return if option = "--group" then .between else .none
      return groupMark (← chooseWord 1 option true (words.map fun w => [w]) value)
    if ["c", "d", "D", "all-repeated", "u"].contains key then isChosen := true
    match key with
    | "c" => s := { s with counts := true }
    | "d" => s := { s with showsSingle := false }
    | "D" => s := { s with showsSingle := false, showsOthers := true, marksGroups := .none }
    | "all-repeated" =>
      let marksGroups ← mark "--all-repeated" ["none", "prepend", "separate"]
      s := { s with showsSingle := false, showsOthers := true, marksGroups }
    | "group" =>
      s := { s with marksAll := ← mark "--group" ["prepend", "append", "separate", "both"] }
    | "f" => s := { s with skipFields := ← number "fields to skip" }
    | "i" => s := { s with foldsCase := true }
    | "s" => s := { s with skipCharacters := ← number "bytes to skip" }
    | "u" => s := { s with showsGroup := false }
    | "w" => s := { s with width := some (← number "bytes to compare") }
    | "z" => s := { s with ending := Raw.nul }
    | digit =>
      if digit.toList.all Char.isDigit then
        s := { s with skipFields := s.skipFields * 10 + Raw.valueIn 10 digit.toList }
  match o.operands.drop 2 with
  | extra :: _ => extraOperand 1 extra
  | [] => pure ()
  if s.marksAll ≠ .none ∧ isChosen then
    giveUsage 1 "--group is mutually exclusive with -c/-d/-D/-u".toList
  if s.counts ∧ s.showsOthers then
    giveUsage 1 "printing all duplicated lines and repeat counts is meaningless".toList
  return s

/-- Look for lines that are the same as the one before. -/
def uniq : Job Unit := do
  let o ← options ("c,count d,repeated D all-repeated? f,skip-fields: group? i,ignore-case " ++
    "s,skip-chars: u,unique z,zero-terminated w,check-chars: 0 1 2 3 4 5 6 7 8 9")
  let s ← sameStyle o
  let input := o.operands.headD ['-']
  let output := (o.operands.drop 1).head?.filter (· ≠ ['-'])
  let isThere ← if input = ['-'] then pure none
    else match ← contents input with
      | .error .isDirectory => pure none
      | .error fault => pure (some fault)
      | .ok _ => pure none
  match isThere with
  | some fault =>
    complainOf input fault
    exit 1
  | none => pure ()
  for path in output do
    match ← store path false [] with
    | .ok () => pure ()
    | .error fault =>
      complainOf path fault
      exit 1
  let write (raw : Raw) : Job Unit := do
    match output with
    | none => say raw
    | some path => if ¬ raw.isEmpty then let _ ← store path true raw
  let showsAll := s.showsSingle && s.showsGroup && !s.counts
  let result ← foldEnding s.ending input (SameState.mk none 0 false) fun state line => do
    let (raw, state) := if showsAll then s.nextOfAll state line.raw else s.next state line.raw
    write raw
    return .on state
  match result with
  | .ok state =>
    write (s.finish state.state)
    exit 0
  | .error fault =>
    giveUp 1 ("error reading ".toList ++ named input ++ ": ".toList ++ faultText fault)

/-! ## Lines of two files -/

/-- One of two files whose lines are in order. -/
structure CommonSide where
  rest : List Raw
  /-- The lines that have been taken, the latest first, but only two of them. -/
  past : List Raw
  isWarned : Bool
  count : Nat

/-- When the order of lines is looked at. -/
inductive CommonCheck where
  /-- Once there has been a line without a partner. -/
  | usual
  | always
  | never
  deriving DecidableEq

/-- Complain if a line comes after another one that it should come before. -/
def CommonSide.check (side : CommonSide) (check : CommonCheck) (isUnpaired : Bool) (n : Nat)
    (before after : Raw) : Job CommonSide := do
  let isChecked : Bool := match check with
    | .usual => isUnpaired
    | .always => true
    | .never => false
  if isChecked ∧ ¬ side.isWarned ∧ compareRaw before after = .gt then
    flush
    complain ("file ".toList ++ Raw.ofNat n ++ " is not in sorted order".toList)
    if check = .always then exit 1
    return { side with isWarned := true }
  else return side

/-- Go to the next line of a file.  At its end the last two lines are looked at once more,
because a line without a partner may have come since. -/
def CommonSide.advance (side : CommonSide) (check : CommonCheck) (isUnpaired : Bool) (n : Nat) :
    Job CommonSide := do
  match side.rest with
  | [] => return side
  | line :: rest =>
    let moved := { side with rest, past := line :: side.past.take 1, count := side.count + 1 }
    match rest, moved.past with
    | next :: _, _ => moved.check check isUnpaired n line next
    | [], [last, before] => moved.check check isUnpaired n before last
    | [], _ => return moved

/-- The contents of the file of an operand; a fault ends the job. -/
def neededFile (path : Raw) : Job Raw := do
  match ← operand path with
  | .ok raw => return raw
  | .error fault =>
    complainOf path fault
    exit 1

/-- What is shown of the lines of two files. -/
structure CommonStyle where
  showsFirst : Bool
  showsSecond : Bool
  showsBoth : Bool
  between : Raw
  ending : Char
  check : CommonCheck

/-- Go through the lines of two files; `both` lines have been in both so far. -/
def CommonStyle.merge (s : CommonStyle) :
    Nat → Bool → Nat → CommonSide → CommonSide → Job (Nat × CommonSide × CommonSide)
  | 0, _, both, left, right => return (both, left, right)
  | fuel + 1, isUnpaired, both, left, right => do
    let order : Option Ordering := match left.rest, right.rest with
      | [], [] => none
      | [], _ => some .gt
      | _, [] => some .lt
      | a :: _, b :: _ => some (compareRaw a b)
    let first := if s.showsFirst then s.between else []
    let second := if s.showsSecond then s.between else []
    match order with
    | none => return (both, left, right)
    | some .lt =>
      if s.showsFirst then say (left.rest.headD [] ++ [s.ending])
      let left ← left.advance s.check true 1
      s.merge fuel true both left right
    | some .gt =>
      if s.showsSecond then say (first ++ right.rest.headD [] ++ [s.ending])
      let right ← right.advance s.check true 2
      s.merge fuel true both left right
    | some .eq =>
      if s.showsBoth then say (first ++ second ++ right.rest.headD [] ++ [s.ending])
      let left ← left.advance s.check isUnpaired 1
      let right ← right.advance s.check isUnpaired 2
      s.merge fuel isUnpaired (both + 1) left right

/-- The text between columns that options ask for. -/
def columnDelimiter (o : Chosen) : Job Raw := do
  let mut between : Option Raw := none
  for (key, value) in o.options do
    if key = "output-delimiter" then
      if between.any (· ≠ value) then giveUp 1 "multiple output delimiters specified".toList
      between := some value
  return match between with
    | none => ['\t']
    | some [] => [Raw.nul]
    | some raw => raw

/-- Compare two files whose lines are in order. -/
def comm : Job Unit := do
  let o ← options ("1 2 3 check-order nocheck-order output-delimiter: total " ++
    "z,zero-terminated")
  let between ← columnDelimiter o
  match o.operands with
  | [] => missingOperand 1
  | [one] => missingAfter 1 one
  | [one, two] =>
    let ending := if o.has "z" then Raw.nul else '\n'
    let s : CommonStyle :=
      { showsFirst := !o.has "1", showsSecond := !o.has "2", showsBoth := !o.has "3", between,
        ending
        check := match o.last? ["check-order", "nocheck-order"] with
          | none => .usual
          | some key => if key == "check-order" then .always else .never }
    let left := (linesEnding ending (← neededFile one)).map (·.raw)
    let right := (linesEnding ending (← neededFile two)).map (·.raw)
    let (both, left, right) ← s.merge (left.length + right.length + 1) false 0
      ⟨left, [], false, 0⟩ ⟨right, [], false, 0⟩
    if o.has "total" then
      let counts := [left.count - both, right.count - both, both].map Raw.ofNat
      say (Raw.join between (counts ++ ["total".toList]) ++ [ending])
    if left.isWarned ∨ right.isWarned then
      flush
      giveUp 1 "input is not in sorted order".toList
    exit 0
  | _ :: _ :: extra :: _ => extraOperand 1 extra

end Tool
end MakeTen
