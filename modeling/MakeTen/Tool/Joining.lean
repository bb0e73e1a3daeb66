import MakeTen.Tool.Ordering
/-!
# Lines with a field in common

The program that goes through two files whose lines are in the order of a field, and
puts together lines that have the same field.

Main definitions:

- Structure `Tool.JoinStyle`: how lines are joined.
- Function `Tool.join`: the program.
-/

namespace MakeTen
namespace Tool

/-! ## Styles -/

/-- What a line of joined lines shows: the joined field, or a field of one of the
two. -/
inductive JoinField where
  | joined
  | field (ofSecond : Bool) (n : Nat)

/-- When lines out of order are complained about. -/
inductive OrderCheck where
  /-- Once there has been a line without a partner. -/
  | usual
  | always
  | never

/-- How lines are joined. -/
structure JoinStyle where
  separator : Option Char
  first : Nat
  second : Nat
  shown : Option (List JoinField)
  filler : Raw
  foldsCase : Bool
  ending : Char
  check : OrderCheck
  showsPairs : Bool
  showsFirst : Bool
  showsSecond : Bool

/-- A line that can be joined. -/
structure JoinLine where
  number : Nat
  raw : Raw
  fields : List Raw

/-- One of the two files: its field, the lines left of it, and the line before
those. -/
structure JoinSide where
  path : Raw
  field : Nat
  rest : List JoinLine
  last : Option JoinLine
  isWarned : Bool

/-- The fields of a line, which are between blanks unless a separator is given. -/
def JoinStyle.fields (s : JoinStyle) (line : Raw) : List Raw :=
  match s.separator with
  | some c => if line.isEmpty then [] else Raw.splitOn c line
  | none =>
    let isBlank (c : Char) : Bool := Raw.isBlank c || c == '\n'
    let line := line.dropWhile isBlank
    let whole := (Raw.splitOnto isBlank [] [] line).filter (!·.isEmpty)
    if line.getLast?.any isBlank then whole ++ [[]] else whole

/-- The field of a line that joins it. -/
def JoinStyle.key (s : JoinStyle) (field : Nat) (line : JoinLine) : Raw :=
  let text := line.fields.getD (field - 1) []
  if s.foldsCase then text.map Char.toUpper else text

/-- The next line of a file, with a complaint if it is out of order. -/
def JoinStyle.next (s : JoinStyle) (isUnpaired : Bool) (side : JoinSide) :
    Job (Option JoinLine × JoinSide) := do
  match side.rest with
  | [] => return (none, side)
  | line :: rest =>
    let isChecked := match s.check with
      | .usual => isUnpaired
      | .always => true
      | .never => false
    let isBad := isChecked && !side.isWarned && side.last.any fun last =>
      compareRaw (s.key side.field last) (s.key side.field line) == .gt
    if isBad then
      let text := side.path ++ [':'] ++ Raw.ofNat line.number ++ ": is not sorted: ".toList ++
        line.raw
      flush
      match s.check with
      | .always => giveUp 1 text
      | _ => complain text
    return (some line, { side with rest, last := some line, isWarned := side.isWarned || isBad })

/-- The lines of a file that have some joining field, the first line that has not,
and what is left. -/
def JoinStyle.run (s : JoinStyle) (isUnpaired : Bool) (key : Raw) :
    Nat → JoinSide → Job (List JoinLine × Option JoinLine × JoinSide)
  | 0, side => return ([], none, side)
  | fuel + 1, side => do
    let (line, side) ← s.next isUnpaired side
    match line with
    | none => return ([], none, side)
    | some line =>
      if s.key side.field line = key then
        let (lines, next, side) ← s.run isUnpaired key fuel side
        return (line :: lines, next, side)
      else return ([], some line, side)

/-- Two lines, one of which may be missing, as one. -/
def JoinStyle.render (s : JoinStyle) (a b : Option JoinLine) : Raw :=
  let fieldsOf (line : Option JoinLine) : List Raw := (line.map (·.fields)).getD []
  let fill (text : Option Raw) : Raw :=
    match text with
    | some (c :: cs) => c :: cs
    | _ => s.filler
  let joined := if a.isSome then (fieldsOf a)[s.first - 1]? else (fieldsOf b)[s.second - 1]?
  let others (n : Nat) (line : Option JoinLine) : List Raw :=
    ((fieldsOf line).eraseIdx (n - 1)).map fun text => fill (some text)
  let texts := match s.shown with
    | none => fill joined :: others s.first a ++ others s.second b
    | some shown => shown.map fun
      | .joined => fill joined
      | .field ofSecond n => fill ((fieldsOf (if ofSecond then b else a))[n - 1]?)
  Raw.join [s.separator.getD ' '] texts ++ [s.ending]

/-- Join the lines of two files as long as both have some. -/
def JoinStyle.pairs (s : JoinStyle) : Nat → Bool → Option JoinLine → Option JoinLine →
    JoinSide → JoinSide → Job (Option JoinLine × Option JoinLine × JoinSide × JoinSide × Bool)
  | fuel + 1, isUnpaired, some a, some b, left, right => do
    match compareRaw (s.key left.field a) (s.key right.field b) with
    | .lt =>
      if s.showsFirst then say (s.render (some a) none)
      let (next, left) ← s.next isUnpaired left
      s.pairs fuel true next (some b) left right
    | .gt =>
      if s.showsSecond then say (s.render none (some b))
      let (next, right) ← s.next isUnpaired right
      s.pairs fuel true (some a) next left right
    | .eq =>
      let key := s.key left.field a
      let (more, first, left) ← s.run isUnpaired key (left.rest.length + 1) left
      let (others, second, right) ← s.run isUnpaired key (right.rest.length + 1) right
      if s.showsPairs then
        for l in a :: more do
          for r in b :: others do
            say (s.render (some l) (some r))
      s.pairs fuel isUnpaired first second left right
  | _, isUnpaired, a, b, left, right => return (a, b, left, right, isUnpaired)

/-- Show the lines that are left of a file, if they are asked for, and check them. -/
def JoinStyle.finish (s : JoinStyle) (isUnpaired isShown : Bool)
    (render : Option JoinLine → Raw) : Nat → Option JoinLine → JoinSide → Job JoinSide
  | fuel + 1, some line, side => do
    if isShown then say (render (some line))
    if side.isWarned ∧ ¬ isShown then return side
    let (next, side) ← s.next isUnpaired side
    s.finish isUnpaired isShown render fuel next side
  | _, _, side => return side

/-- The field of a number, which is not zero. -/
def joinFieldNumber (raw : Raw) : Job Nat := do
  match scaled? 10 "" raw with
  | .ok (n + 1) => return n + 1
  | .error .tooLarge => return unsignedLimit
  | _ => giveUp 1 ("invalid field number: ".toList ++ Quoting.forReader raw)

/-- The fields that a list asks for. -/
def joinFields (raw : Raw) : Job (List JoinField) :=
  (Raw.splitOnto (fun c => c == ',' || Raw.isBlank c) [] [] raw).mapM fun part => do
    match part with
    | ['0'] => return .joined
    | '1' :: '.' :: n => return .field false (← joinFieldNumber n)
    | '2' :: '.' :: n => return .field true (← joinFieldNumber n)
    | c :: _ =>
      let what := if "012".toList.contains c then "invalid field specifier: "
        else "invalid file number in field spec: "
      giveUp 1 (what.toList ++ Quoting.forReader part)
    | [] => giveUp 1 ("invalid file number in field spec: ".toList ++ Quoting.forReader part)

/-! ## What is asked for -/

/-- What an operand may be besides a file, by what stands before it. -/
inductive OperandRole where
  | file
  | perhapsFirst
  | perhapsSecond
  | perhapsFields

/-- What is asked for: a style as far as it is known, and the files. -/
structure JoinTask where
  first : Option Nat
  second : Option Nat
  separator : Option Char
  filler : Option Raw
  shown : List JoinField
  isAuto : Bool
  style : JoinStyle
  hasHeader : Bool
  files : List (Raw × OperandRole)
  /-- What the next operand may be. -/
  role : OperandRole
  /-- How often a field of the first or second file is asked for by a number that
  may as well name both fields. -/
  bareFirst : Nat
  bareSecond : Nat

/-- The field of a file when one more option asks for a field. -/
def joiningField (old : Option Nat) (n : Nat) : Job (Option Nat) := do
  match old with
  | some m =>
    if m ≠ n then
      giveUp 1 ("incompatible join fields ".toList ++ Raw.ofNat (m - 1) ++ ", ".toList ++
        Raw.ofNat (n - 1))
  | none => pure ()
  return some n

/-- The task with the same field of both files. -/
def JoinTask.withField (t : JoinTask) (n : Nat) : Job JoinTask := do
  let first ← joiningField t.first n
  let second ← joiningField t.second n
  return { t with first, second }

/-- The task with one more operand.  When there are more than two, one that may be
something else is taken for that. -/
def JoinTask.addFile (t : JoinTask) (role : OperandRole) (name : Raw) : Job JoinTask := do
  let fields : Bool := match role with
    | .perhapsFields => true
    | _ => false
  let withName (t : JoinTask) : JoinTask :=
    { t with
      files := t.files ++ [(name, role)]
      role := if fields then .perhapsFields else .file }
  match t.files with
  | [one, two] =>
    let ((text, known), other) := match one.2 with
      | .file => (two, one)
      | _ => (one, two)
    let t := { t with files := [other] }
    match known with
    | .file =>
      complain ("extra operand ".toList ++ named name)
      grumble ("Try '".toList ++ (← get).call.name ++ " --help' for more information.".toList)
      exit 1
    | .perhapsFirst =>
      let first ← joiningField t.first (← joinFieldNumber text)
      return withName { t with first, bareFirst := t.bareFirst - 1 }
    | .perhapsSecond =>
      let second ← joiningField t.second (← joinFieldNumber text)
      return withName { t with second, bareSecond := t.bareSecond - 1 }
    | .perhapsFields => return withName { t with shown := t.shown ++ (← joinFields text) }
  | _ => return withName t

/-- The task with one more option or operand. -/
def JoinTask.add (t : JoinTask) (key : String) (value _spelling : Raw) : Job JoinTask := do
  let role := t.role
  let t := { t with role := .file }
  let isUnpaired := key == "a" || key == "v"
  if isUnpaired then
    let style := { t.style with showsPairs := t.style.showsPairs && key == "a" }
    match scaled? 10 "" value with
    | .ok 1 => return { t with style := { style with showsFirst := true } }
    | .ok 2 => return { t with style := { style with showsSecond := true } }
    | _ => giveUp 1 ("invalid field number: ".toList ++ Quoting.forReader value)
  match key with
  | "" => t.addFile role value
  | "e" =>
    if t.filler.any (· ≠ value) then
      giveUp 1 "conflicting empty-field replacement strings".toList
    return { t with filler := some value }
  | "1" => return { t with first := ← joiningField t.first (← joinFieldNumber value) }
  | "2" => return { t with second := ← joiningField t.second (← joinFieldNumber value) }
  | "j" => t.withField (← joinFieldNumber value)
  | "j1" => return { t with bareFirst := t.bareFirst + 1, role := .perhapsFirst }
  | "j2" => return { t with bareSecond := t.bareSecond + 1, role := .perhapsSecond }
  | "o" =>
    if value = "auto".toList then return { t with isAuto := true }
    else return { t with shown := t.shown ++ (← joinFields value), role := .perhapsFields }
  | "t" =>
    let separator ← match value with
      | [c] => pure c
      | [] => pure '\n'
      | ['\\', '0'] => pure Raw.nul
      | text => giveUp 1 ("multi-character tab ".toList ++ Quoting.forReader text)
    if t.separator.any (· ≠ separator) then giveUp 1 "incompatible tabs".toList
    return { t with separator := some separator }
  | "i" => return { t with style := { t.style with foldsCase := true } }
  | "check-order" => return { t with style := { t.style with check := .always } }
  | "nocheck-order" => return { t with style := { t.style with check := .never } }
  | "z" => return { t with style := { t.style with ending := Raw.nul } }
  | "header" => return { t with hasHeader := true }
  | _ => return t

/-- What is asked for by the arguments of a job. -/
def joinTask : Job JoinTask := do
  let arguments := (← get).call.arguments
  let bare := ["-j1".toList, "-j2".toList]
  let (before, after) := arguments.span (· ≠ ['-', '-'])
  let arguments := before.map (fun a => if bare.contains a then '-' :: a else a) ++ after
  let style : JoinStyle :=
    { separator := none, first := 1, second := 1, shown := none, filler := [],
      foldsCase := false, ending := '\n', check := .usual, showsPairs := true,
      showsFirst := false, showsSecond := false }
  let reading := arrangedReading ("a: v: 1: 2: j: j1 j2 t: e: o: i,ignore-case check-order " ++
    "nocheck-order header z,zero-terminated") .inPlace arguments
  let (t, o) ← reading.foldJob 1
    { first := none, second := none, separator := none, filler := none, shown := [],
      isAuto := false, style, hasHeader := false, files := [], role := .file, bareFirst := 0,
      bareSecond := 0 : JoinTask }
    JoinTask.add
  let mut t := t
  for name in o.operands do
    t ← t.addFile .file name
  match t.files with
  | [_, _] => pure ()
  | [] => missingOperand 1
  | _ => missingAfter 1 (arguments.getLast?.getD [])
  if t.bareFirst ≠ 0 then t ← t.withField 1
  if t.bareSecond ≠ 0 then t ← t.withField 2
  let style := { t.style with
    separator := t.separator, first := t.first.getD 1, second := t.second.getD 1
    shown := if t.shown.isEmpty then none else some t.shown
    filler := t.filler.getD [] }
  return { t with style }

/-- The fields that are shown if the first lines of two files say how many there
are. -/
def fieldsOfLines (s : JoinStyle) (a b : Option JoinLine) : List JoinField :=
  let others (n : Nat) (ofSecond : Bool) (line : Option JoinLine) : List JoinField :=
    ((List.range' 1 ((line.map (·.fields.length)).getD 0)).filter (· ≠ n)).map (.field ofSecond)
  .joined :: others s.first false a ++ others s.second true b

/-- The file of an operand as one to be joined. -/
def joinSide (s : JoinStyle) (field : Nat) (path : Raw) : Job JoinSide := do
  match ← operand path with
  | .error fault =>
    if failsReading fault then giveUp 1 ("read error: ".toList ++ faultText fault)
    complainOf path fault
    exit 1
  | .ok raw =>
    let lines := (linesEnding s.ending raw).zipIdx.map fun (line, n) =>
      ⟨n + 1, line.raw, s.fields line.raw⟩
    return ⟨path, field, lines, none, false⟩

/-- Join lines of two files on a field that both have. -/
def join : Job Unit := do
  let t ← joinTask
  let s := t.style
  match t.files.map Prod.fst with
  | [one, two] =>
    if one = ['-'] ∧ two = ['-'] then
      giveUp 1 "both files cannot be standard input".toList
    let left ← joinSide s s.first one
    let right ← joinSide s s.second two
    let s := if t.isAuto then
      { s with shown := some (fieldsOfLines s left.rest.head? right.rest.head?) } else s
    let fuel := left.rest.length + right.rest.length + 2
    let mut heads := (← s.next false left, ← s.next false right)
    if t.hasHeader then
      let ((a, left), (b, right)) := heads
      if a.isSome ∨ b.isSome then
        say (s.render a b)
        heads := (← s.next false { left with last := none },
          ← s.next false { right with last := none })
    let ((a, left), (b, right)) := heads
    let (a, b, left, right, isUnpaired) ← s.pairs fuel false a b left right
    let left ← s.finish isUnpaired s.showsFirst (fun line => s.render line none) fuel a left
    let right ← s.finish isUnpaired s.showsSecond (fun line => s.render none line) fuel b right
    if left.isWarned ∨ right.isWarned then
      flush
      giveUp 1 "input is not in sorted order".toList
    exit 0
  | _ => exit 1

end Tool
end MakeTen
