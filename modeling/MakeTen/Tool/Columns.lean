import MakeTen.Tool.Lines
/-!
# Columns

Programs that work on the columns of lines: parts of lines are picked, and lines are
put side by side or broken.

Main definitions:

- Structure `Tool.Span`: positions from one to another.
- Function `Tool.readSpans`: the positions that a list describes.
- Functions `Tool.cut`, `Tool.paste` and `Tool.fold`: the programs.
-/

namespace MakeTen
namespace Tool

/-! ## Lists of positions -/

/-- Positions from one to another, or without end; the first position is one. -/
structure Span where
  first : Nat
  last : Option Nat

/-- Whether a position is in a span. -/
def Span.holds (s : Span) (n : Nat) : Bool :=
  s.first ≤ n && s.last.all (n ≤ ·)

/-- The part of a list of positions that describes one span. -/
structure SpanText where
  left : Raw
  hasDash : Bool
  right : Raw

/-- The span that the part of a list describes, or what is wrong with it. -/
def SpanText.span (isField : Bool) (t : SpanText) : Except Raw Span :=
  let zero : Raw := if isField then "fields are numbered from 1".toList
    else "byte/character positions are numbered from 1".toList
  let left := Raw.valueIn 10 t.left
  let right := Raw.valueIn 10 t.right
  if ¬ t.hasDash then
    if left = 0 then .error zero else .ok ⟨left, some left⟩
  else if t.left.isEmpty ∧ t.right.isEmpty then
    .error "invalid range with no endpoint: -".toList
  else
    let first := if t.left.isEmpty then 1 else left
    if t.right.isEmpty then .ok ⟨first, none⟩
    else if right < first then .error "invalid decreasing range".toList
    else .ok ⟨first, some right⟩

/-- The spans of a list of positions, or what is wrong with it; `t` is the part on
its way. -/
def readSpansAfter (isField : Bool) (t : SpanText) (done : List Span) :
    Raw → Except Raw (List Span)
  | [] => do
    let s ← t.span isField
    return (s :: done).reverse
  | c :: rest =>
    if c = '-' then
      if t.hasDash then
        .error (if isField then "invalid field range".toList
          else "invalid byte or character range".toList)
      else if ¬ t.left.isEmpty ∧ Raw.valueIn 10 t.left = 0 then
        .error (if isField then "fields are numbered from 1".toList
          else "byte/character positions are numbered from 1".toList)
      else readSpansAfter isField { t with hasDash := true } done rest
    else if c = ',' ∨ Raw.isBlank c then do
      let s ← t.span isField
      readSpansAfter isField ⟨[], false, []⟩ (s :: done) rest
    else if c.isDigit then
      let digits := (if t.hasDash then t.right else t.left) ++ [c]
      if unsignedLimit ≤ Raw.valueIn 10 digits then
        .error ((if isField then "field number ".toList else "byte/character offset ".toList) ++
          Quoting.forReader (digits ++ rest.takeWhile Char.isDigit) ++ " is too large".toList)
      else if t.hasDash then readSpansAfter isField { t with right := digits } done rest
      else readSpansAfter isField { t with left := digits } done rest
    else
      .error ((if isField then "invalid field value ".toList
        else "invalid byte/character position ".toList) ++ Quoting.forReader (c :: rest))

/-- Spans in order, with those that overlap made one. -/
def mergeSpans (spans : List Span) : List Span :=
  let sorted := spans.mergeSort fun a b => a.first ≤ b.first
  let add (merged : List Span) (s : Span) : List Span :=
    match merged with
    | [] => [s]
    | top :: below =>
      match top.last with
      | none => merged
      | some last =>
        if s.first ≤ last then ⟨top.first, s.last.map (max last)⟩ :: below
        else s :: merged
  (sorted.foldl add []).reverse

/-- The positions between some spans that are in order. -/
def complementSpans (next : Nat) : List Span → List Span
  | [] => [⟨next, none⟩]
  | s :: rest =>
    let gap := if next < s.first then [⟨next, some (s.first - 1)⟩] else []
    match s.last with
    | none => gap
    | some last => gap ++ complementSpans (last + 1) rest

/-- The spans that a list of positions describes. -/
def readSpans (isField isComplement : Bool) (raw : Raw) : Except Raw (List Span) := do
  let spans := mergeSpans (← readSpansAfter isField ⟨[], false, []⟩ [] raw)
  return if isComplement then complementSpans 1 spans else spans

/-! ## Parts of lines -/

/-- The bytes of a line in some spans, with a text between those of different
spans. -/
def cutBytes (spans : List Span) (between line : Raw) : Raw :=
  let parts := spans.filterMap fun s =>
    let rest := line.drop (s.first - 1)
    let part := match s.last with
      | some last => rest.take (last + 1 - s.first)
      | none => rest
    if part.isEmpty then none else some part
  Raw.join between parts

/-- The fields of a line in some spans; nothing if the line has but one field and
such lines are left out. -/
def cutFields (spans : List Span) (delimiter : Char) (between : Raw) (isStrict : Bool)
    (line : Raw) : Option Raw :=
  match Raw.splitOn delimiter line with
  | [_] => if isStrict then none else some line
  | fields =>
    let chosen := fields.zipIdx.filter fun (_, n) => spans.any (·.holds (n + 1))
    some (Raw.join between (chosen.map (·.1)))

/-- What is cut out of lines. -/
structure CutTask where
  /-- The letter of the option, and its list of positions. -/
  list : Option (Char × Raw)
  delimiter : Option Char
  between : Option Raw

/-- The task with one more option. -/
def CutTask.withOption (t : CutTask) (key : String) (value : Raw) : Job CutTask := do
  let choose (letter : Char) : Job CutTask := do
    if t.list.isSome then giveUsage 1 "only one list may be specified".toList
    else return { t with list := some (letter, value) }
  match key with
  | "b" => choose 'b'
  | "c" => choose 'c'
  | "f" => choose 'f'
  | "d" =>
    match value with
    | [] => return { t with delimiter := some Raw.nul }
    | [c] => return { t with delimiter := some c }
    | _ => giveUsage 1 "the delimiter must be a single character".toList
  | "output-delimiter" =>
    return { t with between := some (if value.isEmpty then [Raw.nul] else value) }
  | _ => return t

/-- Show parts of lines. -/
def cut : Job Unit := do
  let (t, o) ← foldOptions ("b,bytes: c,characters: f,fields: d,delimiter: n " ++
    "s,only-delimited z,zero-terminated complement output-delimiter:") true 1
    (← get).call.arguments (CutTask.mk none none none) fun t key value _ => t.withOption key value
  match t.list with
  | none => giveUsage 1 "you must specify a list of bytes, characters, or fields".toList
  | some (letter, list) =>
    let isField := letter == 'f'
    if t.delimiter.isSome ∧ ¬ isField then
      giveUsage 1 "an input delimiter may be specified only when operating on fields".toList
    if o.has "s" ∧ ¬ isField then
      giveUsage 1
        "suppressing non-delimited lines makes sense\n\tonly when operating on fields".toList
    match readSpans isField (o.has "complement") list with
    | .error text => giveUsage 1 text
    | .ok spans =>
      let ending := if o.has "z" then Raw.nul else '\n'
      let delimiter := t.delimiter.getD '\t'
      let between := t.between
      let change (line : Raw) : Option Raw :=
        if isField then cutFields spans delimiter (between.getD [delimiter]) (o.has "s") line
        else some (cutBytes spans (between.getD []) line)
      let mut isGood := true
      for path in o.files do
        match ← foldEnding ending path () fun _ line => do
            say (((change line.raw).map (· ++ [ending])).getD [])
            return .on () with
        | .ok _ => pure ()
        | .error fault =>
          flush
          complainOf path fault
          isGood := false
      exitClosing isGood o.files "-"

/-! ## Lines side by side -/

/-- The delimiters that a list describes, some of which may be empty; nothing if
the list ends in the middle of one. -/
def pasteDelimiters : Raw → Option (List Raw)
  | [] => some []
  | '\\' :: c :: rest =>
    let one : Raw := match c with
      | '0' => []
      | 'b' => [Char.ofNat 8]
      | 'f' => [Char.ofNat 12]
      | 'n' => ['\n']
      | 'r' => ['\r']
      | 't' => ['\t']
      | 'v' => [Char.ofNat 11]
      | c => [c]
    (pasteDelimiters rest).map (one :: ·)
  | ['\\'] => none
  | c :: rest => (pasteDelimiters rest).map ([c] :: ·)

/-- Texts with delimiters between them, which are used in turn. -/
def weave (delimiters : Array Raw) (texts : List Raw) : Raw :=
  texts.zipIdx.flatMap fun (text, n) =>
    if n = 0 then text else delimiters.getD ((n - 1) % delimiters.size) [] ++ text

/-- One line of each of some sources that are not all at their end; an empty one
stands for a source that is.  A hyphen takes lines from the input. -/
def pasteRow (ending : Char) : List (Option (List Line)) →
    Job (List Raw × List (Option (List Line)) × Bool)
  | [] => return ([], [], false)
  | none :: rest => do
    let line ← if ending = '\n' then readLine? else pure none
    let (row, rest, isAny) ← pasteRow ending rest
    return ((line.map (·.1)).getD [] :: row, none :: rest, isAny || line.isSome)
  | some lines :: rest => do
    let (row, rest, isAny) ← pasteRow ending rest
    match lines with
    | [] => return ([] :: row, some [] :: rest, isAny)
    | line :: lines => return (line.raw :: row, some lines :: rest, true)

/-- Rows of lines until all sources are at their end. -/
def pasteRows (ending : Char) (delimiters : Array Raw) :
    Nat → List (Option (List Line)) → Job Unit
  | 0, _ => return
  | fuel + 1, sources => do
    let (row, sources, isAny) ← pasteRow ending sources
    if isAny then
      say (weave delimiters row ++ [ending])
      pasteRows ending delimiters fuel sources

/-- Put lines of files side by side, or all lines of a file. -/
def paste : Job Unit := do
  let o ← options "d,delimiters: s,serial z,zero-terminated"
  let list := (o.value? "d").getD ['\t']
  let ending := if o.has "z" then Raw.nul else '\n'
  match pasteDelimiters list with
  | none =>
    giveUp 1 ("delimiter list ends with an unescaped backslash: ".toList ++ list)
  | some delimiters =>
    let delimiters := if delimiters.isEmpty then #[[]] else delimiters.toArray
    if o.has "s" then
      let mut isGood := true
      for path in o.files do
        match ← operand path with
        | .ok raw => say (weave delimiters ((linesEnding ending raw).map (·.raw)) ++ [ending])
        | .error fault =>
          flush
          complainOf path fault
          isGood := false
          if fault = .isDirectory ∨ fault = .badDescriptor then say [ending]
      exitClosing isGood o.files "-"
    else
      let mut sources : List (Option (List Line)) := []
      let mut size := 0
      let mut isGood := true
      for path in o.files do
        if path = ['-'] ∧ (← get).call.inputFault.isNone ∧ ending = '\n' then
          sources := sources ++ [none]
        else
          match ← operand path with
          | .ok raw =>
            let lines := linesEnding ending raw
            size := size + lines.length
            sources := sources ++ [some lines]
          | .error fault =>
            complainOf path fault
            isGood := false
            if fault ≠ .isDirectory ∧ fault ≠ .badDescriptor then exit 1
            sources := sources ++ [some []]
      pasteRows ending delimiters (size + (← get).input.length + 2) sources
      exitClosing isGood o.files "-"

/-! ## Broken lines -/

/-- Where the next character of a line stands after a character. -/
def nextColumn (countsBytes : Bool) (column : Nat) (c : Char) : Nat :=
  if countsBytes then column + 1
  else if c = Char.ofNat 8 then column - 1
  else if c = '\r' then 0
  else if c = '\t' then column + 8 - column % 8
  else column + 1

/-- Where the character after a text stands. -/
def columnAfter (countsBytes : Bool) (raw : Raw) : Nat :=
  raw.foldl (nextColumn countsBytes) 0

/-- Put a character behind the part of a line that has not been written yet, given
in reverse with its column, and give what is written.  The fuel is the length of
that part. -/
def foldCharacter (countsBytes atBlanks : Bool) (width : Nat) (c : Char) :
    Nat → Raw → Nat → Raw × Raw × Nat
  | 0, held, column => ([], c :: held, nextColumn countsBytes column c)
  | fuel + 1, held, column =>
    let next := nextColumn countsBytes column c
    if next ≤ width then ([], c :: held, next)
    else
      let after := held.takeWhile (!Raw.isBlank ·)
      let before := held.drop after.length
      if atBlanks ∧ ¬ before.isEmpty then
        let (text, held, column) := foldCharacter countsBytes atBlanks width c fuel after
          (columnAfter countsBytes after.reverse)
        (before.reverse ++ '\n' :: text, held, column)
      else if held.isEmpty then ([], [c], next)
      else
        let (text, rest, column) := foldCharacter countsBytes atBlanks width c fuel [] 0
        (held.reverse ++ '\n' :: text, rest, column)

/-- A line broken into lines of at most some width. -/
def foldLine (countsBytes atBlanks : Bool) (width : Nat) (line : Raw) : Raw :=
  let (written, held, _) := line.foldl (fun (written, held, column) c =>
    let (text, held, column) :=
      foldCharacter countsBytes atBlanks width c (held.length + 1) held column
    (text :: written, held, column)) (([] : List Raw), ([] : Raw), 0)
  written.reverse.flatten ++ held.reverse

/-- Arguments in which a number that stands for an option is spelt as one. -/
def spellNumber (letter : Char) : List Raw → List Raw
  | [] => []
  | argument :: rest =>
    match argument with
    | '-' :: digits =>
      if ¬ digits.isEmpty ∧ digits.all Char.isDigit then
        ['-', letter] :: digits :: spellNumber letter rest
      else if digits = [letter] then argument :: rest.take 1 ++ spellNumber letter (rest.drop 1)
      else argument :: spellNumber letter rest
    | _ => argument :: spellNumber letter rest
termination_by arguments => arguments.length

/-- Break lines. -/
def fold : Job Unit := do
  let arguments := spellNumber 'w' (← get).call.arguments
  let (width, o) ← foldOptions "b,bytes s,spaces w,width:" true 1 arguments 80
    fun width key value _ =>
      if key = "w" then numberWithin "invalid number of columns" 1 18446744073709551606 "" value
      else pure width
  mapLines o.files (foldLine (o.has "b") (o.has "s") width)

end Tool
end MakeTen
