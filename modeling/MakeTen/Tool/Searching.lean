import MakeTen.Regex.Matching
import MakeTen.Regex.Reader
import MakeTen.Tool.Lines
/-!
# Searching

The program that shows the lines that hold one of some patterns.

Main definitions:

- Structure `Tool.Search`: what is looked for, and what is shown.
- Function `Tool.grep`: the program.
-/

namespace MakeTen
namespace Tool

/-! ## What is looked for -/

/-- What is looked for, and what is shown. -/
structure Search where
  patterns : List Regex
  foldsCase : Bool
  isOrdered : Bool
  /-- Whether only whole words, or whole lines, count. -/
  ofWords : Bool
  ofLines : Bool
  isInverted : Bool
  /-- How many lines are looked for. -/
  limit : Option Nat
  showsCount : Bool
  /-- Only the names of files with, or without, such lines are shown. -/
  showsFiles : Bool
  showsOthers : Bool
  onlyParts : Bool
  isQuiet : Bool
  isSilent : Bool
  withNames : Bool
  withNumbers : Bool
  withOffsets : Bool
  withTabs : Bool
  /-- How many lines are shown before and after. -/
  before : Nat
  after : Nat
  isText : Bool
  inputName : Raw
  nameEnd : Option Char

/-- The match of a pattern from a position that is a word of its own, the longest one
or, if the order of alternatives counts, the first one. -/
def wordAt? (s : Regex.Subject) (r : Regex) (i : Nat) : Option Regex.Match :=
  let isWord (j : Nat) : Bool := !(0 < i && s.isWordAt (i - 1)) && !s.isWordAt j
  let tracedTo (isLast : Nat → Bool) : Option Regex.Match :=
    Regex.trace s r i [] fun j groups => if isLast j then some ⟨i, j, groups⟩ else none
  if s.isOrdered then tracedTo isWord
  else
    ((Regex.ends s r i).filter isWord).findSome? fun j =>
      if r.hasGroups then tracedTo (· == j) else some ⟨i, j, []⟩

/-- The match of a pattern at a position. -/
def Search.matchAt? (q : Search) (s : Regex.Subject) (r : Regex) (i : Nat) :
    Option Regex.Match :=
  if q.ofLines then
    if i = 0 then Regex.matchAt? s (.seq r (.edge .textEnd)) 0 else none
  else if q.ofWords then wordAt? s r i
  else Regex.matchAt? s r i

/-- The first match of a pattern from one of some positions on. -/
def Search.matchFrom? (q : Search) (s : Regex.Subject) (r : Regex) :
    Nat → Nat → Option Regex.Match
  | 0, i => q.matchAt? s r i
  | fuel + 1, i =>
    match q.matchAt? s r i with
    | some found => some found
    | none => q.matchFrom? s r fuel (i + 1)

/-- The first match of any pattern from a position on; of those that start at the
same position the longest. -/
def Search.find? (q : Search) (s : Regex.Subject) (start : Nat) : Option Regex.Match :=
  let found := q.patterns.filterMap fun r => q.matchFrom? s r (s.text.size - start) start
  found.foldl (fun best m =>
    match best with
    | none => some m
    | some b =>
      if m.first < b.first ∨ (m.first = b.first ∧ b.last < m.last) then some m else best) none

/-- A line as a text that is searched. -/
def Search.subject (q : Search) (line : Raw) : Regex.Subject :=
  { Regex.Subject.ofLine q.foldsCase line with isOrdered := q.isOrdered }

/-- Whether a line is one that is looked for. -/
def Search.holds (q : Search) (line : Raw) : Bool :=
  (q.find? (q.subject line) 0).isSome != q.isInverted

/-- The parts of a line that match, with their positions. -/
def Search.parts (q : Search) (s : Regex.Subject) : Nat → Nat → List (Nat × List Char)
  | 0, _ => []
  | fuel + 1, start =>
    match q.find? s start with
    | none => []
    | some m =>
      if m.first = m.last then
        if s.text.size ≤ m.last then [] else q.parts s fuel (m.last + 1)
      else (m.first, (s.text.extract m.first m.last).toList) :: q.parts s fuel m.last

/-! ## Going through a file -/

/-- Where the search in a file has come to. -/
structure SearchState where
  /-- The number of the next line, and how many bytes are before it. -/
  number : Nat
  offset : Nat
  /-- How many lines have been found. -/
  found : Nat
  /-- Lines before the next one that have not been shown, the latest first. -/
  held : List (Nat × Nat × Raw)
  /-- How many lines are still shown after the last one found. -/
  due : Nat
  /-- The number of the line that was shown last. -/
  shown : Option Nat
  /-- Whether something could not be shown because it is no text. -/
  hasBinary : Bool

/-- The start of a line that is shown. -/
def Search.lead (q : Search) (name : Raw) (mark : Char) (number offset : Nat) : Raw :=
  let nameMark := if mark = ':' then q.nameEnd.getD mark else mark
  let name := if q.withNames then name ++ [nameMark] else []
  let width := if q.withTabs then 4 else 0
  let number := if q.withNumbers then Raw.padStart width ' ' (Raw.ofNat number) ++ [mark] else []
  let offset := if q.withOffsets then Raw.padStart width ' ' (Raw.ofNat offset) ++ [mark] else []
  let lead := name ++ number ++ offset
  if q.withTabs ∧ ¬ lead.isEmpty then lead ++ ['\t'] else lead

/-- Show a line. -/
def Search.showLine (q : Search) (name : Raw) (mark : Char) (state : SearchState)
    (number offset : Nat) (raw : Raw) : Job SearchState := do
  if ¬ q.isText ∧ raw.contains Raw.nul then return { state with hasBinary := true }
  let isGap : Bool := match state.shown with
    | some n => n + 1 < number
    | none => false
  if isGap ∧ 0 < q.before + q.after then say ['-', '-', '\n']
  say (q.lead name mark number offset ++ raw ++ ['\n'])
  return { state with shown := some number }

/-- Show a line that has been found, or its parts. -/
def Search.showFound (q : Search) (name : Raw) (state : SearchState) (raw : Raw) :
    Job SearchState := do
  if q.onlyParts then
    if ¬ q.isInverted then
      let s := q.subject raw
      for (first, part) in q.parts s (s.text.size + 1) 0 do
        let offset := state.offset + first
        say (q.lead name ':' state.number offset ++ part ++ ['\n'])
    return state
  let mut state := state
  for (number, offset, raw) in state.held.reverse do
    state ← q.showLine name '-' state number offset raw
  state ← q.showLine name ':' state state.number state.offset raw
  return { state with held := [], due := q.after }

/-- Go on with a line. -/
def Search.step (q : Search) (name : Raw) (state : SearchState) (line : Line) :
    Job (Going SearchState) := do
  let raw := line.raw
  let pass (state : SearchState) : SearchState :=
    { state with number := state.number + 1, offset := state.offset + raw.length + 1 }
  let isFull := q.limit.any (· ≤ state.found)
  let isPlain := q.isQuiet || q.showsFiles || q.showsOthers || q.showsCount
  if isFull then
    if state.due = 0 then return .enough state
    else
      let state ← q.showLine name '-' state state.number state.offset raw
      return .on (pass { state with due := state.due - 1 })
  else if q.holds raw then
    let state := { state with found := state.found + 1 }
    if q.isQuiet ∨ q.showsFiles ∨ q.showsOthers then return .enough state
    let state ← if isPlain then pure state else q.showFound name state raw
    if q.limit.any (· ≤ state.found) ∧ state.due = 0 then return .enough (pass state)
    return .on (pass state)
  else if isPlain ∨ q.onlyParts then return .on (pass state)
  else if 0 < state.due then
    let state ← q.showLine name '-' state state.number state.offset raw
    return .on (pass { state with due := state.due - 1 })
  else
    let held := (state.number, state.offset, raw) :: state.held
    return .on (pass { state with held := held.take q.before })

/-- Show what is left to be said about a file; the answer is whether a line has been
found. -/
def Search.finish (q : Search) (name : Raw) (state : SearchState) : Job Bool := do
  if ¬ q.isQuiet then
    if q.showsFiles then
      if 0 < state.found then say (name ++ [q.nameEnd.getD '\n'])
    else if q.showsOthers then
      if state.found = 0 then say (name ++ [q.nameEnd.getD '\n'])
    else if q.showsCount then
      let lead := if q.withNames then name ++ [q.nameEnd.getD ':'] else []
      sayLine (lead ++ Raw.ofNat state.found)
    else if state.hasBinary then
      flush
      complain (name ++ ": binary file matches".toList)
  return 0 < state.found

/-- What a search starts with. -/
def SearchState.start (shown : Option Nat) : SearchState := ⟨1, 0, 0, [], 0, shown, false⟩

/-! ## Options -/

/-- Patterns, which are separated by line ends. -/
def patternLines (raw : Raw) : List Raw :=
  Raw.splitOn '\n' raw

/-- End the job after a word on how it is used. -/
def grepUsage {α : Type} : Job α := do
  let name := (← get).call.name
  grumble ("Usage: ".toList ++ name ++ " [OPTION]... PATTERNS [FILE]...".toList)
  grumble ("Try '".toList ++ name ++ " --help' for more information.".toList)
  exit 2

/-- The options that are known. -/
def grepFlags : String :=
  "E,extended-regexp F,fixed-strings G,basic-regexp P,perl-regexp e,regexp: f,file: " ++
    "i,ignore-case y no-ignore-case w,word-regexp x,line-regexp c,count color? colour? " ++
    "L,files-without-match l,files-with-matches m,max-count: o,only-matching q,quiet,silent " ++
    "s,no-messages b,byte-offset H,with-filename h,no-filename label: n,line-number " ++
    "T,initial-tab Z,null A,after-context: B,before-context: C,context: a,text " ++
    "binary-files: I D,devices: d,directories: r,recursive R,dereference-recursive include: " ++
    "exclude: exclude-dir: exclude-from: line-buffered U,binary u z,null-data v,invert-match " ++
    "0 1 2 3 4 5 6 7 8 9"

/-- The number that the digits among the options spell. -/
def digitOptions (o : Chosen) : Option Nat :=
  let digits := o.options.filterMap fun (key, _) =>
    match key.toList with
    | [c] => if c.isDigit then some c else none
    | _ => none
  if digits.isEmpty then none else some (Raw.valueIn 10 digits)

/-- The patterns that the options and operands give, and the files. -/
def grepPatterns (o : Chosen) : Job (List Raw × List Raw) := do
  let mut patterns : List Raw := []
  for (key, value) in o.options do
    if key = "e" then patterns := patterns ++ patternLines value
    else if key = "f" then
      match ← operand value with
      | .ok raw => patterns := patterns ++ Raw.lines raw
      | .error fault =>
        complainOf value fault
        exit 2
  if o.has "e" ∨ o.has "f" then return (patterns, o.operands)
  else
    match o.operands with
    | [] => grepUsage
    | first :: rest => return (patternLines first, rest)

/-- The files in a directory and below it, with their paths. -/
def filesBelow (files : Files) : Nat → Raw → List Raw
  | 0, _ => []
  | fuel + 1, path =>
    match files.follow (Raw.toString path) with
    | .error _ => [path]
    | .ok place =>
      if files.at? place = some .directory then
        (files.children place).flatMap fun name =>
          let lead := if path.getLast? = some '/' then path else path ++ ['/']
          filesBelow files fuel (lead ++ Raw.ofString name)
      else [path]

/-- The kind of patterns that the options ask for. -/
def grepKind (name : Raw) (o : Chosen) : Option String :=
  match name with
  | ['e', 'g', 'r', 'e', 'p'] => some "E"
  | ['f', 'g', 'r', 'e', 'p'] => some "F"
  | _ => o.last? ["E", "F", "G", "P"]

/-- The patterns as they are matched; the job ends if one of them is wrong. -/
def compilePatterns (kind : Option String) (patterns : List Raw) : Job (List Regex) := do
  let mut compiled : List Regex := []
  for text in patterns.eraseDups do
    if kind = some "F" then compiled := compiled ++ [Regex.ofChars text]
    else
      let flavour : Regex.Flavour := match kind with
        | some "E" => .extendedSearch
        | some "P" => .orderedSearch
        | _ => .basicSearch
      match Regex.readWarned flavour text with
      | .ok (r, warnings) =>
        for warning in warnings do
          complain ("warning: ".toList ++ warning.toList)
        compiled := compiled ++ [r]
      | .error fault =>
        giveUp 2 (if flavour.isOrdered then fault.orderedText else fault.text).toList
  return compiled

/-- The search that the options ask for, with the files. -/
def readSearch (o : Chosen) (shortName : Raw) : Job (Search × List Raw) := do
  let kind := grepKind shortName o
  let (patterns, operands) ← grepPatterns o
  let count (key : String) : Job (Option Nat) := do
    match o.value? key with
    | none => return none
    | some raw =>
      match Raw.toNat? raw with
      | some n => return some n
      | none => giveUp 2 (raw ++ ": invalid context length argument".toList)
  let around := ((← count "C").or (digitOptions o)).getD 0
  let limit ← match o.value? "m" with
    | none => pure none
    | some raw =>
      match Raw.toInt? raw with
      | some n => pure (if n < 0 then none else some n.toNat)
      | none => giveUp 2 "invalid max count".toList
  let isRecursive := o.has "r" || o.has "R"
  let compiled ← compilePatterns kind patterns
  let search : Search :=
    { patterns := compiled
      foldsCase := match o.last? ["i", "y", "no-ignore-case"] with
        | some "no-ignore-case" => false
        | some _ => true
        | none => false
      isOrdered := kind = some "P"
      ofWords := o.has "w"
      ofLines := o.has "x"
      isInverted := o.has "v"
      limit
      showsCount := o.has "c"
      showsFiles := o.last? ["l", "L"] = some "l"
      showsOthers := o.last? ["l", "L"] = some "L"
      onlyParts := o.has "o"
      isQuiet := o.has "q"
      isSilent := o.has "s"
      withNames := match o.last? ["H", "h"] with
        | some "H" => true
        | some _ => false
        | none => 1 < operands.length || isRecursive
      withNumbers := o.has "n"
      withOffsets := o.has "b"
      withTabs := o.has "T"
      before := (← count "B").getD around
      after := (← count "A").getD around
      isText := o.has "a" || o.value? "binary-files" = some "text".toList
      inputName := (o.value? "label").getD "(standard input)".toList
      nameEnd := if o.has "Z" then some Raw.nul else none }
  return (search, operands)

/-- Show the lines of files that hold a pattern. -/
def grep : Job Unit := do
  let d ← get
  let name := d.call.shortName
  if name ≠ "grep".toList then set { d with call := { d.call with name := "grep".toList } }
  match chosenOf grepFlags true d.call.arguments with
  | .error fault =>
    complain fault.text
    grepUsage
  | .ok o =>
    if o.has "help" ∨ o.has "version" then
      sayLine ("Usage: ".toList ++ d.call.name ++ " [OPTION]... PATTERNS [FILE]...".toList)
      exit 0
    let (q, operands) ← readSearch o name
    if q.limit = some 0 then exit 1
    let isRecursive := o.has "r" || o.has "R"
    let paths := if operands.isEmpty then (if isRecursive then [['.']] else [['-']])
      else operands
    let paths := if isRecursive then
        paths.flatMap fun path =>
          if path = ['-'] then [path]
          else
            let found := filesBelow d.files 32 path
            if operands.isEmpty then found.map (·.drop 2) else found
      else paths
    let mut isFound := false
    let mut isGood := true
    let mut shown : Option Nat := none
    for path in paths do
      if ¬ (q.isQuiet ∧ isFound) then
        let name := if path = ['-'] then q.inputName else path
        match ← foldFile path (SearchState.start shown) (q.step name) with
        | .ok going =>
          let isHere ← q.finish name going.state
          if going.state.shown.isSome then shown := some 0
          isFound := isFound || isHere
        | .error fault =>
          let isSkipped := fault = .isDirectory &&
            (o.value? "d" = some "skip".toList || isRecursive)
          if ¬ isSkipped then
            isGood := false
            flush
            if ¬ q.isSilent then complain (name ++ ": ".toList ++ faultText fault)
    if isFound ∧ (isGood ∨ q.isQuiet) then exit 0
    else exit (if isGood then 1 else 2)

end Tool
end MakeTen
