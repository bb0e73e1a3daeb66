import MakeTen.Regex.Matching
import MakeTen.Regex.Reader
import MakeTen.Shell.Pattern
import MakeTen.Text.Alignment
import MakeTen.Tool.Copying
import MakeTen.Tool.Surroundings
import MakeTen.Tool.Viewing
/-!
# Comparing files

Two files are compared byte by byte, where the first difference or all of them are
told, or line by line, where it is told which lines have to go and to come so that
the first file becomes the second one.

Main definitions:

- Function `Tool.cmp`: bytes.
- Structure `Tool.Hunk`: lines that go and come at one place.
- Function `Tool.diff`: lines.
-/

namespace MakeTen
namespace Tool

/-- Complain about the way of calling, and end the job. -/
def giveUsageTwice {α : Type} (raw : Raw) : Job α := do
  complain raw
  giveUp 2 ("Try '".toList ++ (← get).call.name ++ " --help' for more information.".toList)

/-- The options and operands of a program that compares. -/
def comparingOptions (known : String) : Job Chosen := do
  let call := (← get).call
  match chosenOf known true call.arguments with
  | .error fault => giveUsageTwice fault.text
  | .ok chosen =>
    if chosen.has "help" then
      sayLine ("Usage: ".toList ++ call.name ++ " [OPTION]...".toList)
      exit 0
    else return chosen

/-- Complain that an operand is missing. -/
def missingComparison {α : Type} : Job α := do
  let call := (← get).call
  giveUsageTwice ("missing operand after '".toList ++
    (call.arguments.getLast?.getD call.name) ++ ['\''])

/-- Complain about a file that is compared. -/
def complainOfCompared (path : Raw) (fault : HostFault) : Job Unit :=
  complain (path ++ ": ".toList ++ faultText fault)

/-- The contents of an operand that is compared, or the end of the job. -/
def comparedContents (isQuiet : Bool) (path : Raw) : Job Raw := do
  let isDirectory : Bool := path ≠ ['-'] && (← node? path) == some .directory
  match ← (if isDirectory then pure (.error .isDirectory) else operand path) with
  | .ok raw => return raw
  | .error fault =>
    if ¬ isQuiet then complainOfCompared path fault
    exit 2

/-! ## Bytes -/

/-- Bytes that differ, each with its place from one on. -/
def unequalBytes (place : Nat) : Raw → Raw → List (Nat × Char × Char)
  | a :: as, b :: bs =>
    if a = b then unequalBytes (place + 1) as bs
    else (place, a, b) :: unequalBytes (place + 1) as bs
  | _, _ => []

/-- A byte as octal digits. -/
def byteDigits (c : Char) : Raw :=
  Raw.padStart 3 ' ' (Raw.digits 8 c.toNat)

/-- Compare two files byte by byte. -/
def cmp : Job Unit := do
  let o ← comparingOptions "b,print-bytes i,ignore-initial: l,verbose n,bytes: s,quiet,silent"
  if o.has "l" ∧ o.has "s" then giveUsageTwice "options -l and -s are incompatible".toList
  let (first, second) ← match o.operands with
    | [] => missingComparison
    | [first] => pure (first, ['-'])
    | first :: second :: _ => pure (first, second)
  match o.operands.drop 4 with
  | extra :: _ => giveUsageTwice ("extra operand '".toList ++ extra ++ ['\''])
  | [] => pure ()
  let readSkip (raw : Raw) : Job Nat := do
    match size? raw with
    | some n => pure n
    | none => giveUsageTwice ("invalid --ignore-initial value '".toList ++ raw ++ ['\''])
  let skips ← match o.value? "i" with
    | none => pure [0, 0]
    | some raw =>
      match Raw.splitOn ':' raw with
      | [both] => do
        let n ← readSkip both
        pure [n, n]
      | parts => parts.mapM readSkip
  let given ← (o.operands.drop 2).mapM readSkip
  let skip := given.headD (skips.headD 0)
  let otherSkip := (given.drop 1).headD ((skips.drop 1).headD 0)
  let limit ← match o.value? "n" with
    | none => pure none
    | some raw =>
      match size? raw with
      | some n => pure (some n)
      | none => giveUsageTwice ("invalid --bytes value '".toList ++ raw ++ ['\''])
  if first = second ∧ skip = otherSkip then
    if (← node? first) ≠ some .directory then
      let _ ← comparedContents (o.has "s") first
    exit 0
  let cut (raw : Raw) : Raw := match limit with
    | some n => raw.take n
    | none => raw
  let a := cut ((← comparedContents (o.has "s") first).drop skip)
  let b := cut ((← comparedContents (o.has "s") second).drop otherSkip)
  let differing := unequalBytes 1 a b
  let isShort : Bool := a.length ≠ b.length
  if differing.isEmpty ∧ ¬ isShort then exit 0
  if o.has "s" then exit 1
  let least := min a.length b.length
  let shorter := if a.length < b.length then first else second
  let sayEnd (what : Raw) : Job Unit := do
    flush
    complain ("EOF on ".toList ++ shorter ++
      if least = 0 then " which is empty".toList else " after byte ".toList ++ Raw.ofNat least ++ what)
  if o.has "l" then
    let width := (Raw.ofNat (max 1 (match limit with
      | some n => min n (max a.length b.length)
      | none => max a.length b.length))).length
    for (place, x, y) in differing do
      let sight (c : Char) : Raw := if o.has "b" then ' ' :: Raw.padEnd 4 ' ' (visible c) else []
      let last : Raw := if o.has "b" then ' ' :: visible y else []
      sayLine (Raw.padStart width ' ' (Raw.ofNat place) ++ [' '] ++ byteDigits x ++ sight x ++
        [' '] ++ byteDigits y ++ last)
    if isShort then sayEnd []
    exit 1
  match differing with
  | (place, x, y) :: _ =>
    let line := 1 + (a.take (place - 1)).count '\n'
    let what := if o.has "b" then "byte " else "char "
    let bytes : Raw :=
      if o.has "b" then
        " is ".toList ++ byteDigits x ++ [' '] ++ visible x ++ [' '] ++ byteDigits y ++ [' '] ++
          visible y
      else []
    sayLine (first ++ [' '] ++ second ++ " differ: ".toList ++ what.toList ++ Raw.ofNat place ++
      ", line ".toList ++ Raw.ofNat line ++ bytes)
  | [] =>
    let shared := a.take least
    let lines := shared.count '\n'
    let isInside : Bool := shared.getLast? ≠ some '\n'
    sayEnd (", ".toList ++ (if isInside then "in line " else "line ").toList ++
      Raw.ofNat (if isInside then lines + 1 else lines))
  exit 1

/-! ## Lines -/

/-- Lines that go and come at one place. -/
structure Hunk where
  spot : Alignment.Spot
  /-- Whether it does not count. -/
  isIgnored : Bool

/-- How differing lines are told. -/
inductive DiffStyle where
  | plain
  | unified
  | context
  | edits
  | counted
  /-- Both files beside each other. -/
  | beside
  deriving DecidableEq

/-- How files are compared line by line. -/
structure DiffPlan where
  style : DiffStyle
  /-- How many equal lines are shown around others. -/
  margin : Nat
  /-- What a line is as far as it counts. -/
  essence : Line → Raw × Bool
  ignoresBlank : Bool
  isBrief : Bool
  tellsSame : Bool
  isDeep : Bool
  /-- Whether what is not there counts as empty. -/
  fills : Bool
  isText : Bool
  labels : List Raw
  /-- Lines that do not count if all changed lines at a place are matched. -/
  ignored : List Regex
  /-- Names that are left out. -/
  excluded : List Raw
  /-- Whether lines begin with a tab after their mark. -/
  hasTabs : Bool
  /-- How wide two files are beside each other. -/
  width : Nat
  /-- Whether equal lines are left out, and whether they are shown once. -/
  hidesEqual : Bool
  showsOnce : Bool
  /-- The options as they are shown. -/
  shownOptions : Raw
  clock : Nat

/-- Numbers for elements, equal ones for equal elements. -/
def numberAll (known : List (Raw × Bool)) : List (Raw × Bool) → List Nat × List (Raw × Bool)
  | [] => ([], known)
  | e :: rest =>
    match known.findIdx? (· = e) with
    | some n =>
      let (numbers, known) := numberAll known rest
      (n :: numbers, known)
    | none =>
      let (numbers, all) := numberAll (known ++ [e]) rest
      (known.length :: numbers, all)

/-- How many elements at the start of two lists are equal. -/
def sharedStart : List Line → List Line → Nat
  | a :: as, b :: bs => if a.whole = b.whole then sharedStart as bs + 1 else 0
  | _, _ => 0

/-- The places at which two files differ. -/
def hunksOf (p : DiffPlan) (a b : List Line) : List Hunk :=
  let margin := if p.style = .unified ∨ p.style = .context then p.margin else 0
  let start := sharedStart a b
  let start := start - margin
  let restA := a.drop start
  let restB := b.drop start
  let finish := sharedStart restA.reverse restB.reverse - margin
  let midA := restA.take (restA.length - finish)
  let midB := restB.take (restB.length - finish)
  let (numbersA, known) := numberAll [] (midA.map p.essence)
  let (numbersB, _) := numberAll known (midB.map p.essence)
  let spots := (Alignment.ofSequences numbersA.toArray numbersB.toArray).spots
  spots.map fun s =>
    let gone := (midA.drop s.left).take s.gone
    let new := (midB.drop s.right).take s.new
    let isIgnored : Bool := (gone ++ new).all fun line =>
      (p.ignoresBlank && line.raw.isEmpty) ||
        p.ignored.any fun r => Regex.isIn (.ofLine false line.raw) r
    ⟨{ s with left := s.left + start, right := s.right + start }, isIgnored⟩

/-- A line after a mark. -/
def diffLine (mark : String) (line : Line) : Raw :=
  mark.toList ++ line.raw ++ ['\n'] ++
    if line.isEnded then [] else "\\ No newline at end of file\n".toList

/-- Numbers of lines from one on, as a range. -/
def plainRange (start count : Nat) : Raw :=
  if count ≤ 1 then Raw.ofNat (start + count)
  else Raw.ofNat (start + 1) ++ [','] ++ Raw.ofNat (start + count)

/-- The lines at a place that go or come. -/
def linesAt (lines : List Line) (start count : Nat) : List Line :=
  (lines.drop start).take count

/-- Differing lines in the plain style. -/
def plainHunk (hasTabs : Bool) (a b : List Line) (s : Alignment.Spot) : Raw :=
  let gap := if hasTabs then "\t" else " "
  let letter := if s.gone = 0 then 'a' else if s.new = 0 then 'd' else 'c'
  plainRange s.left s.gone ++ [letter] ++ plainRange s.right s.new ++ ['\n'] ++
    (linesAt a s.left s.gone).flatMap (diffLine ("<" ++ gap)) ++
    (if letter = 'c' then "---\n".toList else []) ++
    (linesAt b s.right s.new).flatMap (diffLine (">" ++ gap))

/-- Hunks that are shown together because few lines are between them. -/
def groupHunks (margin : Nat) : List Hunk → List (List Hunk)
  | [] => []
  | h :: rest =>
    match groupHunks margin rest with
    | [] => [[h]]
    | [] :: groups => [h] :: groups
    | (next :: more) :: groups =>
      let gap := next.spot.left - (h.spot.left + h.spot.gone)
      let most := if h.isIgnored ∨ next.isIgnored then margin else 2 * margin + 1
      if gap < most then (h :: next :: more) :: groups else [h] :: (next :: more) :: groups

/-- Where a group of hunks begins and ends in both files, with lines around. -/
def groupExtent (margin : Nat) (a b : List Line) (group : List Hunk) : Nat × Nat × Nat × Nat :=
  match group.head?, group.getLast? with
  | some first, some last =>
    let before := min margin first.spot.left
    let endA := last.spot.left + last.spot.gone
    let endB := last.spot.right + last.spot.new
    let after := min margin (min (a.length - endA) (b.length - endB))
    (first.spot.left - before, endA + after, first.spot.right - min before first.spot.right,
      endB + after)
  | _, _ => (0, 0, 0, 0)

/-- A group of hunks in the unified style. -/
def unifiedGroup (margin : Nat) (a b : List Line) (group : List Hunk) : Raw :=
  let (startA, endA, startB, endB) := groupExtent margin a b group
  let range (start finish : Nat) : Raw :=
    if finish = start + 1 then Raw.ofNat finish
    else if finish ≤ start then Raw.ofNat start ++ ",0".toList
    else Raw.ofNat (start + 1) ++ [','] ++ Raw.ofNat (finish - start)
  let body (state : Nat × Raw) (h : Hunk) : Nat × Raw :=
    let s := h.spot
    (s.left + s.gone, state.2 ++
      (linesAt a state.1 (s.left - state.1)).flatMap (diffLine " ") ++
      (linesAt a s.left s.gone).flatMap (diffLine "-") ++
      (linesAt b s.right s.new).flatMap (diffLine "+"))
  let (place, text) := group.foldl body (startA, [])
  "@@ -".toList ++ range startA endA ++ " +".toList ++ range startB endB ++ " @@\n".toList ++
    text ++ (linesAt a place (endA - place)).flatMap (diffLine " ")

/-- A group of hunks in the context style. -/
def contextGroup (margin : Nat) (a b : List Line) (group : List Hunk) : Raw :=
  let (startA, endA, startB, endB) := groupExtent margin a b group
  let range (start finish : Nat) : Raw :=
    if finish ≤ start + 1 then Raw.ofNat finish
    else Raw.ofNat (start + 1) ++ [','] ++ Raw.ofNat finish
  let side (lines : List Line) (start finish : Nat) (alone : String)
      (place count other : Hunk → Nat) : Raw :=
    let body (state : Nat × Raw) (h : Hunk) : Nat × Raw :=
      let mark := if other h = 0 then alone else "! "
      (place h + count h, state.2 ++
        (linesAt lines state.1 (place h - state.1)).flatMap (diffLine "  ") ++
        (linesAt lines (place h) (count h)).flatMap (diffLine mark))
    let (last, text) := group.foldl body (start, [])
    if group.all (count · = 0) then []
    else text ++ (linesAt lines last (finish - last)).flatMap (diffLine "  ")
  "***************\n*** ".toList ++ range startA endA ++ " ****\n".toList ++
    side a startA endA "- " (·.spot.left) (·.spot.gone) (·.spot.new) ++
    "--- ".toList ++ range startB endB ++ " ----\n".toList ++
    side b startB endB "+ " (·.spot.right) (·.spot.new) (·.spot.gone)

/-- Commands for an editor that change the first file into the second one. -/
def editHunk (b : List Line) (s : Alignment.Spot) : Raw :=
  let letter := if s.gone = 0 then 'a' else if s.new = 0 then 'd' else 'c'
  plainRange s.left s.gone ++ [letter, '\n'] ++
    if s.new = 0 then []
    else (linesAt b s.right s.new).flatMap (fun line => line.raw ++ ['\n']) ++ ".\n".toList

/-- Commands with counts of lines. -/
def countedHunk (b : List Line) (s : Alignment.Spot) : Raw :=
  (if s.gone = 0 then []
    else 'd' :: Raw.ofNat (s.left + 1) ++ [' '] ++ Raw.ofNat s.gone ++ ['\n']) ++
    if s.new = 0 then []
    else 'a' :: Raw.ofNat (s.left + s.gone) ++ [' '] ++ Raw.ofNat s.new ++ ['\n'] ++
      (linesAt b s.right s.new).flatMap Line.whole

/-- The half of a line for one of two files beside each other, from a column on, and the
column after it.  What does not fit is left out. -/
def halfLine (bound : Nat) : Nat → Nat → Raw → Raw × Nat
  | _, shown, [] => ([], shown)
  | place, shown, c :: rest =>
    if c = '\t' then
      let next := place + 8 - place % 8
      if place = shown ∧ next < bound then
        let (text, last) := halfLine bound next next rest
        ('\t' :: text, last)
      else halfLine bound next shown rest
    else if ¬ Quoting.isSeen c then
      let (text, last) := halfLine bound place shown rest
      (c :: text, last)
    else if place < bound then
      let (text, last) := halfLine bound (place + 1) (place + 1) rest
      (c :: text, last)
    else halfLine bound (place + 1) shown rest

/-- Blanks from a column to another one, tabs first. -/
def tabsTo : Nat → Nat → Nat → Raw
  | 0, _, _ => []
  | fuel + 1, start, finish =>
    if finish ≤ start then []
    else if start + 8 - start % 8 ≤ finish then
      '\t' :: tabsTo fuel (start + 8 - start % 8) finish
    else ' ' :: tabsTo fuel (start + 1) finish

/-- Two lines beside each other with a mark between them. -/
def besideLine (width : Nat) (left : Option Line) (mark : Char) (right : Option Line) : Raw :=
  let offset := (width + 11) / 16 * 8
  let half := min (offset - 3) (width - offset)
  let second := if half = 0 then width else offset
  let (start, column) := match left with
    | some line => halfLine half 0 0 line.raw
    | none => ([], 0)
  let endsLeft := left.any (·.isEnded)
  let endsRight := right.any (·.isEnded)
  let mark := if mark = '|' ∧ endsLeft ≠ endsRight then (if endsLeft then '/' else '\\') else mark
  let place := (half + second - 1) / 2
  let (middle, column) : Raw × Nat :=
    if mark = ' ' then ([], column)
    else (tabsTo 300 column place ++ [mark], max column place + 1)
  let finish : Raw := match right with
    | some line =>
      if line.raw.isEmpty ∧ line.isEnded then []
      else tabsTo 300 column second ++ (halfLine half 0 0 line.raw).1
    | none => []
  start ++ middle ++ finish ++ if endsLeft ∨ endsRight then ['\n'] else []

/-- Two files beside each other. -/
def besideText (p : DiffPlan) (a b : List Line) (hunks : List Hunk) : Raw :=
  let equal (left right : List Line) : Raw :=
    if p.hidesEqual then []
    else (left.zip right).flatMap fun (x, y) =>
      if p.showsOnce then besideLine p.width (some x) '(' none
      else besideLine p.width (some x) ' ' (some y)
  let body (state : Nat × Nat × Raw) (h : Hunk) : Nat × Nat × Raw :=
    let s := h.spot
    let gone := linesAt a s.left s.gone
    let new := linesAt b s.right s.new
    let both := min s.gone s.new
    (s.left + s.gone, s.right + s.new, state.2.2 ++
      equal (linesAt a state.1 (s.left - state.1)) (linesAt b state.2.1 (s.right - state.2.1)) ++
      ((gone.zip new).flatMap fun (x, y) => besideLine p.width (some x) '|' (some y)) ++
      ((new.drop both).flatMap fun y => besideLine p.width none '>' (some y)) ++
      ((gone.drop both).flatMap fun x => besideLine p.width (some x) '<' none))
  let (x, y, text) := hunks.foldl body (0, 0, [])
  text ++ equal (a.drop x) (b.drop y)

/-- The two lines in front of differing lines. -/
def diffHeader (p : DiffPlan) (first second : Raw) : Raw :=
  let stamp := formatTime (.ofSeconds (p.clock / 1000000000 : Nat) (p.clock % 1000000000)) 40
    "%F %T.%N %z".toList
  let epoch := "1970-01-01 00:00:00.000000000 +0000".toList
  let name (mark : String) (index : Nat) (path : Raw) : Raw :=
    mark.toList ++ [' '] ++
      (match p.labels[index]? with
        | some label => label
        | none => path ++ ['\t'] ++ if path = "/dev/null".toList then stamp else
          if path.isEmpty then epoch else stamp) ++ ['\n']
  if p.style = .unified then name "---" 0 first ++ name "+++" 1 second
  else name "***" 0 first ++ name "---" 1 second

/-- Tell how two texts differ; the answer is whether they do. -/
def tellDifference (p : DiffPlan) (first second : Raw) (a b : Raw) (heading : Raw) :
    Job Bool := do
  if a = b then
    if p.style = .beside then say (besideText p (linesOf a) (linesOf b) [])
    if p.tellsSame then
      sayLine ("Files ".toList ++ first ++ " and ".toList ++ second ++ " are identical".toList)
    return false
  let isBinary (raw : Raw) : Bool := !p.isText && (raw.take 32768).contains Raw.nul
  if isBinary a ∨ isBinary b then
    if p.isBrief then
      sayLine ("Files ".toList ++ first ++ " and ".toList ++ second ++ " differ".toList)
    else
      sayLine ("Binary files ".toList ++ first ++ " and ".toList ++ second ++ " differ".toList)
    return true
  let linesA := linesOf a
  let linesB := linesOf b
  let hunks := hunksOf p linesA linesB
  let counted := hunks.filter (!·.isIgnored)
  if counted.isEmpty then
    if p.style = .beside then say (besideText p linesA linesB hunks)
    if p.tellsSame then
      sayLine ("Files ".toList ++ first ++ " and ".toList ++ second ++ " are identical".toList)
    return false
  if p.isBrief then
    sayLine ("Files ".toList ++ first ++ " and ".toList ++ second ++ " differ".toList)
    return true
  say heading
  match p.style with
  | .plain => for h in counted do say (plainHunk p.hasTabs linesA linesB h.spot)
  | .edits => for h in counted.reverse do say (editHunk linesB h.spot)
  | .counted => for h in counted do say (countedHunk linesB h.spot)
  | .beside => say (besideText p linesA linesB hunks)
  | _ =>
    say (diffHeader p first second)
    for group in groupHunks p.margin hunks do
      if group.any (!·.isIgnored) then
        say (if p.style = .unified then unifiedGroup p.margin linesA linesB group
          else contextGroup p.margin linesA linesB group)
  return true

/-- What is compared at a path. -/
inductive Compared where
  | directory
  | text (raw : Raw)
  | missing (fault : HostFault)

/-- What there is to compare at a path. -/
def comparedAt (path : Raw) : Job Compared := do
  if path ≠ ['-'] ∧ (← node? path) = some .directory then return .directory
  match ← operand path with
  | .ok raw => return .text raw
  | .error fault => return .missing fault

/-- What something is called that cannot be compared with a directory. -/
def comparedKind (raw : Raw) : String :=
  if raw.isEmpty then "regular empty file" else "regular file"

/-- Compare the contents of two directories; the answer is a status. -/
def compareDirectories (p : DiffPlan) : Nat → Raw → Raw → Job Nat
  | 0, _, _ => return 0
  | fuel + 1, first, second => do
    let files := (← get).files
    let namesIn (path : Raw) : List String :=
      match files.follow (Raw.toString path) with
      | .ok place => files.children place
      | .error _ => []
    let inFirst := namesIn first
    let inSecond := namesIn second
    let all := ((inFirst ++ inSecond).eraseDups).mergeSort (· ≤ ·)
    let all := all.filter fun name =>
      !p.excluded.any fun pattern => fitsPattern pattern false (Raw.ofString name)
    let mut status := 0
    for name in all do
      let pathA := below first name
      let pathB := below second name
      let isA := inFirst.contains name
      let isB := inSecond.contains name
      let heading := "diff".toList ++ p.shownOptions ++ [' '] ++ shown pathA ++ [' '] ++
        shown pathB ++ ['\n']
      if ¬ (isA ∧ isB) ∧ ¬ p.fills then
        sayLine ("Only in ".toList ++ (if isA then first else second) ++ ": ".toList ++
          Raw.ofString name)
        status := max status 1
      else
        let a ← if isA then comparedAt pathA else pure (.text [])
        let b ← if isB then comparedAt pathB else pure (.text [])
        match a, b with
        | .directory, .directory =>
          if p.isDeep then status := max status (← compareDirectories p fuel pathA pathB)
          else
            sayLine ("Common subdirectories: ".toList ++ pathA ++ " and ".toList ++ pathB)
        | .text rawA, .text rawB =>
          if ← tellDifference p pathA pathB rawA rawB heading then status := max status 1
        | .directory, .text raw =>
          if isB then
            sayLine ("File ".toList ++ pathA ++ " is a directory while file ".toList ++ pathB ++
              " is a ".toList ++ (comparedKind raw).toList)
            status := max status 1
          else if p.isDeep then status := max status (← compareDirectories p fuel pathA pathB)
        | .text raw, .directory =>
          if isA then
            sayLine ("File ".toList ++ pathA ++ " is a ".toList ++ (comparedKind raw).toList ++
              " while file ".toList ++ pathB ++ " is a directory".toList)
            status := max status 1
          else if p.isDeep then status := max status (← compareDirectories p fuel pathA pathB)
        | .missing fault, _ =>
          flush
          complainOfCompared pathA fault
          status := 2
        | _, .missing fault =>
          flush
          complainOfCompared pathB fault
          status := 2
    return status

/-- Compare what is at two paths; the answer is a status. -/
def comparePaths (p : DiffPlan) (first second : Raw) : Job Nat := do
  let a ← comparedAt first
  let b ← if first = second then pure a else comparedAt second
  let lastOf (path : Raw) : Raw := nameInDirectory path
  let filled (c other : Compared) : Compared := match c with
    | .missing .missing =>
      if ¬ p.fills then c
      else
        match other with
        | .directory => .directory
        | .text _ => .text []
        | .missing _ => c
    | _ => c
  let a' := filled a b
  let b' := filled b a
  match a', b' with
  | .missing fault, .missing other =>
    complainOfCompared first fault
    complainOfCompared second other
    return 2
  | .missing fault, _ =>
    complainOfCompared first fault
    return 2
  | _, .missing fault =>
    complainOfCompared second fault
    return 2
  | .directory, .directory =>
    compareDirectories p ((← get).files.entries.length + 2) first second
  | .text raw, .text other =>
    return if ← tellDifference p first second raw other [] then 1 else 0
  | .directory, .text raw =>
    let path := inDirectory first (lastOf second)
    match ← comparedAt path with
    | .text other => return if ← tellDifference p path second other raw [] then 1 else 0
    | .missing fault =>
      complainOfCompared path fault
      return 2
    | .directory => return 1
  | .text raw, .directory =>
    let path := inDirectory second (lastOf first)
    match ← comparedAt path with
    | .text other => return if ← tellDifference p first path raw other [] then 1 else 0
    | .missing fault =>
      complainOfCompared path fault
      return 2
    | .directory => return 1

/-- Blanks of a text by what options say about them. -/
def squeezeBlanks : Raw → Raw
  | [] => []
  | c :: rest =>
    let more := squeezeBlanks rest
    if Raw.isSpace c then
      match more with
      | [] => []
      | ' ' :: _ => more
      | _ => ' ' :: more
    else c :: more

/-- What a line is as far as it counts, by options. -/
def essenceOf (o : Chosen) (line : Line) : Raw × Bool :=
  let text := line.raw
  let text := if o.has "strip-trailing-cr" then
      (if text.getLast? = some '\r' then text.dropLast else text)
    else text
  let text := if o.has "w" then text.filter (!Raw.isSpace ·)
    else if o.has "b" then squeezeBlanks text
    else if o.has "Z" then Raw.dropEnd Raw.isSpace text
    else text
  let text := if o.has "i" then text.map Char.toLower else text
  (text, line.isEnded || o.has "w" || o.has "b" || o.has "Z")

/-- The options that a program that compares lines knows. -/
def diffFlags : String :=
  "a,text b,ignore-space-change B,ignore-blank-lines c C,context? d,minimal e,ed " ++
    "E,ignore-tab-expansion i,ignore-case I,ignore-matching-lines: l,paginate L,label: " ++
    "n,rcs N,new-file normal p,show-c-function P q,brief r,recursive " ++
    "s,report-identical-files S,starting-file: t,expand-tabs T,initial-tab u U,unified? " ++
    "w,ignore-all-space W,width: x,exclude: X,exclude-from: y,side-by-side " ++
    "Z,ignore-trailing-space color? strip-trailing-cr suppress-common-lines left-column " ++
    "no-dereference speed-large-files tabsize: from-file: to-file:"

/-- Arguments in which a number after a letter is a word of its own. -/
def spellMargins : List Raw → List Raw
  | ['-', 'U'] :: value :: rest => ("-U".toList ++ value) :: spellMargins rest
  | ['-', 'C'] :: value :: rest => ("-C".toList ++ value) :: spellMargins rest
  | ['-', '-'] :: rest => ['-', '-'] :: rest
  | ('-' :: 'u' :: d :: more) :: rest =>
    (if d.isDigit then '-' :: 'U' :: d :: more else '-' :: 'u' :: d :: more) :: spellMargins rest
  | ('-' :: d :: more) :: rest =>
    if d.isDigit ∧ more.all Char.isDigit then spellMargins rest
    else ('-' :: d :: more) :: spellMargins rest
  | word :: rest => word :: spellMargins rest
  | [] => []

/-- Compare two files line by line, or two directories file by file. -/
def diff : Job Unit := do
  let call := (← get).call
  let arguments := spellMargins call.arguments
  let o ← match chosenOf diffFlags true arguments with
    | .error fault => giveUsageTwice fault.text
    | .ok o => pure o
  if o.has "help" ∨ o.has "version" then
    sayLine (if o.has "help" then "Usage: diff [OPTION]... FILES".toList
      else "diff (GNU diffutils) 3.10".toList)
    exit 0
  let styles := (o.options.filterMap fun (key, _) => match key with
    | "u" => some DiffStyle.unified
    | "U" => some .unified
    | "c" => some .context
    | "C" => some .context
    | "e" => some .edits
    | "n" => some .counted
    | "normal" => some .plain
    | "y" => some .beside
    | _ => none).eraseDups
  if 1 < styles.length then giveUsageTwice "conflicting output style options".toList
  let mut margin : Option Nat := none
  for (key, value) in o.options do
    if (key == "U" || key == "C") && !value.isEmpty then
      match Raw.toNat? value with
      | some n => margin := some (max n (margin.getD 0))
      | none => giveUsageTwice ("invalid context length '".toList ++ value ++ ['\''])
    else if key == "u" || key == "c" || key == "U" || key == "C" then
      margin := some (max 3 (margin.getD 0))
  let (first, second) ← match o.operands with
    | [] => missingComparison
    | [_] => missingComparison
    | [first, second] => pure (first, second)
    | _ :: _ :: extra :: _ => giveUsageTwice ("extra operand '".toList ++ extra ++ ['\''])
  let width ← match o.value? "W" with
    | none => pure 130
    | some text =>
      match Raw.toNat? text with
      | some (n + 1) => pure (n + 1)
      | _ => giveUsageTwice ("invalid width '".toList ++ text ++ ['\''])
  let mut ignored : List Regex := []
  for (key, text) in o.options do
    if key == "I" then
      match Regex.read Regex.Flavour.basicSearch text with
      | .ok r => ignored := ignored ++ [r]
      | .error fault => giveUp 2 (text ++ ": ".toList ++ fault.text.toList)
  let valuesOf (name : String) : List Raw :=
    o.options.filterMap fun (key, value) => if key == name then some value else none
  let optionWords := call.arguments.filter fun w => w.head? = some '-' ∧ w.length ≠ 1
  let plan : DiffPlan :=
    { style := styles.headD .plain
      margin := margin.getD 0
      essence := essenceOf o
      ignoresBlank := o.has "B"
      isBrief := o.has "q"
      tellsSame := o.has "s"
      isDeep := o.has "r"
      fills := o.has "N"
      isText := o.has "a"
      labels := valuesOf "L"
      ignored
      excluded := valuesOf "x"
      hasTabs := o.has "T"
      width
      hidesEqual := o.has "suppress-common-lines"
      showsOnce := o.has "left-column"
      shownOptions := optionWords.flatMap fun w => ' ' :: shown w
      clock := call.clock }
  exit (← comparePaths plan first second)

end Tool
end MakeTen
