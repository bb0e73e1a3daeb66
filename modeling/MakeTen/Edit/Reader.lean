import MakeTen.Edit.Command
import MakeTen.Regex.Reader
/-!
# Reading commands for editing

A script is a text of commands.  It may come in several pieces; a text that a
command of one piece asks for may go on in the next one.  A fault is told with
the piece and the number of characters that have been read of it, or with the
file and the line.

Main definitions:

- Structure `Edit.Piece`: a piece of a script, and where it comes from.
- Structure `Edit.BadScript`: a complaint about a script.
- Function `Edit.readScript`: the commands of some pieces.
-/

namespace MakeTen
namespace Edit

/-! ## Pieces -/

/-- Where a piece of a script comes from. -/
inductive Origin where
  /-- It is the piece of this number that was given. -/
  | given (n : Nat)
  | file (name : Raw)

/-- A piece of a script. -/
structure Piece where
  origin : Origin
  raw : Raw

/-- A complaint about a script, and the status that it leads to. -/
structure BadScript where
  text : Raw
  status : Nat

/-- How scripts are read. -/
structure Dialect where
  isExtended : Bool
  /-- Whether files and programs are out of bounds. -/
  isGuarded : Bool
  /-- Whether there may be lines inside of what is edited. -/
  hasLines : Bool

/-- Where reading has come to. -/
structure ReadState where
  dialect : Dialect
  origin : Origin
  rest : Raw
  /-- How many characters of the piece have been read. -/
  used : Nat
  line : Nat
  script : Script
  /-- The blocks that are open, each with the place of its start. -/
  blocks : List (Nat × Raw)
  /-- A text that goes on in the next piece. -/
  pending : Option Raw

/-- Steps of reading. -/
abbrev ReadStep := StateT ReadState (Except BadScript)

/-- A place in a piece. -/
def placeText (origin : Origin) (used line : Nat) : Raw :=
  match origin with
  | .given n =>
    "-e expression #".toList ++ Raw.ofNat n ++ ", char ".toList ++ Raw.ofNat used ++ ": ".toList
  | .file name =>
    "file ".toList ++ name ++ " line ".toList ++ Raw.ofNat line ++ ": ".toList

/-- Give up with a complaint about the place that has been reached. -/
def bad {α : Type} (text : Raw) : ReadStep α := do
  let s ← get
  throw ⟨placeText s.origin s.used s.line ++ text, 1⟩

/-- Give up with a complaint. -/
def badText {α : Type} (text : String) : ReadStep α :=
  bad text.toList

/-- Go past some characters. -/
def skip (n : Nat) : ReadStep Unit :=
  modify fun s => { s with
    rest := s.rest.drop n
    used := s.used + min n s.rest.length
    line := s.line + (s.rest.take n).count '\n' }

/-- Go past the next character and give it. -/
def takeChar : ReadStep (Option Char) := do
  let c := (← get).rest.head?
  skip 1
  return c

/-- The next character that is no blank. -/
def peekNonBlank : ReadStep (Option Char) := do
  skip ((← get).rest.takeWhile Raw.isBlank).length
  return (← get).rest.head?

/-- Go past characters as long as they are of some kind, and give them. -/
def takeChars (isTaken : Char → Bool) : ReadStep Raw := do
  let chars := (← get).rest.takeWhile isTaken
  skip chars.length
  return chars

/-! ## Escapes -/

/-- A number of some base with at most so many digits at the head of a text, as a
character, and how long it is. -/
def numbered? (base count : Nat) (isDigit : Char → Bool) (raw : Raw) : Option (Char × Nat) :=
  let digits := (raw.take count).takeWhile isDigit
  if digits.isEmpty then none
  else some (Char.ofNat (Raw.valueIn base digits % 256), digits.length)

/-- A character that an escape means, after its backslash, and the length of the
escape. -/
def escape? (raw : Raw) : Option (Char × Nat) :=
  let longer (found : Option (Char × Nat)) : Option (Char × Nat) :=
    found.map fun (c, n) => (c, n + 1)
  match raw with
  | 'a' :: _ => some (Char.ofNat 7, 1)
  | 'f' :: _ => some (Char.ofNat 12, 1)
  | 'n' :: _ => some ('\n', 1)
  | 'r' :: _ => some ('\r', 1)
  | 't' :: _ => some ('\t', 1)
  | 'v' :: _ => some (Char.ofNat 11, 1)
  | 'c' :: c :: _ => some (Char.ofNat (Nat.xor c.toUpper.toNat 64 % 256), 2)
  | 'd' :: rest => longer (numbered? 10 3 Char.isDigit rest)
  | 'o' :: rest => longer (numbered? 8 3 Raw.isOctal rest)
  | 'x' :: rest => longer (numbered? 16 2 Raw.isHexadecimal rest)
  | _ => none

/-- A pattern with its escapes for characters replaced; `skipped` characters belong to
an escape already seen. -/
def patternText (skipped : Nat) : Raw → Raw
  | [] => []
  | c :: rest =>
    match skipped with
    | n + 1 => patternText n rest
    | 0 =>
      if c = '\\' then
        match rest with
        | d :: more =>
          match (if d = 'n' then none else escape? (d :: more)) with
          | some (e, size) => e :: patternText size rest
          | none => '\\' :: d :: patternText 1 rest
        | [] => ['\\']
      else c :: patternText 0 rest

/-! ## Parts between marks -/

/-- Where a pattern is with regard to its sets. -/
inductive SetState where
  | outside
  /-- Right after the start of a set, or after the sign that negates it. -/
  | start (isFirst : Bool)
  | inside
  /-- After a bracket inside a set, which may start a class. -/
  | opened
  /-- In a class inside a set, up to a character. -/
  | named (mark : Char)
  /-- After the character that may end a class. -/
  | closing (mark : Char)

/-- The characters that name a class inside a set. -/
def isClassMark (c : Char) : Bool :=
  c == ':' || c == '.' || c == '='

/-- Where a pattern is after a character of a set. -/
def SetState.after (c : Char) : SetState → SetState
  | .outside => .outside
  | .start isFirst =>
    if isFirst ∧ c = '^' then .start false
    else if c = '[' then .opened
    else .inside
  | .inside => if c = ']' then .outside else if c = '[' then .opened else .inside
  | .opened =>
    if c = ']' then .outside
    else if c = '[' then .opened
    else if isClassMark c then .named c
    else .inside
  | .named mark => if c = mark then .closing mark else .named mark
  | .closing mark =>
    if c = ']' then .inside else if c = mark then .closing mark else .named mark

/-- What stands before a mark, with backslashes in front of it removed; the size of
it with the mark, and whether the mark is there. -/
def untilMark (mark : Char) (isPattern : Bool) : SetState → Raw → Raw × Nat × Bool
  | _, [] => ([], 0, false)
  | _, '\n' :: _ => ([], 0, false)
  | .outside, ['\\'] => if mark = '\\' then ([], 1, true) else ([], 1, false)
  | .outside, c :: rest =>
    if c = mark then ([], 1, true)
    else if c = '\\' then
      match rest with
      | [] => ([], 1, false)
      | d :: more =>
        let (body, size, isClosed) := untilMark mark isPattern .outside more
        let kept : Raw :=
          if isPattern ∧ d = 'n' then ['\n']
          else if d = '\n' then ['\n']
          else if d = mark ∧ ¬ (¬ isPattern ∧ d = '&') then [d]
          else ['\\', d]
        (kept ++ body, size + 2, isClosed)
    else
      let next : SetState := if isPattern ∧ c = '[' then .start true else .outside
      let (body, size, isClosed) := untilMark mark isPattern next rest
      (c :: body, size + 1, isClosed)
  | state, '\\' :: 'n' :: rest =>
    let (body, size, isClosed) := untilMark mark isPattern (state.after '\n') rest
    ('\n' :: body, size + 2, isClosed)
  | state, c :: rest =>
    let (body, size, isClosed) := untilMark mark isPattern (state.after c) rest
    (c :: body, size + 1, isClosed)
termination_by _ raw => raw.length
decreasing_by all_goals (simp +arith)

/-- Go past what stands before a mark, and give it. -/
def takeBody (mark : Char) (isPattern : Bool) (complaint : String) : ReadStep Raw := do
  let (body, size, isClosed) := untilMark mark isPattern .outside (← get).rest
  skip size
  if isClosed then return body else badText complaint

/-- The pattern that some text describes. -/
def makePattern (body : Raw) (foldsCase hasLines : Bool) : ReadStep Pattern := do
  if body.isEmpty then
    if foldsCase ∨ hasLines then badText "cannot specify modifiers on empty regexp"
    return ⟨none, false, false⟩
  let flavour := if (← get).dialect.isExtended then Regex.Flavour.extendedEdit
    else Regex.Flavour.basicEdit
  match Regex.read flavour (patternText 0 body) with
  | .ok regex => return ⟨some regex, foldsCase, hasLines && (← get).dialect.hasLines⟩
  | .error .classOutside => throw ⟨Regex.Fault.classOutside.text.toList, 4⟩
  | .error fault => badText fault.text

/-! ## Lines -/

/-- Go past a number that may have no digits. -/
def takeNumber : ReadStep Nat := do
  return Raw.valueIn 10 (← takeChars Char.isDigit)

/-- Go past the letters after a pattern that chooses lines: whether case is ignored,
and whether there are lines inside. -/
def takePatternFlags : Nat → Bool → Bool → ReadStep (Bool × Bool)
  | 0, foldsCase, hasLines => return (foldsCase, hasLines)
  | fuel + 1, foldsCase, hasLines => do
    match ← peekNonBlank with
    | some 'I' =>
      skip 1
      takePatternFlags fuel true hasLines
    | some 'M' =>
      skip 1
      takePatternFlags fuel foldsCase true
    | _ => return (foldsCase, hasLines)

/-- What a description of lines may be. -/
inductive Description where
  | spot (s : Spot)
  | later (n : Nat)
  | multiple (n : Nat)

/-- Go past a description of lines, if there is one. -/
def takeDescription : ReadStep (Option Description) := do
  let withPattern (mark : Char) : ReadStep (Option Description) := do
    let body ← takeBody mark true "unterminated address regex"
    let (foldsCase, hasLines) ← takePatternFlags (← get).rest.length false false
    return some (.spot (.pattern (← makePattern body foldsCase hasLines)))
  match ← peekNonBlank with
  | some '/' =>
    skip 1
    withPattern '/'
  | some '\\' =>
    skip 1
    match ← takeChar with
    | some mark => withPattern mark
    | none => badText "unterminated address regex"
  | some '$' =>
    skip 1
    return some (.spot .last)
  | some '+' =>
    skip 1
    let _ ← peekNonBlank
    return some (.later (← takeNumber))
  | some '~' =>
    skip 1
    let _ ← peekNonBlank
    return some (.multiple (← takeNumber))
  | some c =>
    if ¬ c.isDigit then return none
    let n ← takeNumber
    if (← peekNonBlank) ≠ some '~' then return some (.spot (.line n))
    skip 1
    let _ ← peekNonBlank
    let step ← takeNumber
    return some (.spot (if step = 0 then .line n else .every n step))
  | none => return none

/-- Go past the end of a range. -/
def takeRangeEnd : ReadStep RangeEnd := do
  let _ ← peekNonBlank
  match ← takeDescription with
  | some (.spot s) => return .spot s
  | some (.later n) => return .later n
  | some (.multiple 0) => return .spot (.line 0)
  | some (.multiple n) => return .multiple n
  | none =>
    skip 1
    badText "unexpected \x60,'"

/-- Go past the lines that a command is for. -/
def takeLines : ReadStep Lines := do
  let first ← match ← takeDescription with
    | some (.spot s) => pure (some s)
    | some _ => badText "invalid usage of +N or ~N as first address"
    | none => pure none
  let last ← if first.isSome ∧ (← peekNonBlank) = some ',' then
      skip 1
      pure (some (← takeRangeEnd))
    else pure none
  let next ← peekNonBlank
  let endsAtPattern : Bool := match last with
    | some (.spot (.pattern _)) => true
    | _ => false
  match first with
  | some (.line 0) =>
    if ¬ endsAtPattern then
      skip 1
      badText "invalid usage of line address 0"
  | _ => pure ()
  if next = some '!' then
    skip 1
    if (← peekNonBlank) = some '!' then
      skip 1
      badText "multiple \x60!'s"
    return ⟨first, last, true⟩
  else return ⟨first, last, false⟩

/-! ## Texts and names -/

/-- What has been read of a text: the text, its size, and whether the piece has ended
in the middle of it. -/
structure TextReading where
  text : Raw
  size : Nat
  isOpen : Bool

/-- The text at the head of a piece up to the end of its last line; `skipped`
characters belong to an escape already seen. -/
def readText (skipped : Nat) : Raw → TextReading
  | [] => ⟨['\n'], 0, false⟩
  | c :: rest =>
    let add (text : Raw) (r : TextReading) : TextReading :=
      { r with text := text ++ r.text, size := r.size + 1 }
    match skipped with
    | n + 1 => add [] (readText n rest)
    | 0 =>
      if c = '\n' then ⟨['\n'], 1, false⟩
      else if c = '\\' then
        match rest with
        | [] => ⟨[], 1, true⟩
        | d :: _ =>
          match escape? rest with
          | some (e, size) => add [e] (readText size rest)
          | none => add [d] (readText 1 rest)
      else add [c] (readText 0 rest)

/-- Go past a text; `before` has been read of it already. -/
def takeText (before : Raw) : ReadStep Raw := do
  let r := readText 0 (← get).rest
  skip r.size
  if r.isOpen then
    let text := before ++ r.text
    let kept := if text.isEmpty then text else text ++ ['\n']
    modify fun s => { s with pending := some kept }
    return kept
  else return before ++ r.text

/-- Go past the text of a command. -/
def takeCommandText : ReadStep Raw := do
  match ← peekNonBlank with
  | none => badText "expected \\ after \x60a', \x60c' or \x60i'"
  | some '\\' =>
    skip 1
    match (← get).rest with
    | [] =>
      modify fun s => { s with pending := some [] }
      return []
    | '\n' :: _ =>
      skip 1
      takeText []
    | '\\' :: _ => takeText []
    | c :: _ =>
      skip 1
      takeText [c]
  | some _ => takeText []

/-- Go past a label. -/
def takeLabel : ReadStep Raw := do
  let _ ← peekNonBlank
  takeChars fun c => !Raw.isSpace c && c != ';' && c != '\x7d'

/-- Go past the name of a file. -/
def takeFileName : ReadStep Raw := do
  if (← get).dialect.isGuarded then badText "e/r/w commands disabled in sandbox mode"
  let _ ← peekNonBlank
  let name ← takeChars (· != '\n')
  if name.isEmpty then badText "missing filename in r/R/w/W commands"
  skip 1
  return name

/-- Go past the end of a command. -/
def takeEnd : ReadStep Unit := do
  match ← peekNonBlank with
  | none => pure ()
  | some '\x7d' => pure ()
  | some '#' => pure ()
  | some c =>
    skip 1
    if c ≠ '\n' ∧ c ≠ ';' then badText "extra characters after command"

/-! ## Replacements -/

/-- The parts of what is put in place of a match; `skipped` characters belong to an
escape already seen. -/
def readParts (skipped : Nat) : Raw → List Part
  | [] => []
  | c :: rest =>
    match skipped with
    | n + 1 => readParts n rest
    | 0 =>
      let text (raw : Raw) (size : Nat) : List Part := .text raw :: readParts size rest
      if c = '&' then .group 0 :: readParts 0 rest
      else if c = '\\' then
        match rest with
        | [] => [.text ['\\']]
        | d :: _ =>
          if d.isDigit then .group (Raw.digitValue d) :: readParts 1 rest
          else
            match d with
            | 'U' => .casing (some .upper) :: readParts 1 rest
            | 'L' => .casing (some .lower) :: readParts 1 rest
            | 'E' => .casing none :: readParts 1 rest
            | 'u' => .nextCasing .upper :: readParts 1 rest
            | 'l' => .nextCasing .lower :: readParts 1 rest
            | _ =>
              match escape? rest with
              | some (e, size) => text [e] size
              | none => text [d] 1
      else text [c] 0

/-- Parts with texts that follow each other put together, as characters. -/
def joinParts : List Part → List Part
  | .text a :: rest =>
    match joinParts rest with
    | .text b :: more => .text (a ++ b) :: more
    | more => .text a :: more
  | part :: rest => part :: joinParts rest
  | [] => []

/-- The letters after a replacement. -/
structure SubstitutionFlags where
  foldsCase : Bool
  hasLines : Bool
  evaluates : Bool
  prints : Bool
  /-- Whether writing comes before evaluating. -/
  printsFirst : Bool
  isGlobal : Bool
  number : Option Nat
  output : Option Raw

/-- Go past the letters after a replacement. -/
def takeSubstitutionFlags : Nat → SubstitutionFlags → ReadStep SubstitutionFlags
  | 0, f => return f
  | fuel + 1, f => do
    match (← get).rest with
    | [] => return f
    | c :: _ =>
      let goOn (f : SubstitutionFlags) : ReadStep SubstitutionFlags := do
        skip 1
        takeSubstitutionFlags fuel f
      if c.isDigit then
        if f.number.isSome then
          skip 1
          badText "multiple number options to \x60s' command"
        let n ← takeNumber
        if n = 0 then badText "number option to \x60s' command may not be zero"
        takeSubstitutionFlags fuel { f with number := some n }
      else
        match c with
        | '\x7d' => return f
        | '#' => return f
        | '\n' =>
          skip 1
          return f
        | ';' =>
          skip 1
          return f
        | 'i' => goOn { f with foldsCase := true }
        | 'I' => goOn { f with foldsCase := true }
        | 'm' => goOn { f with hasLines := true }
        | 'M' => goOn { f with hasLines := true }
        | 'e' => goOn { f with evaluates := true }
        | 'p' =>
          if f.prints then
            skip 1
            badText "multiple \x60p' options to \x60s' command"
          goOn { f with prints := true, printsFirst := !f.evaluates }
        | 'g' =>
          if f.isGlobal then
            skip 1
            badText "multiple \x60g' options to \x60s' command"
          goOn { f with isGlobal := true }
        | 'w' =>
          skip 1
          return { f with output := some (← takeFileName) }
        | '\r' =>
          skip 1
          if (← get).rest.head? = some '\n' then
            skip 1
            return f
          else badText "unknown option to \x60s'"
        | c =>
          if Raw.isBlank c then goOn f
          else
            skip 1
            badText "unknown option to \x60s'"

/-- Go past the rest of a substitution. -/
def takeSubstitution : ReadStep Substitution := do
  let complaint := "unterminated \x60s' command"
  match (← get).rest with
  | [] => badText complaint
  | mark :: _ =>
    skip 1
    let body ← takeBody mark true complaint
    let replacement ← takeBody mark false complaint
    let f ← takeSubstitutionFlags ((← get).rest.length + 1)
      ⟨false, false, false, false, false, false, none, none⟩
    let parts := joinParts (readParts 0 replacement)
    let pattern ← makePattern body f.foldsCase f.hasLines
    let n := greatestGroup parts
    match pattern.regex with
    | some regex =>
      if regex.groupCount < n then
        bad ("invalid reference \\".toList ++ Raw.ofNat n ++ " on \x60s' command's RHS".toList)
    | none => pure ()
    if f.evaluates ∧ (← get).dialect.isGuarded then
      badText "e/r/w commands disabled in sandbox mode"
    return { pattern, parts, first := f.number.getD 1, isGlobal := f.isGlobal, prints := f.prints,
             printsFirst := f.printsFirst, evaluates := f.evaluates, output := f.output }

/-- Characters that are exchanged, with their escapes read; `skipped` characters belong
to an escape already seen. -/
def readLetters (skipped : Nat) : Raw → Raw
  | [] => []
  | c :: rest =>
    match skipped with
    | n + 1 => readLetters n rest
    | 0 =>
      if c = '\\' then
        match rest with
        | [] => ['\\']
        | d :: _ =>
          match escape? rest with
          | some (e, size) => e :: readLetters size rest
          | none => d :: readLetters 1 rest
      else c :: readLetters 0 rest

/-- Go past the rest of an exchange of letters. -/
def takeExchange : ReadStep (List (Char × Char)) := do
  let complaint := "unterminated \x60y' command"
  match (← get).rest with
  | [] => badText complaint
  | mark :: _ =>
    skip 1
    let source ← takeBody mark false complaint
    let target ← takeBody mark false complaint
    let (source, target) := (readLetters 0 source, readLetters 0 target)
    if source.length ≠ target.length then
      badText "strings for \x60y' command are different lengths"
    takeEnd
    return source.zip target

/-! ## Commands -/

/-- Go past a number that a command may have. -/
def takeOptionalNumber : ReadStep (Option Nat) := do
  match ← peekNonBlank with
  | some c => if c.isDigit then return some (← takeNumber) else return none
  | none => return none

/-- Add a command. -/
def addCommand (lines : Lines) (action : Action) : ReadStep Unit :=
  modify fun s => { s with
    script := { s.script with commands := s.script.commands.push ⟨lines, action⟩ } }

/-- Commands that have a letter and nothing else. -/
def plainAction? (c : Char) : Option Action :=
  match c with
  | '=' => some .number
  | 'd' => some .delete
  | 'D' => some .deleteFirst
  | 'F' => some .fileName
  | 'g' => some .fetch
  | 'G' => some .fetchAppended
  | 'h' => some .keep
  | 'H' => some .keepAppended
  | 'n' => some .next
  | 'N' => some .nextAppended
  | 'p' => some .print
  | 'P' => some .printFirst
  | 'x' => some .exchange
  | 'z' => some .clear
  | _ => none

/-- Close the innermost block. -/
def closeBlock (lines : Lines) : ReadStep Unit := do
  match (← get).blocks with
  | [] => badText "unexpected \x60\x7d'"
  | (start, _) :: blocks =>
    if lines.first.isSome then badText "\x60\x7d' doesn't want any addresses"
    takeEnd
    addCommand ⟨none, none, false⟩ .nothing
    modify fun s =>
      let commands := s.script.commands.modify start fun c =>
        { c with action := .block s.script.commands.size }
      { s with blocks, script := { s.script with commands } }

/-- Go past a comment; at the start of a script one may ask that lines are not written
by themselves. -/
def takeComment : ReadStep Unit := do
  let s ← get
  let isFirst : Bool := s.used == 1 && s.script.commands.isEmpty && match s.origin with
    | .given n => n == 1
    | .file _ => true
  let comment ← takeChars (· != '\n')
  if isFirst ∧ comment.head? = some 'n' then
    modify fun t => { t with script := { t.script with isSilent := true } }

/-- Go past a command after its lines; `c` is its letter. -/
def takeAction (lines : Lines) (c : Char) : ReadStep Unit := do
  let jump (kind : JumpKind) : ReadStep Unit := do
    addCommand lines (.jump kind (← takeLabel))
  let quit (prints : Bool) : ReadStep Unit := do
    if lines.last.isSome then badText "command only uses one address"
    let n ← takeOptionalNumber
    takeEnd
    addCommand lines (.quit (n.getD 0) prints)
  let text (action : Raw → Action) : ReadStep Unit := do
    addCommand lines (action (← takeCommandText))
  match c with
  | '#' =>
    if lines.first.isSome then badText "comments don't accept any addresses"
    takeComment
  | '\x7b' =>
    let s ← get
    let place := placeText s.origin 0 s.line
    set { s with blocks := (s.script.commands.size, place) :: s.blocks }
    addCommand lines (.block 0)
  | '\x7d' => closeBlock lines
  | ':' =>
    if lines.first.isSome then badText ": doesn't want any addresses"
    let label ← takeLabel
    if label.isEmpty then badText "\":\" lacks a label"
    modify fun s => { s with
      script := { s.script with
        labels := (label, s.script.commands.size) :: s.script.labels } }
  | 'a' => text .append
  | 'i' => text .insert
  | 'c' => text .change
  | 'b' => jump .always
  | 't' => jump .ifReplaced
  | 'T' => jump .unlessReplaced
  | 'l' =>
    let n ← takeOptionalNumber
    takeEnd
    addCommand lines (.list n)
  | 'q' => quit true
  | 'Q' => quit false
  | 'r' => addCommand lines (.readFile (← takeFileName))
  | 'R' => addCommand lines (.readLine (← takeFileName))
  | 'w' => addCommand lines (.writeFile (← takeFileName))
  | 'W' => addCommand lines (.writeFirst (← takeFileName))
  | 's' => addCommand lines (.substitute (← takeSubstitution))
  | 'y' => addCommand lines (.exchangeLetters (← takeExchange))
  | 'e' =>
    if (← get).dialect.isGuarded then badText "e/r/w commands disabled in sandbox mode"
    let _ ← peekNonBlank
    let command ← takeChars (· != '\n')
    skip 1
    addCommand lines (.execute command)
  | 'v' =>
    let version ← takeLabel
    let isNewer : Bool := match (Raw.splitOn '.' version).map (Raw.valueIn 10) with
      | major :: minor :: _ => 4 < major || (major == 4 && 9 < minor)
      | [major] => 4 < major
      | [] => false
    if isNewer then badText "expected newer version of sed"
  | c =>
    match plainAction? c with
    | some action =>
      takeEnd
      addCommand lines action
    | none => bad ("unknown command: \x60".toList ++ [c, '\''])

/-- Go past all commands of a piece. -/
def takeCommands : Nat → ReadStep Unit
  | 0 => return ()
  | fuel + 1 => do
    let _ ← takeChars fun c => Raw.isSpace c || c == ';'
    if (← get).rest.isEmpty then return ()
    let lines ← takeLines
    match ← takeChar with
    | none => badText "missing command"
    | some c =>
      takeAction lines c
      takeCommands fuel

/-- Put another text into the last command. -/
def Script.setText (s : Script) (text : Raw) : Script :=
  let commands := s.commands.modify (s.commands.size - 1) fun c =>
    { c with action := match c.action with
        | .append _ => .append text
        | .insert _ => .insert text
        | .change _ => .change text
        | action => action }
  { s with commands }

/-- Read a piece. -/
def takePiece (piece : Piece) : ReadStep Unit := do
  modify fun s => { s with origin := piece.origin, rest := piece.raw, used := 0, line := 1 }
  match (← get).pending with
  | some before =>
    modify fun s => { s with pending := none }
    let text ← takeText before
    modify fun s => { s with script := s.script.setText text }
  | none => pure ()
  takeCommands (piece.raw.length + 1)

/-- Read all pieces. -/
def takePieces : List Piece → ReadStep Unit
  | [] => return ()
  | piece :: rest => do
    takePiece piece
    takePieces rest

/-- The commands of some pieces, or what is wrong with them. -/
def readScript (dialect : Dialect) (pieces : List Piece) : Except BadScript Script := do
  let start : ReadState := ⟨dialect, .given 1, [], 0, 1, .empty, [], none⟩
  let (_, s) ← (takePieces pieces).run start
  match s.blocks with
  | (_, place) :: _ => throw ⟨place ++ "unmatched \x60\x7b'".toList, 1⟩
  | [] => pure ()
  let missing := s.script.commands.toList.filterMap fun c => match c.action with
    | .jump _ label =>
      if label.isEmpty ∨ s.script.labels.any (·.1 = label) then none else some label
    | _ => none
  match missing with
  | label :: _ => throw ⟨"can't find label for jump to \x60".toList ++ label ++ ['\''], 4⟩
  | [] => return s.script

end Edit
end MakeTen
