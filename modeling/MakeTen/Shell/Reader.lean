import MakeTen.Shell.Command
/-!
# Reading scripts

A script is read one line of commands at a time, since a line is carried out
before the next one is looked at.  Words that open and close compound commands
count as such only where a command may start.

Every reader takes the rest of the script and gives back what it leaves of it.
A call takes at least one character or follows one that does, which bounds the
fuel by the length of the script.

Two things change the script while it is being read.  A text that stands in the
script after the line that asks for it is taken out, and a mark for each of its
lines is left where it was.  A command that is an alias is replaced by what it
stands for, and a mark is left where that ends, so that the alias is not
replaced within itself.  Marks are characters that no script has.

Main definitions:

- Type `Shell.Aliases`: the aliases that a script may use.
- Function `Shell.readLine`: the commands of the next line.
-/

namespace MakeTen
namespace Shell

/-- What is wrong with a script, and what is left of it there. -/
structure Fault where
  message : String
  rest : Raw
  /-- Whether it is the word at the head of what is left, which is read to its end
  before anything is said about it. -/
  isWord : Bool

/-- Aliases and what they stand for. -/
abbrev Aliases := List (String × Raw)

/-! ## Marks -/

/-- The mark for a line that has been taken out. -/
def lineMark : Char := Char.ofNat 0x100

/-- The mark for a word that means nothing more than any other. -/
def wordMark : Char := Char.ofNat 0x101

/-- The mark for the end of what the alias of some number stands for. -/
def aliasMark (number : Nat) : Char := Char.ofNat (0x200 + number)

/-- Whether a character is a mark. -/
def isMark (c : Char) : Bool :=
  0x100 ≤ c.toNat

/-- How many lines of a script end, those included that have been taken out. -/
def lineEnds (raw : Raw) : Nat :=
  raw.foldl (fun n c => if c = '\n' ∨ c = lineMark then n + 1 else n) 0

/-! ## Characters -/

/-- Characters that end a word. -/
def endsWord (c : Char) : Bool :=
  c == ' ' || c == '\t' || c == '\n' || c == ';' || c == '&' || c == '|' || c == '<' ||
    c == '>' || c == '(' || c == ')'

/-- Characters that quote others or start a part of another kind. -/
def startsPart (c : Char) : Bool :=
  c == '\'' || c == '"' || c == '\\' || c == '$' || c == '\x60'

/-- Characters that a word without quotes and parameters does not have. -/
def isSpecial (c : Char) : Bool :=
  endsWord c || startsPart c || isMark c

/-- Parameters named by a single character that is no letter. -/
def isSpecialParameter (c : Char) : Bool :=
  c == '@' || c == '*' || c == '#' || c == '?' || c == '-' || c == '$' || c == '!'

/-- A script without continued line ends at its head. -/
def dropJoins : Raw → Raw
  | '\\' :: '\n' :: rest => dropJoins rest
  | raw => raw

/-- A script without blanks, marks, comments and continued line ends at its
head. -/
def skipBlanks : Raw → Raw
  | [] => []
  | c :: rest =>
    if c = ' ' ∨ c = '\t' ∨ isMark c ∧ c ≠ wordMark then skipBlanks rest
    else if c = '#' then rest.dropWhile (· ≠ '\n')
    else if c = '\\' then
      match rest with
      | '\n' :: more => skipBlanks more
      | _ => c :: rest
    else c :: rest

/-- A script without blanks, comments and at most `fuel` line ends at its head. -/
def skipLines : Nat → Raw → Raw
  | 0, raw => raw
  | fuel + 1, raw =>
    match skipBlanks raw with
    | '\n' :: rest => skipLines fuel rest
    | raw => raw

/-- How a fault names the head of a script. -/
def nameHead (raw : Raw) : String :=
  match raw with
  | [] => "end of file"
  | '\n' :: _ => "newline"
  | '&' :: '&' :: _ => "\"&&\""
  | '|' :: '|' :: _ => "\"||\""
  | ';' :: ';' :: _ => "\";;\""
  | '<' :: _ => "redirection"
  | '>' :: _ => "redirection"
  | c :: rest =>
    if endsWord c then String.ofList ['"', c, '"']
    else if c.isDigit ∧ (rest.head? = some '<' ∨ rest.head? = some '>') then "redirection"
    else "word"

/-- A script after a line end at its head, which counts as read where it is at
fault. -/
def afterLineEnd (raw : Raw) : Raw :=
  match raw with
  | '\n' :: rest => rest
  | raw => raw

/-- The fault of a script whose head may not stand where it does. -/
def unexpected (raw : Raw) (name : String) (wanted : String) : Fault :=
  let hint := if wanted = "" then "" else " (expecting \"" ++ wanted ++ "\")"
  ⟨"Syntax error: " ++ name ++ " unexpected" ++ hint, afterLineEnd raw, name == "word"⟩

/-- The fault of a script whose head should have been a word. -/
def missingWord (raw : Raw) : Fault :=
  ⟨"Syntax error: " ++ nameHead raw ++ " unexpected (expecting word)", afterLineEnd raw, false⟩

/-- The plain word at the head of a script, if it is one without quotes. -/
def plainWord (raw : Raw) : String :=
  let word := raw.takeWhile (fun c => !isSpecial c)
  match dropJoins (raw.drop word.length) with
  | [] => String.ofList word
  | c :: _ => if endsWord c ∨ isMark c then String.ofList word else ""

/-- Words that mean something where a command may start. -/
def reserved : List String :=
  ["if", "then", "else", "elif", "fi", "do", "done", "case", "esac", "while", "until", "for",
    "in", "\x7b", "\x7d", "!"]

/-- How a fault names the head of a script where a command or its closing word
may stand. -/
def nameToken (raw : Raw) : String :=
  let word := plainWord raw
  if reserved.contains word then "\"" ++ word ++ "\"" else nameHead raw

/-- Words and marks that end a sequence inside another command. -/
def closing : List String :=
  ["then", "else", "elif", "fi", "do", "done", "esac", "\x7d"]

/-- Whether the head of a script ends a sequence inside another command. -/
def isClosing (raw : Raw) : Bool :=
  match raw with
  | [] => true
  | ')' :: _ => true
  | ';' :: ';' :: _ => true
  | raw => closing.contains (plainWord raw)

/-- A script whose head, if it is a reserved word, is marked as one like any other. -/
def markWord (raw : Raw) : Raw :=
  let start := skipBlanks raw
  if reserved.contains (plainWord start) then wordMark :: start else raw

/-- A script whose head is not marked. -/
def unmarkWord (raw : Raw) : Raw :=
  match raw with
  | [] => []
  | c :: rest => if c = wordMark then rest else c :: rest

/-- A script without a plain word at its head. -/
def dropWord (word : String) (raw : Raw) : Raw :=
  raw.drop word.length

/-- A script after the word that has to be at its head. -/
def expectWord (word : String) (raw : Raw) : Except Fault Raw :=
  let raw := skipBlanks raw
  if plainWord raw = word then .ok (dropWord word raw)
  else .error (unexpected raw (nameToken raw) word)

/-! ## Aliases -/

/-- A script whose head is replaced by what it stands for, as long as it is an
alias that is not being replaced already. -/
def expandAliases (aliases : Aliases) : Nat → Raw → Raw
  | 0, raw => raw
  | fuel + 1, raw =>
    let raw := skipBlanks raw
    let word := plainWord raw
    match aliases.findIdx? (fun a => a.1 = word && word ≠ "") with
    | none => raw
    | some n =>
      let rest := dropWord word raw
      if reserved.contains word ∨ rest.contains (aliasMark n) then raw
      else
        let value := ((aliases[n]?).map Prod.snd).getD []
        expandAliases aliases fuel (value ++ aliasMark n :: rest)

/-- A script with aliases at its head replaced. -/
def unalias (aliases : Aliases) (raw : Raw) : Raw :=
  if aliases.isEmpty then skipBlanks raw else expandAliases aliases (aliases.length + 1) raw

/-- Whether blanks at the head of a script end the text of an alias that asks for
the next word to be looked up as well. -/
def leavesAlias (aliases : Aliases) (raw : Raw) : Bool :=
  (raw.takeWhile fun c => isMark c || Raw.isBlank c).any fun c =>
    match aliases[c.toNat - 0x200]? with
    | some (_, value) => c ≠ lineMark && isMark c && value.getLast?.any Raw.isBlank
    | none => false

/-! ## Words -/

/-- Where the parts of a word end. -/
inductive Close where
  | word
  | quote
  | brace
  /-- At the end of the script. -/
  | never
  /-- At two closing parentheses, when that many are open. -/
  | parentheses (depth : Nat)
  deriving DecidableEq

/-- Whether the parts of a word end at a script's head. -/
def Close.isAt (close : Close) (c : Char) (rest : Raw) : Bool :=
  match close with
  | .word => endsWord c
  | .quote => c == '"'
  | .brace => c == '\x7d'
  | .never => false
  | .parentheses depth => c == ')' && depth == 0 && rest.head? == some ')'

/-- Characters that a run of plain text does not have. -/
def Close.stops (close : Close) (c : Char) : Bool :=
  startsPart c || isMark c ||
    match close with
    | .word => endsWord c
    | .quote => false
    | .brace => c == '\x7d'
    | .never => false
    | .parentheses _ => c == '(' || c == ')'

/-- How many parentheses are open after a character. -/
def Close.after (close : Close) (c : Char) : Close :=
  match close with
  | .parentheses depth =>
    if c = '(' then .parentheses (depth + 1)
    else if c = ')' then .parentheses (depth - 1)
    else close
  | _ => close

/-- What quotes and backslashes mean. -/
inductive Setting where
  /-- Both kinds of quotes are quotes, and a backslash quotes anything. -/
  | bare
  /-- Inside double quotes; the flags say whether braces are open within, and
  whether all of it is in a text that follows a line. -/
  | double (inBrace inText : Bool)
  /-- Quotes are plain characters. -/
  | literal (inText : Bool)
  deriving DecidableEq

/-- Whether what is read is quoted. -/
def Setting.isQuoted : Setting → Bool
  | .bare => false
  | _ => true

/-- Whether what is read is in a text that follows a line. -/
def Setting.inText : Setting → Bool
  | .bare => false
  | .double _ inText => inText
  | .literal inText => inText

/-- The setting inside the braces of a parameter. -/
def Setting.inner (setting : Setting) : Setting :=
  match setting with
  | .bare => .bare
  | setting => .double true setting.inText

/-- Whether a backslash quotes a character. -/
def Setting.protects (setting : Setting) (c : Char) : Bool :=
  match setting with
  | .bare => true
  | .double inBrace _ =>
    c == '$' || c == '\x60' || c == '\\' || c == '"' || (inBrace && c == '\x7d')
  | .literal _ => c == '$' || c == '\x60' || c == '\\'

/-- The fault of a script that ends inside a word. -/
def Close.unclosed (close : Close) (setting : Setting) : Except Fault Unit :=
  match close with
  | .word => .ok ()
  | .never => .ok ()
  | .parentheses _ => .error ⟨"Syntax error: Missing '))'", [], false⟩
  | _ =>
    if setting.isQuoted ∧ ¬ setting.inText then
      .error ⟨"Syntax error: Unterminated quoted string", [], false⟩
    else .error ⟨"Syntax error: Missing '\x7d'", [], false⟩

/-- The text inside back quotes, with the backslashes that protect it removed,
and what follows the closing one.  Inside double quotes a backslash protects
those as well. -/
def readBackquoted (inDouble : Bool) : Raw → Option (Raw × Raw)
  | [] => none
  | '\x60' :: rest => some ([], rest)
  | '\\' :: '\n' :: rest => readBackquoted inDouble rest
  | '\\' :: c :: rest =>
    (readBackquoted inDouble rest).map fun (text, rest) =>
      if c = '\x60' ∨ c = '\\' ∨ c = '$' ∨ (inDouble ∧ c = '"') then (c :: text, rest)
      else ('\\' :: c :: text, rest)
  | c :: rest =>
    (readBackquoted inDouble rest).map fun (text, rest) => (c :: text, rest)

/-- The user whose home directory a word starts with, and what follows; in the
value of an assignment a colon ends the name as well. -/
def readHome (inValue : Bool) (raw : Raw) : Option (Raw × Raw) :=
  match raw with
  | '~' :: rest =>
    let ends (c : Char) : Bool := c == '/' || endsWord c || c == '\x7d' || (inValue && c == ':')
    let user := rest.takeWhile fun c => !ends c && !startsPart c && !isMark c
    match rest.drop user.length with
    | [] => some (user, [])
    | c :: more => if ends c then some (user, c :: more) else none
  | _ => none

/-- The part that a parameter use starts with, and what the use is of. -/
def readUseMark (raw : Raw) : Option ((List Part → ParameterUse) × Raw) :=
  match raw with
  | ':' :: '-' :: rest => some (.orElse true, rest)
  | ':' :: '=' :: rest => some (.orAssign true, rest)
  | ':' :: '?' :: rest => some (.orFail true, rest)
  | ':' :: '+' :: rest => some (.instead true, rest)
  | '-' :: rest => some (.orElse false, rest)
  | '=' :: rest => some (.orAssign false, rest)
  | '?' :: rest => some (.orFail false, rest)
  | '+' :: rest => some (.instead false, rest)
  | '%' :: '%' :: rest => some (.without .longTail, rest)
  | '%' :: rest => some (.without .shortTail, rest)
  | '#' :: '#' :: rest => some (.without .longHead, rest)
  | '#' :: rest => some (.without .shortHead, rest)
  | _ => none

/-- The name of a parameter at the head of a script. -/
def readParameterName (raw : Raw) : Option (String × Raw) :=
  match raw with
  | c :: rest =>
    if Raw.startsName c then
      some (String.ofList (raw.takeWhile Raw.inName), raw.dropWhile Raw.inName)
    else if c.isDigit then
      some (String.ofList (raw.takeWhile Char.isDigit), raw.dropWhile Char.isDigit)
    else if isSpecialParameter c then some (String.ofList [c], rest)
    else none
  | [] => none

/-- Parts between quotes make a word even if they come to nothing, unless they
are the list of all positional parameters. -/
def quotedParts (parts : Word) : Word :=
  match parts with
  | [.parameter _ "@" .value] => parts
  | parts => .text true [] :: parts

/-! ## Redirections and assignments -/

/-- A descriptor and a redirection mark at the head of a script. -/
def readRedirectMark (raw : Raw) : Option (Option Nat × Raw) :=
  match raw with
  | '<' :: rest => some (none, '<' :: rest)
  | '>' :: rest => some (none, '>' :: rest)
  | c :: '<' :: rest => if c.isDigit then some (some (Raw.digitValue c), '<' :: rest) else none
  | c :: '>' :: rest => if c.isDigit then some (some (Raw.digitValue c), '>' :: rest) else none
  | _ => none

/-- What a redirection mark does, for a descriptor if one is given. -/
def readRedirectKind (descriptor : Option Nat) (raw : Raw) :
    Option ((Word → Redirect) × Raw) :=
  match raw with
  | '>' :: '>' :: rest => some (.file (descriptor.getD 1) .append, rest)
  | '>' :: '&' :: rest => some (.copy (descriptor.getD 1), rest)
  | '>' :: '|' :: rest => some (.file (descriptor.getD 1) .overwrite, rest)
  | '>' :: rest => some (.file (descriptor.getD 1) .write, rest)
  | '<' :: '&' :: rest => some (.copy (descriptor.getD 0), rest)
  | '<' :: '>' :: rest => some (.file (descriptor.getD 0) .both, rest)
  | '<' :: rest => some (.file (descriptor.getD 0) .read, rest)
  | _ => none

/-- A word that ends a text in the script, read up to its end: its characters,
backwards, and whether any of them is quoted.  A dollar sign and a back quote stand
for themselves, and the latter counts as quoted. -/
def readEnding (word : Raw) (isQuoted : Bool) (raw : Raw) : Except Fault (Raw × Bool × Raw) :=
  match raw with
  | [] => .ok (word.reverse, isQuoted, [])
  | '\\' :: '\n' :: rest => readEnding word isQuoted rest
  | '\\' :: c :: rest => readEnding (c :: word) true rest
  | '\'' :: rest =>
    let text := rest.takeWhile (· ≠ '\'')
    match h : rest.drop text.length with
    | _ :: more =>
      have : more.length < rest.length + 1 := by
        have := congrArg List.length h
        simp only [List.length_drop, List.length_cons] at this
        omega
      readEnding (text.reverse ++ word) true more
    | [] => .error ⟨"Syntax error: Unterminated quoted string", [], false⟩
  | '"' :: rest =>
    let text := rest.takeWhile (· ≠ '"')
    match h : rest.drop text.length with
    | _ :: more =>
      have : more.length < rest.length + 1 := by
        have := congrArg List.length h
        simp only [List.length_drop, List.length_cons] at this
        omega
      readEnding (text.reverse ++ word) true more
    | [] => .error ⟨"Syntax error: Unterminated quoted string", [], false⟩
  | c :: rest =>
    if isMark c then readEnding word isQuoted rest
    else if endsWord c then .ok (word.reverse, isQuoted, c :: rest)
    else readEnding (c :: word) (isQuoted || c == '\x60') rest
termination_by raw.length

/-- Where a scan for the end of a line is. -/
inductive LineScan where
  | plain
  | single
  | double
  | comment

/-- A script up to the line end that ends its first line, and from there on.
Line ends between quotes do not count. -/
def splitLine (scan : LineScan) (line : Raw) : Raw → Raw × Raw
  | [] => (line.reverse, [])
  | '\\' :: c :: rest =>
    match scan with
    | .single => splitLine scan ('\\' :: line) (c :: rest)
    | .comment => splitLine scan ('\\' :: line) (c :: rest)
    | _ => splitLine scan (c :: '\\' :: line) rest
  | c :: rest =>
    match scan with
    | .plain =>
      if c = '\n' then (line.reverse, c :: rest)
      else if c = '\'' then splitLine .single (c :: line) rest
      else if c = '"' then splitLine .double (c :: line) rest
      else if c = '#' ∧ (line.head?.all endsWord) then splitLine .comment (c :: line) rest
      else splitLine .plain (c :: line) rest
    | .single => splitLine (if c = '\'' then .plain else .single) (c :: line) rest
    | .double => splitLine (if c = '"' then .plain else .double) (c :: line) rest
    | .comment =>
      if c = '\n' then (line.reverse, c :: rest) else splitLine .comment (c :: line) rest
termination_by raw => raw.length

/-- The lines of a text up to one that ends it, and what follows that one.  Tabs
in front of lines may be left out, and a backslash may join a line to the next one. -/
def takeDocument (ending : Raw) (dropsTabs joins isJoined : Bool) :
    List Raw → List Raw × List Raw
  | [] => ([], [])
  | line :: rest =>
    let shown := if dropsTabs ∧ ¬ isJoined then line.dropWhile (· = '\t') else line
    if ¬ isJoined ∧ shown.filter (!isMark ·) = ending then ([], rest)
    else
      let isOpen : Bool := joins && (line.reverse.takeWhile (· = '\\')).length % 2 == 1
      let (text, rest) := takeDocument ending dropsTabs joins isOpen rest
      (shown :: text, rest)

/-- A text that follows the current line, with marks for the lines from the one
that ends it on, and the script without it. -/
def cutDocument (ending : Raw) (dropsTabs joins : Bool) (raw : Raw) : (Raw × Raw) × Raw :=
  let (line, after) := splitLine .plain [] raw
  let marks := (after.drop 1).takeWhile (· = lineMark)
  let lines := Raw.splitOn '\n' (after.drop (1 + marks.length))
  let (text, rest) := takeDocument ending dropsTabs joins false lines
  let isWhole : Bool := text.length < lines.length
  let body := Raw.join ['\n'] text ++ (if isWhole ∧ ¬ text.isEmpty then ['\n'] else [])
  let taken := lines.length - rest.length - (if isWhole ∧ ¬ rest.isEmpty then 0 else 1)
  let after := if after.isEmpty then [] else
    '\n' :: marks ++ List.replicate taken lineMark ++ Raw.join ['\n'] rest
  ((body.filter (!isMark ·), List.replicate rest.length lineMark), line ++ after)

/-- The name of an assignment at the head of a script. -/
def readAssignmentName (raw : Raw) : Option (String × Raw) :=
  match raw with
  | c :: _ =>
    if Raw.startsName c then
      match raw.dropWhile Raw.inName with
      | '=' :: rest => some (String.ofList (raw.takeWhile Raw.inName), rest)
      | _ => none
    else none
  | [] => none

/-- The names of commands that no function may have. -/
def isReservedName (name : String) : Bool :=
  ["break", "continue", "eval", "exec", "exit", "export", "readonly", "return", "set", "shift",
    "times", "trap", "unset", "local"].contains name

/-- Whether a script starts with a name and a pair of parentheses, and what
follows them. -/
def readDefinition (raw : Raw) : Option (String × Raw) :=
  match raw with
  | c :: _ =>
    if Raw.startsName c ∧ ¬ isReservedName (String.ofList (raw.takeWhile Raw.inName)) then
      match skipBlanks (raw.dropWhile Raw.inName) with
      | '(' :: rest =>
        match skipBlanks rest with
        | ')' :: rest => some (String.ofList (raw.takeWhile Raw.inName), rest)
        | _ => none
      | _ => none
    else none
  | [] => none

/-- The fault of a parenthesis that opens after a single word, where it can only
be that of a definition. -/
def unexpectedParenthesis (raw : Raw) : Fault :=
  let rest := skipBlanks (raw.drop 1)
  if rest.head? = some ')' then ⟨"Syntax error: Bad function name", rest, false⟩
  else unexpected rest (nameHead rest) ")"

/-- Whether no word starts at the head of a script. -/
def isOperator (raw : Raw) : Bool :=
  raw.head?.all endsWord || (readRedirectMark raw).isSome

/-- A script without the operator at its head. -/
def dropOperator (raw : Raw) : Raw :=
  match readRedirectMark raw with
  | some (_, '<' :: '<' :: '-' :: rest) => rest
  | some (_, a :: b :: rest) =>
    if a = b ∨ b = '&' ∨ (a = '>' ∧ b = '|') ∨ (a = '<' ∧ b = '>') then rest else b :: rest
  | some (_, rest) => rest.drop 1
  | none =>
    match raw with
    | ';' :: ';' :: rest => rest
    | '&' :: '&' :: rest => rest
    | '|' :: '|' :: rest => rest
    | raw => raw.drop 1

/-- A part that starts the value of what may be an assignment. -/
def Part.inValue : Part → Part
  | .home _ user => .home true user
  | part => part

/-- The line of a script with so many line ends on which one of its tails
starts. -/
def lineAt (total : Nat) (raw : Raw) : Nat :=
  total + 1 - lineEnds raw

/-- What separates a command from the next one. -/
inductive Separator where
  | none
  /-- A mark on the same line. -/
  | mark
  | lineEnd
  deriving DecidableEq

/-! ## Commands -/

section Commands

variable (aliases : Aliases) (total : Nat)

mutual

/-- The parts of a word. -/
def readParts (fuel : Nat) (setting : Setting) (close : Close) (raw : Raw) :
    Except Fault (Word × Raw) :=
  match fuel with
  | 0 => .ok ([], raw)
  | fuel + 1 =>
    match raw with
    | [] => do
      close.unclosed setting
      return ([], [])
    | c :: rest =>
      if isMark c then
        if close = .word ∧ (raw.dropWhile isMark).head?.all endsWord then .ok ([], raw)
        else readParts fuel setting close rest
      else if close.isAt c rest then .ok ([], raw)
      else do
        let (parts, rest) ← readPart fuel setting close raw
        let (more, rest) ← readParts fuel setting (close.after c) rest
        return (parts ++ more, rest)

/-- One part of a word, or none for a continued line end. -/
def readPart (fuel : Nat) (setting : Setting) (close : Close) (raw : Raw) :
    Except Fault (Word × Raw) :=
  match fuel with
  | 0 => .ok ([], raw)
  | fuel + 1 =>
    match raw with
    | '\\' :: '\n' :: rest => .ok ([], rest)
    | '\\' :: c :: rest =>
      if setting.protects c then .ok ([.text true [c]], rest)
      else .ok ([.text true ['\\', c]], rest)
    | '\'' :: rest =>
      if setting.isQuoted then .ok ([.text true ['\'']], rest)
      else
        let text := rest.takeWhile (· ≠ '\'')
        match rest.drop text.length with
        | _ :: rest => .ok ([.text true (text.filter (!isMark ·))], rest)
        | [] => .error ⟨"Syntax error: Unterminated quoted string", [], false⟩
    | '"' :: rest =>
      match setting with
      | .literal _ => .ok ([.text true ['"']], rest)
      | setting => do
        let (parts, rest) ← readParts fuel (.double false setting.inText) .quote rest
        return (quotedParts parts, rest.drop 1)
    | '\x60' :: rest =>
      match readBackquoted setting.isQuoted rest with
      | none => .error ⟨"Syntax error: EOF in backquote substitution", [], false⟩
      | some (script, rest) =>
        let others := List.replicate (total - lineEnds script) lineMark
        match readSequence fuel false (script ++ others) with
        | .ok (body, _) => .ok ([.output setting.isQuoted body], rest)
        | .error fault =>
          .error (if fault.rest.isEmpty then { fault with rest := others } else fault)
    | '$' :: rest => readDollar fuel setting (dropJoins rest)
    | c :: rest =>
      let run := raw.takeWhile fun c => !close.stops c
      if run.isEmpty then .ok ([.text setting.isQuoted [c]], rest)
      else .ok ([.text setting.isQuoted run], raw.drop run.length)
    | [] => .ok ([], [])

/-- A part after its dollar sign. -/
def readDollar (fuel : Nat) (setting : Setting) (raw : Raw) : Except Fault (Word × Raw) :=
  match fuel with
  | 0 => .ok ([], raw)
  | fuel + 1 =>
    let quoted := setting.isQuoted
    match raw with
    | '(' :: '(' :: rest => do
      let (parts, rest) ← readParts fuel (.literal setting.inText) (.parentheses 0) rest
      return ([.arithmetic quoted parts], rest.drop 2)
    | '(' :: rest => do
      let (body, rest) ← readSequence fuel false rest
      match rest with
      | ')' :: rest => return ([.output quoted body], rest)
      | rest => .error (unexpected rest (nameToken rest) ")")
    | '\x7b' :: rest => readBraced fuel setting (dropJoins rest)
    | c :: rest =>
      if Raw.startsName c then
        let name := raw.takeWhile Raw.inName
        .ok ([.parameter quoted (String.ofList name) .value], raw.drop name.length)
      else if c.isDigit ∨ isSpecialParameter c then
        .ok ([.parameter quoted (String.ofList [c]) .value], rest)
      else .ok ([.text quoted ['$']], raw)
    | [] => .ok ([.text quoted ['$']], [])

/-- A parameter in braces after the opening one. -/
def readBraced (fuel : Nat) (setting : Setting) (raw : Raw) : Except Fault (Word × Raw) :=
  match fuel with
  | 0 => .ok ([], raw)
  | fuel + 1 =>
    match raw with
    | '#' :: c :: rest =>
      if Raw.inName c then
        match readParameterName (c :: rest) with
        | some (name, '\x7d' :: rest) => .ok ([.parameter setting.isQuoted name .length], rest)
        | some (_, rest) => readMalformed fuel setting rest
        | none => readMalformed fuel setting (c :: rest)
      else if c ≠ '\x7d' ∧ rest.head? = some '\x7d' then
        if isSpecialParameter c then
          .ok ([.parameter setting.isQuoted (String.ofList [c]) .length], rest.drop 1)
        else readMalformed fuel setting rest
      else readUse fuel setting "#" (c :: rest)
    | raw =>
      match readParameterName raw with
      | some (name, rest) => readUse fuel setting name rest
      | none =>
        if raw.head? = some '\x7d' then readMalformed fuel setting raw
        else readMalformed fuel setting (raw.drop 1)

/-- What is done with a parameter in braces, after its name. -/
def readUse (fuel : Nat) (setting : Setting) (name : String) (raw : Raw) :
    Except Fault (Word × Raw) :=
  match fuel with
  | 0 => .ok ([], raw)
  | fuel + 1 =>
    let raw := dropJoins raw
    match raw with
    | '\x7d' :: rest => .ok ([.parameter setting.isQuoted name .value], rest)
    | raw =>
      match readUseMark raw with
      | some (use, rest) => do
        let isCut := match use [] with
          | .without _ _ => true
          | _ => false
        let inner := if isCut then .bare else setting.inner
        let (word, rest) ← readValue fuel inner .brace false rest
        return ([.parameter setting.isQuoted name (use word)], rest.drop 1)
      | none =>
        readMalformed fuel setting (raw.drop (if raw.head? = some ':' then 2 else 1))

/-- The parts of a word that may start with a home directory; in the value of an
assignment, so may every part between colons. -/
def readValue (fuel : Nat) (setting : Setting) (close : Close) (isAssigned : Bool) (raw : Raw) :
    Except Fault (Word × Raw) :=
  match fuel with
  | 0 => .ok ([], raw)
  | fuel + 1 =>
    let raw := if close = .word ∧ (raw.dropWhile isMark).head?.all endsWord then raw
      else raw.dropWhile isMark
    match if setting.isQuoted then none else readHome isAssigned raw with
    | some (user, rest) => do
      let (parts, rest) ← readValue fuel setting close isAssigned rest
      return (.home false user :: parts, rest)
    | none =>
      match raw with
      | ':' :: rest =>
        if isAssigned then do
          let (parts, rest) ← readValue fuel setting close isAssigned rest
          return (.text false [':'] :: parts, rest)
        else readParts fuel setting close raw
      | [] => readParts fuel setting close raw
      | c :: rest =>
        if isAssigned ∧ ¬ close.isAt c rest then do
          let run := raw.takeWhile fun c => !close.stops c && c != ':'
          let (first, rest) ←
            if run.isEmpty then readPart fuel setting close raw
            else pure ([.text false run], raw.drop run.length)
          let (parts, rest) ←
            if rest.head? = some ':' then readValue fuel setting close isAssigned rest
            else readMore fuel setting close rest
          return (first ++ parts, rest)
        else readParts fuel setting close raw

/-- The parts of an assigned value after one of them; no home directory starts
here. -/
def readMore (fuel : Nat) (setting : Setting) (close : Close) (raw : Raw) :
    Except Fault (Word × Raw) :=
  match fuel with
  | 0 => .ok ([], raw)
  | fuel + 1 =>
    match raw with
    | [] => readParts fuel setting close raw
    | ':' :: _ => readValue fuel setting close true raw
    | c :: rest =>
      if isMark c then
        if close = .word ∧ (raw.dropWhile isMark).head?.all endsWord then .ok ([], raw)
        else readMore fuel setting close rest
      else if close.isAt c rest then .ok ([], raw)
      else do
        let run := raw.takeWhile fun c => !close.stops c && c != ':'
        let (first, rest) ←
          if run.isEmpty then readPart fuel setting close raw
          else pure ([.text false run], raw.drop run.length)
        let (parts, rest) ← readMore fuel setting close rest
        return (first ++ parts, rest)

/-- A word. -/
def readWord (fuel : Nat) (raw : Raw) : Except Fault (Word × Raw) :=
  match fuel with
  | 0 => .ok ([], raw)
  | fuel + 1 => readValue fuel .bare .word false raw

/-- The rest of a parameter in braces that cannot be read.  It is a fault only
when it is used. -/
def readMalformed (fuel : Nat) (setting : Setting) (raw : Raw) : Except Fault (Word × Raw) :=
  match fuel with
  | 0 => .ok ([], raw)
  | fuel + 1 => do
    let (_, rest) ← readParts fuel setting.inner .brace raw
    return ([.parameter setting.isQuoted "" .malformed], rest.drop 1)

/-- A redirection after its descriptor. -/
def readRedirect (fuel : Nat) (descriptor : Option Nat) (raw : Raw) :
    Except Fault (Redirect × Raw) :=
  match fuel with
  | 0 => .error (unexpected raw (nameHead raw) "")
  | fuel + 1 =>
    match raw with
    | '<' :: '<' :: rest => do
      let dropsTabs := rest.head? = some '-'
      let start := skipBlanks (if dropsTabs then rest.drop 1 else rest)
      if isOperator start then .error (unexpected start (nameHead start) "")
      let (ending, isQuoted, after) ← readEnding [] false start
      let ((text, marks), after) := cutDocument ending dropsTabs (!isQuoted) after
      if isQuoted then return (.document (descriptor.getD 0) [.text true text], after)
      else
        match readParts fuel (.literal true) .never (text ++ marks) with
        | .ok (parts, _) => return (.document (descriptor.getD 0) parts, after)
        | .error fault =>
          .error (if fault.rest.isEmpty then { fault with rest := marks.drop 1 } else fault)
    | _ =>
      match readRedirectKind descriptor raw with
      | none => .error (unexpected raw (nameHead raw) "")
      | some (kind, rest) => do
        let start := skipBlanks rest
        if isOperator start then .error (unexpected start (nameHead start) "")
        let (word, after) ← readWord fuel start
        return (kind word, after)

/-- The redirections after a compound command. -/
def readRedirects (fuel : Nat) (raw : Raw) : Except Fault (List Redirect × Raw) :=
  match fuel with
  | 0 => .ok ([], raw)
  | fuel + 1 =>
    match readRedirectMark (skipBlanks raw) with
    | none => .ok ([], raw)
    | some (descriptor, rest) => do
      let (redirect, rest) ← readRedirect fuel descriptor rest
      let (more, rest) ← readRedirects fuel rest
      return (redirect :: more, rest)

/-- The rest of a simple command, whose line is the one on which its first word or
mark ends. -/
def readSimple (fuel : Nat) (line : Nat) (assignments : List (String × Word))
    (words : List Word) (redirects : List Redirect) (raw : Raw) : Except Fault (Command × Raw) :=
  match fuel with
  | 0 => .ok (.simple line assignments words redirects, raw)
  | fuel + 1 =>
    let raw := if words.isEmpty ∨ leavesAlias aliases raw then unalias aliases raw
      else skipBlanks raw
    let isFirst : Bool := words.isEmpty && assignments.isEmpty && redirects.isEmpty
    match readRedirectMark raw with
    | some (descriptor, rest) => do
      let (redirect, rest) ← readRedirect fuel descriptor rest
      readSimple fuel line assignments words (redirects ++ [redirect]) rest
    | none =>
      match if words.isEmpty then readAssignmentName raw else none with
      | some (name, rest) => do
        let (value, rest) ← readValue fuel .bare .word true rest
        let line := if isFirst then lineAt total (dropJoins rest) else line
        readSimple fuel line (assignments ++ [(name, value)]) words redirects rest
      | none =>
        match raw with
        | [] => .ok (.simple line assignments words redirects, raw)
        | c :: _ =>
          if endsWord c then
            if c = '(' ∧ words.length = 1 ∧ assignments.isEmpty ∧ redirects.isEmpty then
              .error (unexpectedParenthesis raw)
            else .ok (.simple line assignments words redirects, raw)
          else
            match readAssignmentName raw with
            | some (name, rest) => do
              let (value, rest) ← readValue fuel .bare .word true rest
              let word := .text false (name.toList ++ ['=']) :: value.map Part.inValue
              readSimple fuel line assignments (words ++ [word]) redirects rest
            | none => do
              let (word, rest) ← readWord fuel raw
              let line := if isFirst then lineAt total (dropJoins rest) else line
              readSimple fuel line assignments (words ++ [word]) redirects rest

/-- The words after the mark of a loop over words. -/
def readWords (fuel : Nat) (raw : Raw) : Except Fault (List Word × Raw) :=
  match fuel with
  | 0 => .ok ([], raw)
  | fuel + 1 =>
    match skipBlanks raw with
    | [] => .ok ([], [])
    | c :: rest =>
      if isOperator (c :: rest) then .ok ([], c :: rest)
      else do
        let (word, rest) ← readWord fuel (c :: rest)
        let (words, rest) ← readWords fuel rest
        return (word :: words, rest)

/-- The patterns of a branch up to their closing parenthesis. -/
def readPatterns (fuel : Nat) (raw : Raw) : Except Fault (List Word × Raw) :=
  match fuel with
  | 0 => .ok ([], raw)
  | fuel + 1 => do
    let start := skipBlanks raw
    let (word, rest) ← if isOperator start then pure ([], dropOperator start)
      else readWord fuel start
    match skipBlanks rest with
    | '|' :: '|' :: rest => .error (unexpected ('|' :: '|' :: rest) "\"||\"" ")")
    | '|' :: rest => do
      let (words, rest) ← readPatterns fuel rest
      return (word :: words, rest)
    | ')' :: rest => return ([word], rest)
    | rest => .error (unexpected rest (nameHead rest) ")")

/-- The branches of a choice by pattern, up to its closing word. -/
def readBranches (fuel : Nat) (raw : Raw) : Except Fault (List (List Word × List Command) × Raw) :=
  match fuel with
  | 0 => .ok ([], raw)
  | fuel + 1 =>
    let raw := skipLines raw.length raw
    if plainWord raw = "esac" then .ok ([], dropWord "esac" raw)
    else do
      let start := match raw with
        | '(' :: rest => rest
        | raw => raw
      let (patterns, rest) ← readPatterns fuel start
      let (body, rest) ← readSequence fuel false rest
      match rest with
      | ';' :: ';' :: rest => do
        let (branches, rest) ← readBranches fuel rest
        return ((patterns, body) :: branches, rest)
      | rest =>
        let rest := unmarkWord rest
        if plainWord rest = "esac" then return ([(patterns, body)], dropWord "esac" rest)
        else .error (unexpected rest (nameToken rest) ";;")

/-- What follows the test of a choice by test, up to its closing word. -/
def readChoice (fuel : Nat) (raw : Raw) : Except Fault (Command × Raw) :=
  match fuel with
  | 0 => .error (unexpected raw (nameHead raw) "")
  | fuel + 1 => do
    let (test, rest) ← readSequence fuel true raw
    let rest ← expectWord "then" rest
    let (body, rest) ← readSequence fuel true rest
    match plainWord rest with
    | "elif" => do
      let (otherwise, rest) ← readChoice fuel (dropWord "elif" rest)
      return (.choose test body [otherwise], rest)
    | "else" => do
      let (otherwise, rest) ← readSequence fuel true (dropWord "else" rest)
      let rest ← expectWord "fi" rest
      return (.choose test body otherwise, rest)
    | _ => do
      let rest ← expectWord "fi" rest
      return (.choose test body [], rest)

/-- The body of a loop. -/
def readBody (fuel : Nat) (raw : Raw) : Except Fault (List Command × Raw) :=
  match fuel with
  | 0 => .error (unexpected raw (nameHead raw) "")
  | fuel + 1 => do
    let rest ← expectWord "do" raw
    let (body, rest) ← readSequence fuel true rest
    let rest ← expectWord "done" rest
    return (body, rest)

/-- A loop over words after its mark. -/
def readEach (fuel : Nat) (raw : Raw) : Except Fault (Command × Raw) :=
  match fuel with
  | 0 => .error (unexpected raw (nameHead raw) "")
  | fuel + 1 =>
    let line := lineAt total raw
    let raw := skipBlanks raw
    let name := plainWord raw
    if ¬ Raw.isName name.toList then
      .error ⟨"Syntax error: Bad for loop variable", afterLineEnd raw, !isOperator raw⟩
    else do
      let rest := dropWord name raw
      let rest := skipLines rest.length rest
      let (words, rest) ←
        if plainWord rest = "in" then do
          let (words, rest) ← readWords fuel (dropWord "in" rest)
          let rest := skipBlanks rest
          if (rest.head? ≠ some ';' ∧ rest.head? ≠ some '\n') ∨ [';', ';'].isPrefixOf rest then
            .error (unexpected rest (nameHead rest) "")
          pure (some words, rest)
        else pure (none, rest)
      let rest := match skipBlanks rest with
        | ';' :: ';' :: rest => ';' :: ';' :: rest
        | ';' :: rest => rest
        | rest => rest
      let (body, rest) ← readBody fuel (skipLines rest.length rest)
      return (.each line name words body, rest)

/-- A command that is no pipeline. -/
def readCommand (fuel : Nat) (raw : Raw) : Except Fault (Command × Raw) :=
  match fuel with
  | 0 => .error (unexpected raw (nameHead raw) "")
  | fuel + 1 =>
    let raw := unalias aliases raw
    let word := plainWord raw
    let line := lineAt total raw
    let compound (reading : Except Fault (Command × Raw)) : Except Fault (Command × Raw) := do
      let (command, rest) ← reading
      let (redirects, rest) ← readRedirects fuel rest
      if redirects.isEmpty then return (command, rest)
      return (.redirected line command redirects, markWord rest)
    match raw with
    | '(' :: rest => compound do
      let (body, rest) ← readSequence fuel true rest
      match rest with
      | ')' :: rest => return (.subshell body, rest)
      | rest => .error (unexpected rest (nameToken rest) ")")
    | _ =>
      if word = "\x7b" then compound do
        let (body, rest) ← readSequence fuel true (dropWord word raw)
        let rest ← expectWord "\x7d" rest
        return (.group body, rest)
      else if word = "if" then compound (readChoice fuel (dropWord word raw))
      else if word = "while" ∨ word = "until" then compound do
        let (test, rest) ← readSequence fuel true (dropWord word raw)
        let (body, rest) ← readBody fuel rest
        return (.repeated (word = "until") test body, rest)
      else if word = "for" then compound (readEach fuel (dropWord word raw))
      else if word = "case" then compound do
        let start := skipBlanks (dropWord word raw)
        if isOperator start then .error (missingWord start)
        let (subject, rest) ← readWord fuel start
        let rest ← expectWord "in" (skipLines rest.length rest)
        let (branches, rest) ← readBranches fuel rest
        return (.branch line subject branches, rest)
      else if reserved.contains word then
        .error (unexpected raw ("\"" ++ word ++ "\"") "")
      else
        match readDefinition raw with
        | some (name, rest) => do
          let (body, rest) ← readCommand fuel (skipLines rest.length rest)
          return (.define name body, rest)
        | none => do
          let (command, rest) ← readSimple fuel line [] [] [] raw
          match command with
          | .simple _ [] [] [] => .error (unexpected raw (nameHead raw) "")
          | _ => return (command, rest)

/-- The commands of a pipeline. -/
def readStages (fuel : Nat) (raw : Raw) : Except Fault (List Command × Raw) :=
  match fuel with
  | 0 => .ok ([], raw)
  | fuel + 1 => do
    let (command, rest) ← readCommand fuel raw
    match skipBlanks rest with
    | '|' :: '|' :: _ => return ([command], rest)
    | '|' :: rest => do
      let (more, rest) ← readStages fuel (skipLines rest.length rest)
      return (command :: more, rest)
    | _ => return ([command], rest)

/-- A pipeline, perhaps negated. -/
def readPipeline (fuel : Nat) (raw : Raw) : Except Fault (Command × Raw) :=
  match fuel with
  | 0 => .error (unexpected raw (nameHead raw) "")
  | fuel + 1 => do
    let raw := unalias aliases raw
    let isNegated : Bool := plainWord raw == "!"
    let raw := if isNegated then unalias aliases (dropWord "!" raw) else raw
    let (commands, rest) ← readStages fuel raw
    let command := match commands with
      | [command] => command
      | commands => .pipeline commands
    return (if isNegated then .negated command else command, rest)

/-- Pipelines joined to what has been read. -/
def readJoined (fuel : Nat) (first : Command) (raw : Raw) : Except Fault (Command × Raw) :=
  match fuel with
  | 0 => .ok (first, raw)
  | fuel + 1 =>
    match skipBlanks raw with
    | '&' :: '&' :: rest => do
      let (second, rest) ← readPipeline fuel (skipLines rest.length rest)
      readJoined fuel (.andThen first second) rest
    | '|' :: '|' :: rest => do
      let (second, rest) ← readPipeline fuel (skipLines rest.length rest)
      readJoined fuel (.orElse first second) rest
    | _ => .ok (first, raw)

/-- One command of a sequence, and what separates it from the next. -/
def readItem (fuel : Nat) (raw : Raw) : Except Fault ((Command × Separator) × Raw) :=
  match fuel with
  | 0 => .error (unexpected raw (nameHead raw) "")
  | fuel + 1 => do
    let (first, rest) ← readPipeline fuel raw
    let (command, rest) ← readJoined fuel first rest
    match skipBlanks rest with
    | ';' :: ';' :: rest => return ((command, .none), ';' :: ';' :: rest)
    | ';' :: rest => return ((command, .mark), rest)
    | '&' :: rest => return ((.background command, .mark), rest)
    | '\n' :: rest => return ((command, .lineEnd), rest)
    | [] => return ((command, .lineEnd), [])
    | rest => return ((command, .none), rest)

/-- A sequence of commands inside another command, up to what ends it.  There
may have to be a first command. -/
def readSequence (fuel : Nat) (isNeeded : Bool) (raw : Raw) : Except Fault (List Command × Raw) :=
  match fuel with
  | 0 => .ok ([], raw)
  | fuel + 1 =>
    let raw := unalias aliases (skipLines raw.length raw)
    if isClosing raw ∧ (¬ isNeeded ∨ raw.isEmpty) then .ok ([], raw)
    else do
      let ((command, separator), rest) ← readItem fuel raw
      if separator = .none then return ([command], rest)
      else do
        let (commands, rest) ← readSequence fuel false rest
        return (command :: commands, rest)

end

end Commands

/-- At most `fuel` commands of a line. -/
def readItems (aliases : Aliases) (total : Nat) :
    Nat → Raw → Except Fault (List Command × Raw)
  | 0, raw => .ok ([], raw)
  | fuel + 1, raw => do
    let room := (aliases.map fun a => a.2.length + 1).foldl (· + ·) 0 * (raw.length + 1)
    let ((command, separator), rest) ← readItem aliases total
      (40 * (raw.length + room) + 100) raw
    match separator, unalias aliases rest with
    | .none, rest => .error (unexpected rest (nameToken rest) "")
    | .lineEnd, _ => return ([command], rest)
    | .mark, [] => return ([command], [])
    | .mark, '\n' :: rest => return ([command], rest)
    | .mark, rest => do
      let (commands, rest) ← readItems aliases total fuel rest
      return (command :: commands, rest)

/-- The commands of the next line that has any, and what follows it, in a script
with so many line ends. -/
def readLine (aliases : Aliases) (total : Nat) (raw : Raw) :
    Except ScriptFault (List Command × Raw) :=
  match skipLines raw.length raw with
  | [] => .ok ([], [])
  | raw =>
    match readItems aliases total raw.length raw with
    | .ok result => .ok result
    | .error fault =>
      let word := if fault.isWord then
          readWord aliases total (40 * raw.length + 100) (skipBlanks fault.rest)
        else .ok ([], fault.rest)
      match word with
      | .ok (_, rest) => .error ⟨fault.message, lineAt total (dropJoins rest)⟩
      | .error inner => .error ⟨inner.message, lineAt total inner.rest⟩

end Shell
end MakeTen
