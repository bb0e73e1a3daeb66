import MakeTen.Number.FloatBits
/-!
# Words of scripts

A script is cut into words.  Whether a slash divides or starts a pattern depends on
the word before it, and a greater sign is a comparison or says where a statement
prints to.  A closing brace that comes after a statement without an end supplies
one.

Main definitions:

- Type `Script.Token`: words.
- Function `Script.tokens`: the words of a script.
-/

namespace MakeTen
namespace Script

/-! ## Words -/

/-- A word of a script. -/
inductive Token where
  | number (x : Float) (spelt : Raw)
  | text (raw : Raw)
  | pattern (raw : Raw)
  /-- A name, and whether a parenthesis follows it at once. -/
  | name (raw : Raw) (isCalled : Bool)
  | builtIn (name : String)
  | keyword (name : String)
  | mark (spelt : String)
  /-- A mark after which it says where to print to. -/
  | outlet (spelt : String)
  | newline
  /-- The end of a statement in front of a closing brace that is not written. -/
  | supplied
  | finish
  /-- A complaint, and whether reading can go on. -/
  | bad (text : Raw) (goesOn : Bool)
  deriving BEq

/-- A word with its line. -/
structure Placed where
  token : Token
  line : Nat

/-- Whether a variable that all scripts know cannot be mistaken for a table. -/
def isPlainVariable (name : Raw) : Bool :=
  ["NF", "RS", "FS", "CONVFMT", "OFMT"].contains (String.ofList name)

/-- A word in a complaint. -/
def Token.shown : Token → Raw
  | .number _ spelt => spelt
  | .text raw => raw
  | .pattern raw => '/' :: raw ++ ['/']
  | .name raw _ => if isPlainVariable raw then ['$'] else raw
  | .builtIn word => word.toList
  | .keyword word => word.toList
  | .mark spelt => spelt.toList
  | .outlet spelt => spelt.toList
  | .newline => "end of line".toList
  | .supplied => ['\x7d']
  | .finish => "end of file".toList
  | .bad complaint _ => complaint

/-- Words with a meaning of their own. -/
def keywords : List String :=
  ["BEGIN", "END", "print", "printf", "if", "else", "while", "do", "for", "in", "delete", "next",
    "nextfile", "exit", "return", "break", "continue", "getline", "function", "func"]

/-- Functions that all scripts know, each with the least and the greatest number of
arguments. -/
def builtIns : List (String × Nat × Nat) :=
  [("index", 2, 2), ("substr", 2, 3), ("sprintf", 1, 255), ("sin", 1, 1), ("cos", 1, 1),
    ("atan2", 2, 2), ("exp", 1, 1), ("log", 1, 1), ("int", 1, 1), ("sqrt", 1, 1), ("rand", 0, 0),
    ("srand", 0, 1), ("close", 1, 1), ("system", 1, 1), ("toupper", 1, 1), ("tolower", 1, 1),
    ("fflush", 0, 1), ("strftime", 0, 3), ("systime", 0, 0),
    ("mktime", 1, 1), ("split", 2, 3), ("match", 2, 2), ("sub", 2, 3), ("gsub", 2, 3),
    ("length", 0, 1)]

/-! ## Texts -/

/-- What an escape stands for after its backslash, and how long it is. -/
def escape? (raw : Raw) : Option (Char × Nat) :=
  let octal := (raw.take 3).takeWhile Raw.isOctal
  if ¬ octal.isEmpty then some (Char.ofNat (Raw.valueIn 8 octal % 256), octal.length)
  else
    match raw with
    | 'n' :: _ => some ('\n', 1)
    | 't' :: _ => some ('\t', 1)
    | 'r' :: _ => some ('\r', 1)
    | 'a' :: _ => some (Char.ofNat 7, 1)
    | 'b' :: _ => some (Char.ofNat 8, 1)
    | 'v' :: _ => some (Char.ofNat 11, 1)
    | 'f' :: _ => some (Char.ofNat 12, 1)
    | '\\' :: _ => some ('\\', 1)
    | '"' :: _ => some ('"', 1)
    | 'x' :: rest =>
      let digits := (rest.take 2).takeWhile Raw.isHexadecimal
      if digits.isEmpty then none
      else some (Char.ofNat (Raw.valueIn 16 digits), digits.length + 1)
    | _ => none

/-- A text with its escapes replaced; `skipped` characters belong to an escape that
has been replaced. -/
def unescape (skipped : Nat) : Raw → Raw
  | [] => []
  | c :: rest =>
    match skipped with
    | n + 1 => unescape n rest
    | 0 =>
      if c = '\\' then
        match escape? rest with
        | some (d, size) => d :: unescape size rest
        | none =>
          match rest with
          | '\n' :: _ => unescape 1 rest
          | d :: _ => '\\' :: d :: unescape 1 rest
          | [] => ['\\']
      else c :: unescape 0 rest

/-- A text up to its quote: what is written, and the script after the quote.  Nothing
follows if the text has no end on its line. -/
def quoted : Raw → Raw × Option Raw
  | [] => ([], none)
  | '"' :: rest => ([], some rest)
  | '\n' :: _ => ([], none)
  | '\\' :: c :: rest =>
    let (text, after) := quoted rest
    ('\\' :: c :: text, after)
  | c :: rest =>
    let (text, after) := quoted rest
    (c :: text, after)

/-- Where the reading of a pattern is with regard to sets. -/
inductive SetPlace where
  | outside
  /-- Right after the start of a set, or after the sign that negates it. -/
  | start (isFirst : Bool)
  /-- In so many brackets. -/
  | inside (depth : Nat)

/-- The place after a character. -/
def SetPlace.after (c : Char) (next : Option Char) : SetPlace → SetPlace
  | .outside => if c = '[' then .start true else .outside
  | .start isFirst =>
    if isFirst ∧ c = '^' then .start false
    else if c = '[' ∧ next = some ':' then .inside 2
    else .inside 1
  | .inside depth =>
    if c = ']' then (if depth ≤ 1 then .outside else .inside (depth - 1))
    else if c = '[' ∧ next = some ':' then .inside 2
    else .inside depth

/-- A pattern up to its slash: what is written, and the script after the slash. -/
def slashed : SetPlace → Raw → Raw × Option Raw
  | _, [] => ([], none)
  | _, '\n' :: _ => ([], none)
  | .outside, '/' :: rest => ([], some rest)
  | place, '\\' :: '/' :: rest =>
    let (text, after) := slashed (place.after '/' none) rest
    ('/' :: text, after)
  | place, '\\' :: c :: rest =>
    let (text, after) := slashed (place.after 'x' none) rest
    ('\\' :: c :: text, after)
  | place, c :: rest =>
    let (text, after) := slashed (place.after c rest.head?) rest
    (c :: text, after)

/-! ## Cutting -/

/-- Where cutting has come to. -/
structure Cutting where
  rest : Raw
  line : Nat
  /-- The line on which the current word starts. -/
  wordLine : Nat
  last : Token
  braces : Nat
  parentheses : Nat
  /-- Whether a statement that prints has begun. -/
  isPrinting : Bool

/-- What follows blanks, comments and line ends after a backslash, and the number of
line ends on the way.  Line ends are passed as well if that is wanted. -/
def skipBlanks (passesLines : Bool) : Bool → Nat → Raw → Raw × Nat
  | _, lines, [] => ([], lines)
  | true, lines, '\n' :: rest =>
    if passesLines then skipBlanks passesLines false (lines + 1) rest else ('\n' :: rest, lines)
  | true, lines, _ :: rest => skipBlanks passesLines true lines rest
  | false, lines, '\\' :: '\n' :: rest => skipBlanks passesLines false (lines + 1) rest
  | false, lines, c :: rest =>
    if c = '#' then skipBlanks passesLines true lines rest
    else if c = '\n' then
      if passesLines then skipBlanks passesLines false (lines + 1) rest else (c :: rest, lines)
    else if Raw.isSpace c then skipBlanks passesLines false lines rest
    else (c :: rest, lines)

/-- Go past blanks and line ends. -/
def Cutting.skipLines (k : Cutting) : Cutting :=
  let (rest, lines) := skipBlanks true false 0 k.rest
  { k with rest, line := k.line + lines }

/-- Whether a slash divides after a word. -/
def Token.precedesDivision : Token → Bool
  | .number _ _ => true
  | .text _ => true
  | .pattern _ => true
  | .name _ _ => true
  | .keyword word => word == "getline"
  | .mark spelt => spelt == ")" || spelt == "]" || spelt == "++" || spelt == "--"
  | _ => false

/-- Marks of several characters, the longer ones first. -/
def longMarks : List String :=
  ["++", "--", "+=", "-=", "*=", "/=", "%=", "^=", "==", "<=", ">=", "!=", "!~", "&&", "||"]

/-- Marks of one character. -/
def shortMarks : Raw :=
  "+-*/%^=<>!~?:,;()[]$|\x7b\x7d".toList

/-- Give a word and go past it. -/
def Cutting.give (k : Cutting) (token : Token) (rest : Raw) : Token × Cutting :=
  (token, { k with last := token, rest })

/-- A complaint about a character that has no meaning. -/
def Cutting.refuse (k : Cutting) (c : Char) (rest : Raw) : Token × Cutting :=
  k.give (.bad ("unexpected character '".toList ++ [c, '\'']) false) rest

/-- A number and what follows it. -/
def Cutting.number (k : Cutting) : Token × Cutting :=
  let (_, _, count, afterDigits) := FloatFormat.readDigits 10 Char.isDigit k.rest
  if count = 0 then k.refuse (k.rest.headD '.') (k.rest.drop 1)
  else
    let (_, rest) := FloatFormat.readExponent ['e', 'E'] afterDigits
    let spelt := k.rest.take (k.rest.length - rest.length)
    if (FloatFormat.double.read spelt).isOutOfRange then
      let way := if Floating.ofRawFloat spelt == 0 then "under" else "over"
      k.give (.bad (spelt ++ " : decimal ".toList ++ way.toList ++ "flow".toList) true)
        ('0' :: ' ' :: rest)
    else k.give (.number (Floating.ofRawFloat spelt) spelt) rest

/-- A name and what follows it. -/
def Cutting.name (k : Cutting) : Token × Cutting :=
  let raw := k.rest.takeWhile Raw.inName
  let rest := k.rest.drop raw.length
  let name := String.ofList raw
  if name = "length" then
    let after := rest.dropWhile Raw.isBlank
    k.give (if after.head? = some '(' then .builtIn name else .keyword name) rest
  else if keywords.contains name then
    let isPrinting := name == "print" || name == "printf"
    { k with isPrinting := k.isPrinting || isPrinting }.give (.keyword name) rest
  else if (builtIns.lookup name).isSome then k.give (.builtIn name) rest
  else k.give (.name raw (rest.head? = some '(')) rest

/-- A closing brace; `rest` is what follows it. -/
def Cutting.close (k : Cutting) (rest : Raw) : Token × Cutting :=
  if k.braces = 0 then k.give (.bad "extra '\x7d'".toList true) rest
  else if k.last == .newline || k.last == .supplied || k.last == .mark ";" ||
      k.last == .mark "\x7d" then
    let k := { k with braces := k.braces - 1, isPrinting := false, rest }
    let rest := if k.braces = 0 then
        let (after, _) := skipBlanks false false 0 rest
        if after.head? = some ';' then after.drop 1 else rest
      else rest
    let k := { k with rest }.skipLines
    k.give (.mark "\x7d") k.rest
  else ({ k with isPrinting := false }).give .supplied k.rest

/-- The next word. -/
def Cutting.next (k : Cutting) : Token × Cutting :=
  let (rest, lines) := skipBlanks false false 0 k.rest
  let k := { k with rest, line := k.line + lines, wordLine := k.line + lines }
  match rest with
  | [] => k.give .finish []
  | '\n' :: after =>
    let k := { k with rest := after, line := k.line + 1, isPrinting := false }.skipLines
    k.give .newline k.rest
  | '"' :: after =>
    match quoted after with
    | (text, some rest) =>
      { k with line := k.line + text.count '\n' }.give (.text (unescape 0 text)) rest
    | (text, none) =>
      k.give (.bad ("runaway string constant \"".toList ++ text ++ " ...".toList) false) []
  | '/' :: after =>
    if k.last.precedesDivision then
      match after with
      | '=' :: rest => k.give (.mark "/=") rest
      | _ => k.give (.mark "/") after
    else
      match slashed .outside after with
      | (text, some rest) => k.give (.pattern text) rest
      | (text, none) =>
        k.give (.bad ("runaway regular expression /".toList ++ text ++ " ...".toList) false) []
  | '\x7d' :: after => k.close after
  | '>' :: after =>
    if k.isPrinting ∧ k.parentheses = 0 then
      let k := { k with isPrinting := false }
      match after with
      | '>' :: rest => k.give (.outlet ">>") rest
      | _ => k.give (.outlet ">") after
    else
      match after with
      | '=' :: rest => k.give (.mark ">=") rest
      | _ => k.give (.mark ">") after
  | '|' :: after =>
    match after with
    | '|' :: rest =>
      let k := { k with rest }.skipLines
      k.give (.mark "||") k.rest
    | _ =>
      if k.isPrinting ∧ k.parentheses = 0 then
        { k with isPrinting := false }.give (.outlet "|") after
      else k.give (.mark "|") after
  | '(' :: after => { k with parentheses := k.parentheses + 1 }.give (.mark "(") after
  | ')' :: after =>
    if k.parentheses = 0 then k.give (.bad "extra ')'".toList true) after
    else { k with parentheses := k.parentheses - 1 }.give (.mark ")") after
  | c :: after =>
    if c.isDigit ∨ c = '.' then k.number
    else if Raw.startsName c then k.name
    else
      match longMarks.find? fun mark => rest.take 2 == mark.toList with
      | some mark =>
        let k := { k with rest := rest.drop 2 }
        let k := if mark = "&&" then k.skipLines else k
        k.give (.mark mark) k.rest
      | none =>
        if shortMarks.contains c then
          let k := { k with rest := after }
          let k := if c = ';' ∨ c = ',' ∨ c = '\x7b' then k.skipLines else k
          let k := if c = ';' then { k with isPrinting := false }
            else if c = '\x7b' then { k with braces := k.braces + 1 } else k
          k.give (.mark (String.ofList [c])) k.rest
        else k.refuse c after

/-- The words of a script from some place on, the last of which is the end. -/
def tokensFrom : Nat → Cutting → List Placed
  | 0, k => [⟨.finish, k.line⟩]
  | fuel + 1, k =>
    let (token, k) := k.next
    match token with
    | .finish => [⟨.finish, k.wordLine⟩]
    | .bad _ false => [⟨token, k.wordLine⟩]
    | token => ⟨token, k.wordLine⟩ :: tokensFrom fuel k

/-- The words of a script. -/
def tokens (raw : Raw) : List Placed :=
  let raw := raw ++ ['\n']
  let start : Cutting := ⟨raw, 1, 1, .newline, 0, 0, false⟩
  tokensFrom (2 * raw.length + 2) start.skipLines

end Script
end MakeTen
