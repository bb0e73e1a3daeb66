import MakeTen.Regex.Syntax
/-!
# Marks of patterns

Patterns are written in several flavours, which differ in how operators are
marked and in what happens where an operator makes no sense.  A written pattern
is first cut into tokens that mean the same in all flavours.

Main definitions:

- Structure `Regex.Flavour`: how patterns are written.
- Type `Regex.Fault`: what is wrong with a pattern.
- Function `Regex.tokens`: the tokens of a written pattern.
-/

namespace MakeTen
namespace Regex

/-! ## Flavours -/

/-- How patterns are written. -/
structure Flavour where
  /-- Whether operators need no backslash. -/
  isExtended : Bool
  /-- Whether an operator that makes no sense stands for itself or for nothing. -/
  isLenient : Bool
  /-- Whether patterns are part of a script, where a backslash means what it means in
  texts, and braces stand for themselves. -/
  isScript : Bool
  /-- Whether there are more operators, and the first alternative counts. -/
  isOrdered : Bool

namespace Flavour

/-- Operators with backslashes, for searching. -/
def basicSearch : Flavour := ⟨false, true, false, false⟩

/-- Operators without backslashes, for searching. -/
def extendedSearch : Flavour := ⟨true, true, false, false⟩

/-- Operators with backslashes, for editing. -/
def basicEdit : Flavour := ⟨false, false, false, false⟩

/-- Operators without backslashes, for editing. -/
def extendedEdit : Flavour := ⟨true, false, false, false⟩

/-- Patterns of scripts. -/
def script : Flavour := ⟨true, false, true, false⟩

/-- Patterns in which the first alternative counts. -/
def orderedSearch : Flavour := ⟨true, true, false, true⟩

end Flavour

/-! ## Faults -/

/-- What is wrong with a pattern. -/
inductive Fault where
  | openSet
  /-- The pattern ends right after the start of a set. -/
  | emptySet
  | openGroup
  | extraClosing
  | openCount
  | badCount
  | tooBig
  | badRange
  | badClass
  /-- A class of characters stands outside a set. -/
  | classOutside
  | badCollation
  | badReference
  | endingBackslash
  | nothingBefore
  /-- An operator in a script has nothing to work on. -/
  | missingOperand
  | repeatedEdge
  deriving Repr, DecidableEq

/-- The fault in words. -/
def Fault.text : Fault → String
  | .openSet => "Unmatched [, [^, [:, [., or [="
  | .emptySet => "Invalid regular expression"
  | .openGroup => "Unmatched ( or \\("
  | .extraClosing => "Unmatched ) or \\)"
  | .openCount => "Unmatched \\\x7b"
  | .badCount => "Invalid content of \\\x7b\\\x7d"
  | .tooBig => "Regular expression too big"
  | .badRange => "Invalid range end"
  | .badClass => "Invalid character class name"
  | .classOutside => "character class syntax is [[:space:]], not [:space:]"
  | .badCollation => "Invalid collation character"
  | .badReference => "Invalid back reference"
  | .endingBackslash => "Trailing backslash"
  | .nothingBefore => "Invalid preceding regular expression"
  | .missingOperand => "missing operand"
  | .repeatedEdge => "syntax error ^* or ^+"

/-- The fault in the words that are used for scripts. -/
def Fault.scriptText : Fault → String
  | .openGroup => "missing ')'"
  | .openSet => "bad class -- [], [^] or ["
  | .emptySet => "bad class -- [], [^] or ["
  | .badClass => "bad class -- [], [^] or ["
  | fault => fault.text

/-- The fault in the words that are used where the first alternative counts. -/
def Fault.orderedText : Fault → String
  | .openSet => "missing terminating ] for character class"
  | .emptySet => "missing terminating ] for character class"
  | .openGroup => "missing closing parenthesis"
  | .extraClosing => "unmatched closing parenthesis"
  | .badCount => "numbers out of order in \x7b\x7d quantifier"
  | .tooBig => "number too big in \x7b\x7d quantifier"
  | .badRange => "range out of order in character class"
  | .badClass => "unknown POSIX class name"
  | .classOutside => "POSIX named classes are supported only within a class"
  | .badReference => "reference to non-existent subpattern"
  | .endingBackslash => "\\ at end of pattern"
  | .nothingBefore => "quantifier does not follow a repeatable item"
  | fault => fault.text

/-! ## Tokens -/

/-- A part of a written pattern. -/
inductive Token where
  | char (c : Char)
  | any
  | set (s : CharacterSet)
  | edge (e : Edge)
  | opening
  /-- The start of a group that is not counted. -/
  | plainOpening
  | lookOpening (isBehind isNegated : Bool)
  | closing
  | bar
  | times (least : Nat) (most : Option Nat) (isLazy : Bool)
  | back (n : Nat)
  /-- The match starts here. -/
  | keep

/-- Whether nothing that can be repeated comes before what follows a token. -/
def Token.opensPart : Option Token → Bool
  | none => true
  | some .opening => true
  | some .plainOpening => true
  | some (.lookOpening _ _) => true
  | some .bar => true
  | _ => false

/-! ## Sets -/

/-- The number of octal or hexadecimal digits. -/
def digitsValue (base : Nat) (digits : List Char) : Nat :=
  digits.foldl (fun n c =>
    n * base + if c.isDigit then c.toNat - 0x30 else c.toLower.toNat - 0x61 + 10) 0

/-- What an escape of a script stands for after its backslash, and how many
characters it takes. -/
def scriptEscape : List Char → Char × Nat
  | [] => ('\\', 0)
  | c :: rest =>
    let octal := ((c :: rest).take 3).takeWhile fun d => '0' ≤ d && d ≤ '7'
    if octal ≠ [] then (Char.ofNat (digitsValue 8 octal % 256), octal.length)
    else
      match c with
      | 'n' => ('\n', 1)
      | 't' => ('\t', 1)
      | 'r' => ('\r', 1)
      | 'a' => (Char.ofNat 7, 1)
      | 'b' => (Char.ofNat 8, 1)
      | 'f' => (Char.ofNat 12, 1)
      | 'v' => (Char.ofNat 11, 1)
      | c => (c, 1)

/-- The text up to a closing mark and bracket, and what follows. -/
def untilMark (mark : Char) : List Char → Option (List Char × List Char)
  | a :: b :: rest =>
    if a = mark ∧ b = ']' then some ([], rest)
    else (untilMark mark (b :: rest)).map fun (text, rest) => (a :: text, rest)
  | _ => none

/-- One end of a range in a set, or a character by itself, and what follows. -/
def setCharacter (f : Flavour) (raw : List Char) : Except Fault (Char × List Char) :=
  match raw with
  | '[' :: mark :: rest =>
    if ¬ f.isScript ∧ (mark = '.' ∨ mark = '=') then
      match untilMark mark rest with
      | some ([c], rest) => .ok (c, rest)
      | some _ => .error .badCollation
      | none => .error .openSet
    else .ok ('[', mark :: rest)
  | '\\' :: rest =>
    if f.isScript ∨ f.isOrdered then
      let (c, size) := scriptEscape rest
      .ok (c, rest.drop size)
    else .ok ('\\', rest)
  | c :: rest => .ok (c, rest)
  | [] => .error .openSet

/-- The classes that a backslash and a letter stand for in a set. -/
def letterClass? (c : Char) : Option CharacterClass :=
  match c with
  | 'd' => some .digit
  | 'w' => some .word
  | 's' => some .space
  | _ => none

/-- The members of a set up to its end, and what follows. -/
def setMembers (f : Flavour) : Nat → CharacterSet → List Char →
    Except Fault (CharacterSet × List Char)
  | 0, _, _ => .error .openSet
  | fuel + 1, s, raw =>
    match raw with
    | [] => .error .openSet
    | ']' :: rest => .ok (s, rest)
    | '[' :: ':' :: rest =>
      match untilMark ':' rest with
      | none => if f.isScript then
          setMembers f fuel { s with ranges := ('[', '[') :: s.ranges } (':' :: rest)
        else .error .openSet
      | some (name, rest) =>
        match CharacterClass.ofName? (String.ofList name) with
        | some k =>
          let isRange := rest.head? == some '-' && rest.length ≠ 1 && rest[1]? ≠ some ']'
          if f.isScript then setMembers f fuel { s with ranges := k.plainRanges ++ s.ranges } rest
          else if isRange ∧ ¬ f.isOrdered then .error .badRange
          else setMembers f fuel { s with classes := k :: s.classes } rest
        | none => .error .badClass
    | c :: rest => do
      match (if f.isOrdered ∧ c = '\\' then rest.head?.bind letterClass? else none) with
      | some k => setMembers f fuel { s with classes := k :: s.classes } (rest.drop 1)
      | none =>
        let (first, after) ← setCharacter f (c :: rest)
        match after with
        | '-' :: ']' :: _ =>
          setMembers f fuel { s with ranges := (first, first) :: s.ranges } after
        | '-' :: rest =>
          let (last, rest) ← setCharacter f rest
          if last < first then
            if f.isScript then
              setMembers f fuel
                { s with ranges := (first, first) :: ('-', '-') :: (last, last) :: s.ranges } rest
            else .error .badRange
          else
            match rest with
            | '-' :: d :: _ =>
              if d ≠ ']' ∧ ¬ f.isScript ∧ ¬ f.isOrdered then .error .badRange
              else setMembers f fuel { s with ranges := (first, last) :: s.ranges } rest
            | _ => setMembers f fuel { s with ranges := (first, last) :: s.ranges } rest
        | _ => setMembers f fuel { s with ranges := (first, first) :: s.ranges } after

/-- A set after its bracket, and what follows. -/
def readSet (f : Flavour) (raw : List Char) : Except Fault (CharacterSet × List Char) :=
  let (isNegated, body) := match raw with
    | '^' :: rest => (true, rest)
    | _ => (false, raw)
  let start : CharacterSet := ⟨isNegated, [], []⟩
  let fuel := body.length + 1
  match body with
  | [] => .error .emptySet
  | ']' :: rest => setMembers f fuel { start with ranges := [(']', ']')] } rest
  | ':' :: rest =>
    let inner := rest.takeWhile (· ≠ ']')
    if ¬ f.isScript ∧ ¬ isNegated ∧ inner.getLast? = some ':' ∧ inner.length < rest.length then
      .error .classOutside
    else setMembers f fuel start body
  | _ => setMembers f fuel start body

/-! ## Counts -/

/-- Greatest count of repetitions. -/
def countLimit : Nat := 32767

/-- What comes of reading a count. -/
inductive CountReading where
  | count (least : Nat) (most : Option Nat) (rest : List Char)
  /-- It is not closed. -/
  | unclosed
  /-- It holds something that is no count. -/
  | invalid
  /-- It holds no count at all, or one count too many. -/
  | malformed

/-- A count after its brace, and what follows. -/
def readCount (isExtended : Bool) (raw : List Char) : CountReading :=
  let low := raw.takeWhile Char.isDigit
  let afterLow := raw.drop low.length
  let (hasComma, high, rest) := match afterLow with
    | ',' :: rest =>
      let high := rest.takeWhile Char.isDigit
      (true, high, rest.drop high.length)
    | _ => (false, [], afterLow)
  let close : Option (List Char) := match isExtended, rest with
    | true, '\x7d' :: rest => some rest
    | false, '\\' :: '\x7d' :: rest => some rest
    | _, _ => none
  let isClosed := if isExtended then raw.contains '\x7d'
    else (List.range raw.length).any fun i => (raw.drop i).take 2 == ['\\', '\x7d']
  match close with
  | none =>
    if ¬ isClosed then .unclosed
    else if hasComma ∧ rest.head? = some ',' then .malformed
    else .invalid
  | some rest =>
    if low.isEmpty ∧ ¬ hasComma then .malformed
    else
      let least := digitsValue 10 low
      let most := if ¬ hasComma then some least
        else if high.isEmpty then none else some (digitsValue 10 high)
      .count least most rest

/-! ## Cutting -/

/-- A token, the pattern after it, and a warning. -/
structure Cut where
  token : Option Token
  rest : List Char
  warning : Option String

/-- A token without a warning. -/
def Cut.of (token : Token) (rest : List Char) : Cut := ⟨some token, rest, none⟩

/-- A repetition after a token. -/
def cutTimes (f : Flavour) (last : Option Token) (mark : Char) (least : Nat) (most : Option Nat)
    (rest : List Char) : Except Fault Cut :=
  let isEdge := match last with
    | some (.edge .lineStart) => true
    | _ => false
  let isFixed := match last with
    | some (.edge _) => true
    | some (.times _ _ _) => true
    | _ => Token.opensPart last
  let (isLazy, rest) := match f.isOrdered, rest with
    | true, '?' :: rest => (true, rest)
    | true, '+' :: rest => (false, rest)
    | _, rest => (false, rest)
  if f.isOrdered ∧ isFixed then .error .nothingBefore
  else if Token.opensPart last ∨ isEdge then
    if f.isScript then
      .error (if isEdge ∧ (mark = '*' ∨ mark = '+') then .repeatedEdge
        else .missingOperand)
    else if f.isLenient then
      let shown := if mark = '\x7b' then "\x7b...\x7d" else String.ofList [mark]
      .ok ⟨none, rest, some (shown ++ " at start of expression")⟩
    else .error .nothingBefore
  else .ok (.of (.times least most isLazy) rest)

/-- A count of repetitions after its brace; `raw` is the pattern from the brace on. -/
def cutCount (f : Flavour) (last : Option Token) (raw : List Char) : Except Fault Cut :=
  if ¬ f.isExtended ∧ Token.opensPart last then
    if f.isLenient then .ok (.of (.char '\x7b') raw) else .error .nothingBefore
  else
  if f.isOrdered ∧ raw.head? = some ',' then .ok (.of (.char '\x7b') raw)
  else
  match readCount f.isExtended raw with
  | .malformed => .error .badCount
  | .count least most rest =>
    if most.any (· < least) then .error .badCount
    else if countLimit < least ∨ most.any (countLimit < ·) then .error .tooBig
    else if f.isExtended then cutTimes f last '\x7b' least most rest
    else
      match f.isLenient, last with
      | false, some (.times 0 none _) => .error .nothingBefore
      | _, _ => .ok (.of (.times least most false) rest)
  | .unclosed =>
    if f.isExtended ∧ f.isLenient then .ok (.of (.char '\x7b') raw)
    else .error .openCount
  | .invalid =>
    if f.isExtended ∧ f.isLenient then .ok (.of (.char '\x7b') raw)
    else .error .badCount

/-- A token that a letter after a backslash stands for, in all flavours but those of
scripts. -/
def letterToken? (c : Char) : Option Token :=
  match c with
  | '<' => some (.edge .wordStart)
  | '>' => some (.edge .wordEnd)
  | 'b' => some (.edge .wordEdge)
  | 'B' => some (.edge .noWordEdge)
  | '\x60' => some (.edge .textStart)
  | '\'' => some (.edge .textEnd)
  | 'w' => some (.set ⟨false, [], [.word]⟩)
  | 'W' => some (.set ⟨true, [], [.word]⟩)
  | 's' => some (.set ⟨false, [], [.space]⟩)
  | 'S' => some (.set ⟨true, [], [.space]⟩)
  | _ => none

/-- A token of the ordered flavour that a backslash starts, and what follows. -/
def orderedEscape (raw : List Char) : Token × List Char :=
  match raw with
  | 'd' :: rest => (.set ⟨false, [], [.digit]⟩, rest)
  | 'D' :: rest => (.set ⟨true, [], [.digit]⟩, rest)
  | 'h' :: rest => (.set ⟨false, [], [.blank]⟩, rest)
  | 'H' :: rest => (.set ⟨true, [], [.blank]⟩, rest)
  | 'K' :: rest => (.keep, rest)
  | 'N' :: rest => (.any, rest)
  | 'A' :: rest => (.edge .textStart, rest)
  | 'z' :: rest => (.edge .textEnd, rest)
  | 'Z' :: rest => (.edge .textEnd, rest)
  | 'x' :: rest =>
    let digits := (rest.take 2).takeWhile CharacterClass.xdigit.holds
    (.char (Char.ofNat (digitsValue 16 digits)), rest.drop digits.length)
  | 'n' :: rest => (.char '\n', rest)
  | 't' :: rest => (.char '\t', rest)
  | 'r' :: rest => (.char '\r', rest)
  | 'f' :: rest => (.char (Char.ofNat 12), rest)
  | 'e' :: rest => (.char (Char.ofNat 27), rest)
  | 'a' :: rest => (.char (Char.ofNat 7), rest)
  | c :: rest => (.char c, rest)
  | [] => (.char '\\', [])

/-- A token that a backslash starts; `raw` is what follows the backslash. -/
def cutEscape (f : Flavour) (last : Option Token) (raw : List Char) : Except Fault Cut :=
  match raw with
  | [] => if f.isScript then .ok (.of (.char '\\') []) else .error .endingBackslash
  | c :: rest =>
    if f.isScript then
      let (d, size) := scriptEscape raw
      .ok (.of (.char d) (raw.drop size))
    else if '1' ≤ c ∧ c ≤ '9' then .ok (.of (.back (c.toNat - 0x30)) rest)
    else
      match letterToken? c with
      | some token => .ok (.of token rest)
      | none =>
        if f.isOrdered then
          let (token, rest) := orderedEscape raw
          .ok (.of token rest)
        else if f.isExtended then .ok (.of (.char c) rest)
        else
          match c with
          | '(' => .ok (.of .opening rest)
          | ')' => .ok (.of .closing rest)
          | '|' => .ok (.of .bar rest)
          | '\x7b' => cutCount f last rest
          | '+' =>
            if Token.opensPart last then .ok (.of (.char '+') rest)
            else .ok (.of (.times 1 none false) rest)
          | '?' =>
            if Token.opensPart last then .ok (.of (.char '?') rest)
            else .ok (.of (.times 0 (some 1) false) rest)
          | c => .ok (.of (.char c) rest)

/-- The token at the head of a pattern; `last` is the one before. -/
def cut (f : Flavour) (last : Option Token) (c : Char) (rest : List Char) : Except Fault Cut := do
  match c with
  | '\\' => cutEscape f last rest
  | '.' => return .of .any rest
  | '[' =>
    let (s, rest) ← readSet f rest
    return .of (.set s) rest
  | '*' =>
    if f.isExtended then cutTimes f last '*' 0 none rest
    else
      match last with
      | some (.edge .lineStart) => return .of (.char '*') rest
      | some (.times least most _) =>
        if ¬ f.isLenient ∧ ¬ (least = 0 ∧ most = some 1) then throw .nothingBefore
        else return .of (.times 0 none false) rest
      | last =>
        return if Token.opensPart last then .of (.char '*') rest
          else .of (.times 0 none false) rest
  | '^' =>
    return if f.isExtended ∨ Token.opensPart last then .of (.edge .lineStart) rest
      else .of (.char '^') rest
  | '$' =>
    let endsPart := rest.isEmpty || rest.take 2 == ['\\', ')'] || rest.take 2 == ['\\', '|']
    return if f.isExtended ∨ endsPart then .of (.edge .lineEnd) rest else .of (.char '$') rest
  | c =>
    if ¬ f.isExtended then return .of (.char c) rest
    else
      match c with
      | '(' =>
        match f.isOrdered, rest with
        | true, '?' :: ':' :: rest => return .of .plainOpening rest
        | true, '?' :: '=' :: rest => return .of (.lookOpening false false) rest
        | true, '?' :: '!' :: rest => return .of (.lookOpening false true) rest
        | true, '?' :: '<' :: '=' :: rest => return .of (.lookOpening true false) rest
        | true, '?' :: '<' :: '!' :: rest => return .of (.lookOpening true true) rest
        | _, rest => return .of .opening rest
      | ')' => return .of .closing rest
      | '|' => return .of .bar rest
      | '+' => cutTimes f last '+' 1 none rest
      | '?' => cutTimes f last '?' 0 (some 1) rest
      | '\x7b' => if f.isScript then return .of (.char c) rest else cutCount f last rest
      | c => return .of (.char c) rest

/-- The tokens of a pattern after a token, with warnings. -/
def tokensAfter (f : Flavour) : Nat → Option Token → List Char →
    Except Fault (List Token × List String)
  | 0, _, _ => .ok ([], [])
  | fuel + 1, last, raw =>
    match raw with
    | [] => .ok ([], [])
    | c :: rest => do
      let found ← cut f last c rest
      let next := match found.token with
        | some token => some token
        | none => last
      let (more, warnings) ← tokensAfter f fuel next found.rest
      return (found.token.toList ++ more, found.warning.toList ++ warnings)

/-- The tokens of a written pattern, with warnings. -/
def tokens (f : Flavour) (raw : List Char) : Except Fault (List Token × List String) :=
  tokensAfter f (raw.length + 1) none raw

end Regex
end MakeTen
