import MakeTen.Json.Token
/-!
# TOML scalars

Strings, numbers and moments at the head of a text.  Every reader gives back
the text after what it has read, and nothing if the text does not start that
way.

Main definitions:

- Functions `Toml.readBasic`, `Toml.readLiteral` and their many-line forms.
- Function `Toml.readNumber`: integers and numbers with a fraction.
- Function `Toml.readMoment`: dates and times.
-/

namespace MakeTen
namespace Toml

/-! ## Characters -/

/-- Blanks inside a line. -/
def isSpace (c : Char) : Bool :=
  c == ' ' || c == '\t'

/-- Characters that may stand in comments and literal strings: the tab and all
that are no control characters. -/
def isPrintable (c : Char) : Bool :=
  c == '\t' || (0x20 ≤ c.toNat && c.toNat != 0x7F)

/-- The line ending at the head of a text. -/
def readNewline : List Char → Option (List Char)
  | '\n' :: rest => some rest
  | '\r' :: '\n' :: rest => some rest
  | _ => none

/-! ## Strings -/

/-- The character with a number, if there is one. -/
def scalar? (n : Nat) : Option Char :=
  if n.isValidChar then some (Char.ofNat n) else none

/-- Value of some hexadecimal digits. -/
def hexValue? (digits : List Char) : Option Nat :=
  digits.foldlM (fun n d => (Json.hexValue? d).map (n * 16 + ·)) 0

/-- The character of a short escape. -/
def shortEscape? : Char → Option Char
  | 'b' => some (Char.ofNat 0x08)
  | 't' => some '\t'
  | 'n' => some '\n'
  | 'f' => some (Char.ofNat 0x0C)
  | 'r' => some '\r'
  | '"' => some '"'
  | '\\' => some '\\'
  | _ => none

/-- The character of an escape after its backslash, when the rest of the text
has at least as many characters as the escape needs. -/
def readEscape : List Char → Option (Char × Nat)
  | 'u' :: a :: b :: c :: d :: _ => do
    let c ← scalar? (← hexValue? [a, b, c, d])
    return (c, 5)
  | 'U' :: a :: b :: c :: d :: e :: f :: g :: h :: _ => do
    let c ← scalar? (← hexValue? [a, b, c, d, e, f, g, h])
    return (c, 9)
  | e :: _ => do
    let c ← shortEscape? e
    return (c, 1)
  | [] => none

/-- A basic string after its opening quote.  `skip` characters belong to an
escape already read. -/
def readBasicAfter (skip : Nat) : List Char → Option (List Char × List Char)
  | [] => none
  | c :: rest =>
    match skip with
    | n + 1 => readBasicAfter n rest
    | 0 =>
      if c = '"' then some ([], rest)
      else if c = '\\' then do
        let (e, size) ← readEscape rest
        let (cs, rest) ← readBasicAfter size rest
        return (e :: cs, rest)
      else if isPrintable c then do
        let (cs, rest) ← readBasicAfter 0 rest
        return (c :: cs, rest)
      else none

/-- A basic string after its opening quote. -/
def readBasic (cs : List Char) : Option (List Char × List Char) :=
  readBasicAfter 0 cs

/-- A literal string after its opening quote. -/
def readLiteral : List Char → Option (List Char × List Char)
  | [] => none
  | c :: rest =>
    if c = '\'' then some ([], rest)
    else if isPrintable c then do
      let (cs, rest) ← readLiteral rest
      return (c :: cs, rest)
    else none

/-- A text without a line ending at its head. -/
def dropNewline (cs : List Char) : List Char :=
  (readNewline cs).getD cs

/-- What follows three quotes inside a many-line string: at most two more of
them belong to the string, and then the string is over. -/
def closeMany (quote : Char) : List Char → List Char × List Char
  | a :: b :: rest =>
    if a = quote then
      if b = quote then ([quote, quote], rest) else ([quote], b :: rest)
    else ([], a :: b :: rest)
  | [a] => if a = quote then ([quote], []) else ([], [a])
  | [] => ([], [])

/-- What the next characters of a many-line basic string are. -/
inductive ManyMode where
  /-- The next `n` characters have been dealt with. -/
  | skipping (n : Nat)
  /-- Blanks and line endings are left out, after a backslash at a line's end. -/
  | trimming

/-- How to go on after a character that the mode leaves out. -/
def ManyMode.pass? (mode : ManyMode) (c : Char) (rest : List Char) : Option ManyMode :=
  match mode with
  | .skipping 0 => none
  | .skipping (n + 1) => some (.skipping n)
  | .trimming =>
    if isSpace c ∨ (readNewline (c :: rest)).isSome then some .trimming else none

/-- Whether a backslash stands at the end of its line, blanks aside. -/
def endsLine (cs : List Char) : Bool :=
  (readNewline (cs.dropWhile isSpace)).isSome

/-- A many-line basic string after its opening quotes, with the next characters
taken as `mode` says. -/
def readManyBasicIn (mode : ManyMode) : List Char → Option (List Char × List Char)
  | [] => none
  | c :: rest =>
    match mode.pass? c rest with
    | some mode => readManyBasicIn mode rest
    | none =>
      if c = '"' ∧ rest.take 2 = ['"', '"'] then some (closeMany '"' (rest.drop 2))
      else if c = '\\' then
        if endsLine rest then readManyBasicIn .trimming rest
        else do
          let (e, size) ← readEscape rest
          let (cs, rest) ← readManyBasicIn (.skipping size) rest
          return (e :: cs, rest)
      else if (readNewline (c :: rest)).isSome then do
        let (cs, rest) ← readManyBasicIn (.skipping (if c = '\r' then 1 else 0)) rest
        return ('\n' :: cs, rest)
      else if isPrintable c then do
        let (cs, rest) ← readManyBasicIn (.skipping 0) rest
        return (c :: cs, rest)
      else none

/-- A many-line basic string after its opening quotes.  A line ending directly
after them is left out. -/
def readManyBasic (cs : List Char) : Option (List Char × List Char) :=
  readManyBasicIn (.skipping 0) (dropNewline cs)

/-- A many-line literal string after its opening quotes. -/
def readManyLiteralAfter : List Char → Option (List Char × List Char)
  | [] => none
  | '\'' :: '\'' :: '\'' :: rest => some (closeMany '\'' rest)
  | '\r' :: '\n' :: rest => do
    let (cs, rest) ← readManyLiteralAfter rest
    return ('\n' :: cs, rest)
  | c :: rest =>
    if isPrintable c ∨ c = '\n' then do
      let (cs, rest) ← readManyLiteralAfter rest
      return (c :: cs, rest)
    else none

/-- A many-line literal string after its opening quotes.  A line ending directly
after them is left out. -/
def readManyLiteral (cs : List Char) : Option (List Char × List Char) :=
  readManyLiteralAfter (dropNewline cs)

/-- A string of any kind at the head of a text. -/
def readString : List Char → Option (List Char × List Char)
  | '"' :: '"' :: '"' :: rest => readManyBasic rest
  | '"' :: rest => readBasic rest
  | '\'' :: '\'' :: '\'' :: rest => readManyLiteral rest
  | '\'' :: rest => readLiteral rest
  | _ => none

/-! ## Numbers -/

/-- Digits with single underscores between them, at least one digit.  The first
argument says what a digit is. -/
def readDigits (isDigit : Char → Bool) : List Char → Option (List Char × List Char)
  | [] => none
  | [c] => if isDigit c then some ([c], []) else none
  | c :: '_' :: rest =>
    if isDigit c then do
      let (digits, rest) ← readDigits isDigit rest
      return (c :: digits, rest)
    else none
  | c :: d :: rest =>
    if isDigit c then
      if isDigit d then do
        let (digits, rest) ← readDigits isDigit (d :: rest)
        return (c :: digits, rest)
      else some ([c], d :: rest)
    else none

/-- Whether a character is a digit of a base. -/
def isDigitOf (base : Nat) (c : Char) : Bool :=
  match Json.hexValue? c with
  | some n => n < base
  | none => false

/-- Value of some digits of a base. -/
def digitsValue (base : Nat) (digits : List Char) : Nat :=
  digits.foldl (fun n d => n * base + (Json.hexValue? d).getD 0) 0

/-- A decimal whole part: a single zero, or digits that start with none. -/
def readWhole : List Char → Option (List Char × List Char)
  | '0' :: rest => some (['0'], rest)
  | cs => readDigits (isDigitOf 10) cs

/-- Least number that is too great for a signed word of 64 bits. -/
def integerBound : Nat := UInt64.size / 2

/-- An integer, if it fits a signed word of 64 bits. -/
def fitting? (negative : Bool) (n : Nat) : Option Int :=
  if negative then
    if n ≤ integerBound then some (-(n : Int)) else none
  else if n < integerBound then some n
  else none

/-- A number at the head of a text. -/
inductive Number where
  | integer (n : Int)
  | float

/-- Least whole number that rounds to infinity as a number with 53 binary
places: half a place above the greatest finite one. -/
def overflowBound : Nat := Nat.pow 2 1024 - Nat.pow 2 970

/-- Whether `mantissa * 10 ^ exponent` rounds to infinity.  The number of digits
decides all but the close cases. -/
def overflows (mantissa : Nat) (exponent : Int) : Bool :=
  if mantissa = 0 then false
  else
    let magnitude := ((Nat.toDigits 10 mantissa).length : Int) + exponent
    if magnitude < 308 then false
    else if 310 < magnitude then true
    else if 0 ≤ exponent then overflowBound ≤ mantissa * Nat.pow 10 exponent.toNat
    else overflowBound * Nat.pow 10 (-exponent).toNat ≤ mantissa

/-- The fraction after a whole part, if there is one. -/
def readFraction : List Char → Option (Option (List Char) × List Char)
  | '.' :: rest => do
    let (digits, rest) ← readDigits (isDigitOf 10) rest
    return (some digits, rest)
  | cs => some (none, cs)

/-- The exponent of a number, if there is one. -/
def readExponent : List Char → Option (Option Int × List Char)
  | c :: rest =>
    if c = 'e' ∨ c = 'E' then do
      let (sign, rest) := Json.readSign rest
      let (digits, rest) ← readDigits (isDigitOf 10) rest
      let n : Int := digitsValue 10 digits
      return (some (if sign = ['-'] then -n else n), rest)
    else some (none, c :: rest)
  | [] => some (none, [])

/-- A decimal number after its sign. -/
def readDecimal (negative : Bool) (cs : List Char) : Option (Number × List Char) := do
  let (whole, rest) ← readWhole cs
  let (fraction, rest) ← readFraction rest
  let (exponent, rest) ← readExponent rest
  match fraction, exponent with
  | none, none => return (.integer (← fitting? negative (digitsValue 10 whole)), rest)
  | _, _ =>
    let places := fraction.getD []
    let mantissa := digitsValue 10 (whole ++ places)
    if !negative && overflows mantissa (exponent.getD 0 - places.length) then none
    else return (.float, rest)

/-- An integer after the mark of its base. -/
def readBased (base : Nat) (cs : List Char) : Option (Number × List Char) := do
  let (digits, rest) ← readDigits (isDigitOf base) cs
  return (.integer (← fitting? false (digitsValue base digits)), rest)

/-- A number after its sign. -/
def readUnsigned (negative : Bool) : List Char → Option (Number × List Char)
  | 'i' :: 'n' :: 'f' :: rest => some (.float, rest)
  | 'n' :: 'a' :: 'n' :: rest => some (.float, rest)
  | cs => readDecimal negative cs

/-- A number at the head of a text. -/
def readNumber : List Char → Option (Number × List Char)
  | '+' :: rest => readUnsigned false rest
  | '-' :: rest => readUnsigned true rest
  | '0' :: 'x' :: rest => readBased 16 rest
  | '0' :: 'o' :: rest => readBased 8 rest
  | '0' :: 'b' :: rest => readBased 2 rest
  | cs => readUnsigned false cs

/-! ## Moments -/

/-- Two decimal digits with a value in a range. -/
def readTwo (low high : Nat) : List Char → Option (Nat × List Char)
  | a :: b :: rest =>
    if a.isDigit ∧ b.isDigit then
      let n := digitsValue 10 [a, b]
      if low ≤ n ∧ n ≤ high then some (n, rest) else none
    else none
  | _ => none

/-- A certain character. -/
def readChar (c : Char) : List Char → Option (List Char)
  | d :: rest => if d = c then some rest else none
  | [] => none

/-- Number of days of a month. -/
def daysOf (year month : Nat) : Nat :=
  if month = 2 then
    if year % 400 = 0 ∨ (year % 4 = 0 ∧ year % 100 ≠ 0) then 29 else 28
  else if month = 4 ∨ month = 6 ∨ month = 9 ∨ month = 11 then 30
  else 31

/-- Whether a text starts like a date: four digits and a hyphen. -/
def startsDate : List Char → Bool
  | a :: b :: c :: d :: '-' :: _ => a.isDigit && b.isDigit && c.isDigit && d.isDigit
  | _ => false

/-- Whether a text starts like a time: two digits and a colon. -/
def startsTime : List Char → Bool
  | a :: b :: ':' :: _ => a.isDigit && b.isDigit
  | _ => false

/-- A date. -/
def readDate : List Char → Option (List Char)
  | a :: b :: c :: d :: '-' :: rest => do
    let year := digitsValue 10 [a, b, c, d]
    let (month, rest) ← readTwo 1 12 rest
    let rest ← readChar '-' rest
    let (_, rest) ← readTwo 1 (daysOf year month) rest
    return rest
  | _ => none

/-- A time of day, with an optional fraction of a second. -/
def readTime (cs : List Char) : Option (List Char) := do
  let (_, rest) ← readTwo 0 23 cs
  let rest ← readChar ':' rest
  let (_, rest) ← readTwo 0 59 rest
  let rest ← readChar ':' rest
  let (_, rest) ← readTwo 0 60 rest
  match rest with
  | '.' :: more => do
    let (_, rest) ← Json.readDigits more
    return rest
  | _ => return rest

/-- The offset of a time zone, if there is one. -/
def readOffset : List Char → Option (List Char)
  | 'Z' :: rest => some rest
  | 'z' :: rest => some rest
  | c :: rest =>
    if c = '+' ∨ c = '-' then do
      let (_, rest) ← readTwo 0 23 rest
      let rest ← readChar ':' rest
      let (_, rest) ← readTwo 0 59 rest
      return rest
    else some (c :: rest)
  | [] => some []

/-- A date with an optional time and an optional zone. -/
def readDateTime (cs : List Char) : Option (List Char) := do
  let rest ← readDate cs
  match rest with
  | c :: more =>
    if c = 'T' ∨ c = 't' ∨ c = ' ' then
      match readTime more with
      | some rest => readOffset rest
      | none => some rest
    else some rest
  | [] => some []

/-- A moment at the head of a text that starts like one. -/
def readMoment (cs : List Char) : Option (List Char) :=
  if startsDate cs then readDateTime cs else readTime cs

end Toml
end MakeTen
