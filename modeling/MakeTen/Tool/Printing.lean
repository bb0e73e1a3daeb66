import MakeTen.Number.FloatText
import MakeTen.Text.Quoting
/-!
# Printing

The two utilities that print their arguments.  The shell has its own versions
of them, and the programs of the same names differ in what backslashes do.

Main definitions:

- Type `Tool.Dialect`: whose version is meant.
- Function `Tool.echo`: arguments with blanks between them.
- Function `Tool.printf`: arguments put into a format.
-/

namespace MakeTen
namespace Tool

/-- Whose version of a utility is meant. -/
inductive Dialect where
  /-- The one built into the shell. -/
  | shell
  /-- The program. -/
  | program
  deriving Repr, DecidableEq

/-! ## Backslashes -/

/-- The byte that octal digits stand for. -/
def octalByte (digits : Raw) : Char :=
  Char.ofNat (Raw.valueIn 8 digits % 256)

/-- The byte of a letter after a backslash. -/
def controlOf? (d : Dialect) : Char → Option Char
  | 'a' => some (Char.ofNat 7)
  | 'b' => some (Char.ofNat 8)
  | 'f' => some (Char.ofNat 12)
  | 'n' => some '\n'
  | 'r' => some '\r'
  | 't' => some '\t'
  | 'v' => some (Char.ofNat 11)
  | '\\' => some '\\'
  | 'e' => some (Char.ofNat 27)
  | '"' => if d = .program then some '"' else none
  | _ => none

/-- What an escape after its backslash stands for, and how many characters it
takes.  Anything else leaves the backslash alone. -/
def escapeOf (d : Dialect) (raw : Raw) : Raw × Nat :=
  let octal := (raw.take 3).takeWhile Raw.isOctal
  if octal ≠ [] then ([octalByte octal], octal.length)
  else
    match raw with
    | 'x' :: rest =>
      let digits := (rest.take 2).takeWhile Raw.isHexadecimal
      if d = .program ∧ digits ≠ [] then
        ([Char.ofNat (Raw.valueIn 16 digits)], digits.length + 1)
      else (['\\'], 0)
    | c :: _ =>
      match controlOf? d c with
      | some control => ([control], 1)
      | none => (['\\'], 0)
    | [] => (['\\'], 0)

/-- The character whose number an escape gives in four or eight hexadecimal digits.
One beyond ASCII stays an escape. -/
def numberedCharacter (digits : Raw) : Raw :=
  let n := Raw.valueIn 16 digits
  if n < 128 then [Char.ofNat n]
  else if n < 0x10000 then "\\u".toList ++ Raw.padStart 4 '0' (Raw.digits 16 n |>.map Char.toUpper)
  else "\\U".toList ++ Raw.padStart 8 '0' (Raw.digits 16 n |>.map Char.toUpper)

/-- A text with its escapes replaced, and whether an escape ends all output.
Octal escapes may have a zero in front of their three digits.  `skip`
characters belong to an escape already replaced. -/
def unescapeAfter (d : Dialect) (skip : Nat) : Raw → Raw × Bool
  | [] => ([], false)
  | c :: rest =>
    match skip with
    | n + 1 => unescapeAfter d n rest
    | 0 =>
      if c = '\\' then
        match rest with
        | 'c' :: _ => ([], true)
        | _ =>
          let zero := rest.head? = some '0' ∧ ((rest.drop 1).head?.any Raw.isOctal)
          let (text, size) := escapeOf d (if zero then rest.drop 1 else rest)
          let (more, stops) := unescapeAfter d (if zero then size + 1 else size) rest
          (text ++ more, stops)
      else
        let (more, stops) := unescapeAfter d 0 rest
        (c :: more, stops)

/-- A text with its escapes replaced, and whether an escape ends all output. -/
def unescape (d : Dialect) (raw : Raw) : Raw × Bool :=
  if raw.contains '\\' then unescapeAfter d 0 raw else (raw, false)

/-! ## Arguments with blanks between them -/

/-- The options that the program accepts before its arguments: whether the line
end is left out, whether escapes are replaced, and the arguments. -/
def echoOptions (noEnd escapes : Bool) : List Raw → Bool × Bool × List Raw
  | [] => (noEnd, escapes, [])
  | argument :: rest =>
    match argument with
    | '-' :: letters =>
      if letters ≠ [] ∧ letters.all (fun c => c == 'n' || c == 'e' || c == 'E') then
        let escapes := letters.foldl
          (fun e c => if c = 'e' then true else if c = 'E' then false else e) escapes
        echoOptions (noEnd || letters.contains 'n') escapes rest
      else (noEnd, escapes, argument :: rest)
    | _ => (noEnd, escapes, argument :: rest)

/-- The arguments with blanks between them and a line end. -/
def echo (d : Dialect) (arguments : List Raw) : Raw :=
  let (noEnd, escapes, arguments) := match d with
    | .program => echoOptions false false arguments
    | .shell =>
      match arguments with
      | ['-', 'n'] :: rest => (true, true, rest)
      | _ => (false, true, arguments)
  let text := Raw.join [' '] arguments
  let (text, stops) := if escapes then unescape d text else (text, false)
  if noEnd ∨ stops then text else text ++ ['\n']

/-! ## Formats -/

/-- A conversion of a format. -/
structure Conversion where
  leftAligned : Bool
  zeroFilled : Bool
  signed : Bool
  spaced : Bool
  alternate : Bool
  width : Nat
  precision : Option Nat
  kind : Char

/-- A text filled up to the width of a conversion. -/
def Conversion.fill (k : Conversion) (raw : Raw) : Raw :=
  let blanks := List.replicate (k.width - raw.length) ' '
  if k.leftAligned then raw ++ blanks else blanks ++ raw

/-- Digits with their sign, filled up to the width and precision of a
conversion. -/
def Conversion.fillNumber (k : Conversion) (sign digits : Raw) : Raw :=
  let digits := match k.precision with
    | some 0 => if digits = ['0'] then [] else digits
    | some p => List.replicate (p - digits.length) '0' ++ digits
    | none =>
      if k.zeroFilled ∧ ¬ k.leftAligned then
        List.replicate (k.width - sign.length - digits.length) '0' ++ digits
      else digits
  k.fill (sign ++ digits)

/-- What is wrong with a format or one of its arguments. -/
inductive FormatFault where
  /-- An argument is no number. -/
  | notNumber (text : Raw)
  /-- An argument is a number with something after it. -/
  | notWhole (text : Raw)
  /-- An argument is a number that is too large or too small. -/
  | tooLarge (text : Raw)
  /-- A conversion is not known. -/
  | badConversion (text : Raw)
  /-- The format ends inside a conversion, which is given. -/
  | missingLetter (text : Raw)
  /-- An escape lacks its digits. -/
  | missingDigits
  /-- Arguments are left over, the first of which is given. -/
  | excess (text : Raw)
  /-- Something follows a character whose number is asked for. -/
  | ignored (text : Raw)

/-- Whether a fault leaves the rest of the output as it is. -/
def FormatFault.isWarning : FormatFault → Bool
  | .excess _ => true
  | .ignored _ => true
  | _ => false

/-- Whether a fault ends all output. -/
def FormatFault.isFatal : FormatFault → Bool
  | .badConversion _ => true
  | .missingLetter _ => true
  | .missingDigits => true
  | _ => false

/-- A part of an argument that stands for a number. -/
structure Numeral where
  value : Int
  /-- What follows the number. -/
  rest : Raw
  /-- Whether there is any digit. -/
  isNumber : Bool
  /-- What follows a character whose number is asked for. -/
  ignored : Option Raw

/-- The number of the character at the head of a text, and what follows it. -/
def characterNumber (raw : Raw) : Nat × Raw :=
  ((raw.head?.map Char.toNat).getD 0, raw.drop 1)

/-- The number at the head of an argument.  Hexadecimal and octal marks are
known, and a quote in front asks for the number of a character. -/
def readNumeral (d : Dialect) (argument : Raw) : Numeral :=
  let trimmed := argument.dropWhile Raw.isSpace
  let (sign, digits) := match trimmed with
    | '-' :: rest => ((-1 : Int), rest)
    | '+' :: rest => (1, rest)
    | _ => (1, trimmed)
  let based (base : Nat) (isDigit : Char → Bool) (digits : Raw) : Numeral :=
    let valid := digits.takeWhile isDigit
    ⟨sign * (Raw.valueIn base valid : Nat),
      digits.drop valid.length, !valid.isEmpty, none⟩
  let hexadecimal (rest : Raw) : Numeral :=
    if rest.head?.any Raw.isHexadecimal then based 16 Raw.isHexadecimal rest
    else ⟨0, digits.drop 1, true, none⟩
  let character (text : Raw) : Numeral :=
    let (n, rest) := characterNumber text
    ⟨n, [], true, if d = .program ∧ ¬ rest.isEmpty then some rest else none⟩
  match argument with
  | '\'' :: c :: rest => character (c :: rest)
  | '"' :: c :: rest => character (c :: rest)
  | _ =>
    match digits with
    | '0' :: 'x' :: rest => hexadecimal rest
    | '0' :: 'X' :: rest => hexadecimal rest
    | '0' :: rest => based 8 Raw.isOctal ('0' :: rest)
    | _ => based 10 Char.isDigit digits

/-- The fault of an argument that stands for a number, if there is one.  The
shell looks at what follows the number first, the program at its size. -/
def numberFaults (d : Dialect) (argument : Raw) (isNumber isOutOfRange : Bool) (rest : Raw) :
    List FormatFault :=
  let isPartial := !rest.isEmpty
  if argument.isEmpty then []
  else if ¬ isNumber then [.notNumber argument]
  else if isPartial ∧ (d = .shell ∨ ¬ isOutOfRange) then [.notWhole argument]
  else if isOutOfRange then [.tooLarge argument]
  else []

/-- The number that an argument stands for when it has to lie between two
bounds, and what is wrong with it. -/
def boundedNumber (d : Dialect) (low high : Int) (argument : Raw) : Int × List FormatFault :=
  let n := readNumeral d argument
  if argument.isEmpty ∨ ¬ n.isNumber then (0, numberFaults d argument n.isNumber false n.rest)
  else
    let value := max low (min high n.value)
    (value, numberFaults d argument true (value != n.value) n.rest ++
      n.ignored.toList.map .ignored)

/-- A width or precision at the head of a format, what follows it, the arguments
that are left, and what is wrong. -/
structure Count where
  number : Option Int
  format : Raw
  arguments : List Raw
  faults : List FormatFault

/-- The width or precision at the head of a format: digits, or a star that takes
an argument. -/
def readCount (d : Dialect) (format : Raw) (arguments : List Raw) : Count :=
  match format with
  | '*' :: rest =>
    let argument := arguments.head?.getD []
    let (n, faults) := boundedNumber d (-Raw.numberBound) (Raw.numberBound - 1) argument
    ⟨some (Int.bmod n UInt32.size), rest, arguments.drop 1, faults⟩
  | _ =>
    let digits := format.takeWhile Char.isDigit
    ⟨(Raw.toNat? digits).map Int.ofNat, format.drop digits.length, arguments, []⟩

/-- Letters that the program skips in front of the letter of a conversion. -/
def isSizeLetter (c : Char) : Bool :=
  c == 'h' || c == 'l' || c == 'L' || c == 'j' || c == 't' || c == 'z'

/-- A conversion after its percent sign, what follows it, the arguments that are
left, and what is wrong with its width and precision. -/
def readConversion (d : Dialect) (format : Raw) (arguments : List Raw) :
    Option (Conversion × Raw × List Raw × List FormatFault) :=
  let isFlag (c : Char) : Bool := ("-0+ #".toList.contains c) ||
    (d == .program && (c == '\'' || c == 'I'))
  let flags := format.takeWhile isFlag
  let width := readCount d (format.drop flags.length) arguments
  let precision := match width.format with
    | '.' :: rest => readCount d rest width.arguments
    | rest => ⟨some (-1), rest, width.arguments, []⟩
  let digits := precision.number.getD 0
  let letters := if d = .program then precision.format.dropWhile isSizeLetter
    else precision.format
  match letters with
  | kind :: rest =>
    let n := width.number.getD 0
    some (⟨flags.contains '-' || n < 0, flags.contains '0', flags.contains '+',
      flags.contains ' ', flags.contains '#', n.natAbs,
      if digits < 0 then none else some digits.toNat, kind⟩,
      rest, precision.arguments, width.faults ++ precision.faults)
  | [] => none

/-- What printing comes to. -/
structure Printed where
  output : Raw
  /-- What is wrong, in the order in which it turns up. -/
  faults : List FormatFault
  /-- Whether an escape or a fault ended all output. -/
  stopped : Bool

/-- Nothing printed. -/
def Printed.nothing : Printed := ⟨[], [], false⟩

/-- A text printed. -/
def Printed.text (raw : Raw) : Printed := ⟨raw, [], false⟩

/-- A fault that ends all output. -/
def Printed.failed (fault : FormatFault) : Printed := ⟨[], [fault], true⟩

/-- The sign that a conversion puts in front of a number. -/
def Conversion.sign (k : Conversion) (n : Int) : Raw :=
  if n < 0 then ['-'] else if k.signed then ['+'] else if k.spaced then [' '] else []

/-- A number with its sign. -/
def Conversion.applySigned (k : Conversion) (d : Dialect) (argument : Raw) : Printed :=
  let (n, faults) := boundedNumber d (-Raw.numberBound) (Raw.numberBound - 1) argument
  ⟨k.fillNumber (k.sign n) (Raw.ofNat n.natAbs), faults, false⟩

/-- A number without a sign; one below zero is brought into the range of 64 bits. -/
def Conversion.applyUnsigned (k : Conversion) (d : Dialect) (digits : Nat → Raw) (lead : Raw)
    (argument : Raw) : Printed :=
  let (n, faults) := boundedNumber d (1 - Raw.wordSize) (Raw.wordSize - 1) argument
  let n := if faults.isEmpty ∨ 0 ≤ n then (n % Raw.wordSize).toNat else (Raw.wordSize - 1).toNat
  ⟨k.fillNumber (if k.alternate ∧ n ≠ 0 then lead else []) (digits n), faults, false⟩

/-- A floating number in the style of a conversion. -/
def Conversion.applyFloating (k : Conversion) (d : Dialect) (argument : Raw) : Printed :=
  let format : FloatFormat := match d with
    | .shell => .double
    | .program => .extended
  let isCharacter : Bool := match argument with
    | c :: _ :: _ => c == '\'' || c == '"'
    | _ => false
  let reading : FloatFormat.Reading :=
    if isCharacter then
      ⟨format.ofInt (characterNumber (argument.drop 1)).1, [], true, false⟩
    else format.read argument
  let x := reading.value
  let places := k.precision.getD 6
  let body := match k.kind.toLower with
    | 'f' => x.fixed places k.alternate
    | 'e' => x.scientific places k.alternate
    | 'g' => x.general places k.alternate
    | _ => x.hexadecimal format k.precision k.alternate
  let body := if k.kind.isUpper then body.map Char.toUpper else body
  let sign := k.sign (if x.isNegative then -1 else 0)
  let body :=
    if k.zeroFilled ∧ ¬ k.leftAligned ∧ x.isFinite then
      let head := if k.kind.toLower = 'a' then body.take 2 else []
      head ++ Raw.padStart (k.width - sign.length - head.length) '0' (body.drop head.length)
    else body
  ⟨k.fill (sign ++ body),
    numberFaults d argument reading.isNumber reading.isOutOfRange reading.rest, false⟩

/-- Whether the program refuses a conversion because of its flags; `flags` are
those that are spelt, and the rest says whether a precision is. -/
def Conversion.isRefused (k : Conversion) (d : Dialect) (spelt : Raw) : Bool :=
  let flags := (spelt.drop 1).takeWhile fun c => "-0+ #'I".toList.contains c
  let has (c : Char) : Bool := flags.contains c
  let isGrouped := has '\'' || has 'I'
  let isSpelt := spelt.contains '.'
  d == .program &&
    match k.kind with
    | 'c' => has '#' || has '0' || isSpelt || isGrouped
    | 's' => has '#' || has '0' || isGrouped
    | 'd' => has '#'
    | 'i' => has '#'
    | 'u' => has '#'
    | 'b' => spelt != ['%', 'b']
    | 'q' => spelt != ['%', 'q']
    | 'f' => false
    | 'F' => false
    | 'g' => false
    | 'G' => false
    | _ => isGrouped

/-- One conversion of an argument; its text in the format is given for a
complaint. -/
def Conversion.apply (k : Conversion) (d : Dialect) (spelt : Raw) (argument : Option Raw) :
    Printed :=
  let text := argument.getD []
  let floating : List Char := ['a', 'A', 'e', 'E', 'f', 'F', 'g', 'G']
  if k.isRefused d spelt then .failed (.badConversion spelt)
  else if floating.contains k.kind then k.applyFloating d text
  else
    match k.kind with
    | 's' =>
      .text <| k.fill <| match k.precision with
        | some p => text.take p
        | none => text
    | 'b' =>
      let (text, stops) := unescape d text
      match d with
      | .shell =>
        let shown := match k.precision with
          | some p => text.take p
          | none => text
        ⟨k.fill shown, [], stops⟩
      | .program => ⟨text, [], stops⟩
    | 'c' => .text (k.fill (if text.isEmpty then [Char.ofNat 0] else text.take 1))
    | 'd' => k.applySigned d text
    | 'i' => k.applySigned d text
    | 'u' => k.applyUnsigned d Raw.ofNat [] text
    | 'o' =>
      let lead : Raw := if k.alternate then ['0'] else []
      k.applyUnsigned d (fun n => if n = 0 then ['0'] else lead ++ Nat.toDigits 8 n) [] text
    | 'x' => k.applyUnsigned d (Nat.toDigits 16) ['0', 'x'] text
    | 'X' => k.applyUnsigned d (fun n => (Nat.toDigits 16 n).map Char.toUpper) ['0', 'X'] text
    | 'q' =>
      match d, argument with
      | .program, some text => .text (Quoting.forShell text)
      | .program, none => .nothing
      | .shell, _ => .failed (.badConversion spelt)
    | _ => .failed (.badConversion spelt)

/-- An escape of a format after its backslash, and what follows it. -/
def formatEscape (d : Dialect) (raw : Raw) : Printed × Raw :=
  let plain : Printed × Raw :=
    let (text, size) := escapeOf d raw
    (.text text, raw.drop size)
  let numbered (count : Nat) (rest : Raw) : Printed × Raw :=
    let digits := (rest.take count).takeWhile Raw.isHexadecimal
    if digits.length < count then (.failed .missingDigits, [])
    else (.text (numberedCharacter digits), rest.drop count)
  if d = .shell then plain
  else
    match raw with
    | 'c' :: _ => (⟨[], [], true⟩, [])
    | 'u' :: rest => numbered 4 rest
    | 'U' :: rest => numbered 8 rest
    | 'x' :: rest =>
      if rest.head?.any Raw.isHexadecimal then plain else (.failed .missingDigits, [])
    | c :: rest =>
      if Raw.isOctal c ∨ (controlOf? d c).isSome then plain else (.text ['\\', c], rest)
    | [] => plain

/-- One pass over a format, and the arguments that are left.  The fuel is the
length of the format. -/
def formatOnce (d : Dialect) : Nat → Raw → List Raw → Printed × List Raw
  | 0, _, arguments => (.nothing, arguments)
  | fuel + 1, format, arguments =>
    let continueWith (p : Printed) (format : Raw) (arguments : List Raw) :
        Printed × List Raw :=
      if p.stopped then (p, [])
      else
        let (q, arguments) := formatOnce d fuel format arguments
        (⟨p.output ++ q.output, p.faults ++ q.faults, q.stopped⟩, arguments)
    match format with
    | [] => (.nothing, arguments)
    | '\\' :: rest =>
      let (p, rest) := formatEscape d rest
      continueWith p rest arguments
    | '%' :: '%' :: rest => continueWith (.text ['%']) rest arguments
    | '%' :: rest =>
      match readConversion d rest arguments with
      | none => (.failed (.missingLetter format), [])
      | some (k, left, arguments, faults) =>
        let spelt := format.take (format.length - left.length)
        let p := k.apply d spelt arguments.head?
        continueWith { p with faults := faults ++ p.faults } left (arguments.drop 1)
    | c :: rest => continueWith (.text [c]) rest arguments

/-- Passes over a format until the arguments are used up.  A pass that uses none
is the last. -/
def formatAll (d : Dialect) (format : Raw) : Nat → List Raw → Printed
  | 0, _ => .nothing
  | fuel + 1, arguments =>
    let (p, rest) := formatOnce d (format.length + 1) format arguments
    if p.stopped then p
    else
      match rest with
      | [] => p
      | next :: _ =>
        if arguments.length ≤ rest.length then
          if d = .program then { p with faults := p.faults ++ [.excess next] } else p
        else
          let q := formatAll d format fuel rest
          ⟨p.output ++ q.output, p.faults ++ q.faults, q.stopped⟩

/-- The arguments put into a format, as often as it takes to use them up. -/
def printf (d : Dialect) (format : Raw) (arguments : List Raw) : Printed :=
  formatAll d format (arguments.length + 1) arguments

end Tool
end MakeTen
