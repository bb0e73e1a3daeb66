import MakeTen.Text.Utf8
/-!
# Raw text

Programs pass bytes around, most of which are meant as characters.  Raw text is
a list of bytes, each written as the character of the same number, so that both
views are at hand.

Main definitions:

- Type `Raw`: bytes as characters.
- Functions `Raw.ofString` and `Raw.toString`: the encoding of a string and back.
- Functions `Raw.splitOn`, `Raw.lines` and `Raw.join`: parts of a text and back.
- Functions `Raw.ofInt` and `Raw.toInt?`: numbers in decimal digits and back.
-/

namespace MakeTen

/-- Bytes, each written as the character of the same number. -/
abbrev Raw := List Char

namespace Raw

/-! ## Bytes and strings -/

/-- The raw text of some bytes. -/
def ofBytes (bytes : List UInt8) : Raw :=
  bytes.map fun b => Char.ofNat b.toNat

/-- The bytes of a raw text. -/
def toBytes (raw : Raw) : List UInt8 :=
  raw.map fun c => c.toNat.toUInt8

/-- The raw text of a string, that is, of its encoding. -/
def ofString (s : String) : Raw :=
  ofBytes (Utf8.encodeString s)

/-- The string that a raw text encodes, as far as it encodes one. -/
def toString (raw : Raw) : String :=
  String.ofList (Utf8.decodeLossy (toBytes raw))

/-! ## Characters -/

/-- The character that ends texts in the host. -/
def nul : Char := Char.ofNat 0

/-- Blanks on a line. -/
def isBlank (c : Char) : Bool :=
  c == ' ' || c == '\t'

/-- Blanks, line ends among them. -/
def isSpace (c : Char) : Bool :=
  c == ' ' || ('\t' ≤ c && c ≤ '\r')

/-- Whether a character can be seen. -/
def isVisible (c : Char) : Bool :=
  '!' ≤ c && c ≤ '~'

/-- Whether a character is an octal digit. -/
def isOctal (c : Char) : Bool :=
  '0' ≤ c && c ≤ '7'

/-- Whether a character is a hexadecimal digit. -/
def isHexadecimal (c : Char) : Bool :=
  c.isDigit || ('a' ≤ c && c ≤ 'f') || ('A' ≤ c && c ≤ 'F')

/-- Value of a digit; letters are digits above nine. -/
def digitValue (c : Char) : Nat :=
  if c.isDigit then c.toNat - 0x30 else c.toLower.toNat - 0x61 + 10

/-- Whether a character may start a name. -/
def startsName (c : Char) : Bool :=
  c.isAlpha || c == '_'

/-- Whether a character may be in a name. -/
def inName (c : Char) : Bool :=
  c.isAlphanum || c == '_'

/-- Whether a text is a name. -/
def isName (raw : Raw) : Bool :=
  raw.head?.any startsName && raw.all inName

/-! ## Parts -/

/-- The parts of a text between separators, after some parts and the start of
one, both in reverse. -/
def splitOnto (isSeparator : Char → Bool) (current : Raw) (parts : List Raw) :
    Raw → List Raw
  | [] => (current.reverse :: parts).reverse
  | c :: rest =>
    if isSeparator c then splitOnto isSeparator [] (current.reverse :: parts) rest
    else splitOnto isSeparator (c :: current) parts rest

/-- The parts of a text between separators; there is one more part than there
are separators. -/
def splitOn (separator : Char) (raw : Raw) : List Raw :=
  splitOnto (· == separator) [] [] raw

/-- The lines of a text; a non-empty rest after the last line feed is a line as
well. -/
def lines (raw : Raw) : List Raw :=
  let parts := splitOn '\n' raw
  if parts.getLast? = some [] then parts.dropLast else parts

/-- Lines as one text, each with a line feed. -/
def unlines (lines : List Raw) : Raw :=
  lines.flatMap (· ++ ['\n'])

/-- The words of a text, between blanks of any number. -/
def words (raw : Raw) : List Raw :=
  (splitOnto isSpace [] [] raw).filter (!·.isEmpty)

/-- Texts with another one between each and the next. -/
def join (between : Raw) : List Raw → Raw
  | [] => []
  | first :: rest => first ++ rest.flatMap (between ++ ·)

/-- A text without characters of some kind at its end. -/
def dropEnd (isDropped : Char → Bool) (raw : Raw) : Raw :=
  (raw.reverse.dropWhile isDropped).reverse

/-- A text without blanks at both ends. -/
def trim (raw : Raw) : Raw :=
  dropEnd isSpace (raw.dropWhile isSpace)

/-- A text with characters in front, up to a width. -/
def padStart (width : Nat) (filler : Char) (raw : Raw) : Raw :=
  List.replicate (width - raw.length) filler ++ raw

/-- A text with characters at its end, up to a width. -/
def padEnd (width : Nat) (filler : Char) (raw : Raw) : Raw :=
  raw ++ List.replicate (width - raw.length) filler

/-- Whether one text comes before another, or is the same, by the numbers of
their characters. -/
def le (a b : Raw) : Bool :=
  match a, b with
  | [], _ => true
  | _ :: _, [] => false
  | x :: a, y :: b => if x == y then le a b else x < y

/-- Where a text first occurs in another one, from a position on. -/
def findFrom (part : Raw) (position : Nat) : Raw → Option Nat
  | [] => if part.isEmpty then some position else none
  | c :: rest =>
    if part.isPrefixOf (c :: rest) then some position else findFrom part (position + 1) rest

/-- Where a text first occurs in another one. -/
def find? (part raw : Raw) : Option Nat :=
  findFrom part 0 raw

/-! ## Numbers -/

/-- How many numbers a word of 64 bits can hold. -/
def wordSize : Int := 18446744073709551616

/-- Least number that is too large for a word of 64 bits with a sign. -/
def numberBound : Int := 9223372036854775808

/-- The digits of a number in some base. -/
def digits (base : Nat) (n : Nat) : Raw :=
  Nat.toDigits base n

/-- The decimal digits of a number. -/
def ofNat (n : Nat) : Raw :=
  Nat.toDigits 10 n

/-- The decimal digits of a number with its sign. -/
def ofInt (n : Int) : Raw :=
  if n < 0 then '-' :: ofNat n.natAbs else ofNat n.natAbs

/-- The number that digits in some base stand for. -/
def valueIn (base : Nat) (digits : Raw) : Nat :=
  digits.foldl (fun n d => n * base + digitValue d) 0

/-- The number that decimal digits stand for; there has to be a digit. -/
def toNat? (raw : Raw) : Option Nat :=
  if raw.isEmpty ∨ ¬ raw.all Char.isDigit then none else some (valueIn 10 raw)

/-- The number that decimal digits with an optional sign stand for, blanks
around them aside. -/
def toInt? (raw : Raw) : Option Int :=
  match trim raw with
  | '-' :: digits => (toNat? digits).map fun n => -(n : Int)
  | '+' :: digits => (toNat? digits).map fun n => (n : Int)
  | digits => (toNat? digits).map fun n => (n : Int)

end Raw
end MakeTen
