import MakeTen.Text.Raw
/-!
# Bytes as letters

Bytes are written with a number of letters that is a power of two, so that each letter
stands for some bits.  Groups that are not full are filled up with a mark.  Another way
takes four bytes as one number and writes it with five letters out of 85.

Main definitions:

- Structure `Lettering`: the letters and the size of a group.
- Functions `Lettering.encode` and `Lettering.decode`: bytes as letters and back.
- Structure `Spelling`: a way to write bytes as letters, whatever its kind.
-/

namespace MakeTen

/-- How bytes are written as letters. -/
structure Lettering where
  letters : Array Char
  /-- Bits of a letter. -/
  bits : Nat
  /-- Bytes and letters of a group. -/
  groupBytes : Nat
  groupLetters : Nat
  /-- Whether a group at the end that is too short is read as far as it goes. -/
  readsShort : Bool

namespace Lettering

/-- Sixty-four letters. -/
def sixtyFour : Lettering :=
  ⟨"ABCDEFGHIJKLMNOPQRSTUVWXYZabcdefghijklmnopqrstuvwxyz0123456789+/".toList.toArray, 6, 3, 4,
    true⟩

/-- Thirty-two letters. -/
def thirtyTwo : Lettering :=
  ⟨"ABCDEFGHIJKLMNOPQRSTUVWXYZ234567".toList.toArray, 5, 5, 8, false⟩

/-- Sixteen letters. -/
def sixteen : Lettering :=
  ⟨"0123456789ABCDEF".toList.toArray, 4, 1, 2, true⟩

/-- Two letters. -/
def two : Lettering :=
  ⟨"01".toList.toArray, 1, 1, 8, true⟩

/-- How many letters some bytes of a group take. -/
def letterCount (l : Lettering) (bytes : Nat) : Nat :=
  (8 * bytes + l.bits - 1) / l.bits

/-- A group of bytes as letters. -/
def encodeGroup (l : Lettering) (bytes : Raw) : Raw :=
  let n := bytes.foldl (fun n c => n * 256 + c.toNat) 0 <<< (8 * (l.groupBytes - bytes.length))
  let count := l.letterCount bytes.length
  (List.range l.groupLetters).map fun i =>
    if i < count then
      l.letters.getD ((n >>> (l.bits * (l.groupLetters - 1 - i))) % l.letters.size) '='
    else '='

/-- Bytes as letters. -/
def encodeWithin (l : Lettering) : Nat → Raw → Raw
  | 0, _ => []
  | fuel + 1, raw =>
    if raw.isEmpty then []
    else l.encodeGroup (raw.take l.groupBytes) ++ l.encodeWithin fuel (raw.drop l.groupBytes)

/-- Bytes as letters. -/
def encode (l : Lettering) (raw : Raw) : Raw :=
  l.encodeWithin (raw.length + 1) raw

/-- The number of a letter. -/
def value? (l : Lettering) (c : Char) : Option Nat :=
  let n := l.letters.toList.idxOf c
  if n < l.letters.size then some n else none

/-- The bytes of a group of letters, and whether it is a proper group. -/
def decodeGroup (l : Lettering) (group : Raw) : Raw × Bool :=
  let valid := group.takeWhile fun c => (l.value? c).isSome
  let n := valid.foldl (fun n c => n * l.letters.size + (l.value? c).getD 0) 0
  let full := n <<< (l.bits * (l.groupLetters - valid.length))
  let count := valid.length * l.bits / 8
  let bytes := (List.range count).map fun i =>
    Char.ofNat ((full >>> (8 * (l.groupBytes - 1 - i))) % 256)
  let bytes := if group.length < l.groupLetters ∧ ¬ l.readsShort then [] else bytes
  let isProper := group.length == l.groupLetters && l.letterCount count == valid.length &&
    0 < count && (group.drop valid.length).all (· == '=')
  (bytes, isProper)

/-- The bytes of some letters, and whether all of them are proper. -/
def decodeWithin (l : Lettering) : Nat → Raw → Raw × Bool
  | 0, _ => ([], true)
  | fuel + 1, raw =>
    if raw.isEmpty then ([], true)
    else
      let (bytes, isProper) := l.decodeGroup (raw.take l.groupLetters)
      if ¬ isProper then (bytes, false)
      else
        let (more, isProper) := l.decodeWithin fuel (raw.drop l.groupLetters)
        (bytes ++ more, isProper)

/-- The bytes of some letters, and whether all of them are proper. -/
def decode (l : Lettering) (raw : Raw) : Raw × Bool :=
  l.decodeWithin (raw.length + 1) raw

end Lettering

/-! ## Spellings -/

/-- A way to write bytes as letters. -/
structure Spelling where
  /-- The bytes as letters, or what is wrong with them. -/
  encode : Raw → Except String Raw
  /-- The bytes of some letters, and whether all of them are proper. -/
  decode : Raw → Raw × Bool
  /-- Whether a character is one of the letters. -/
  isLetter : Char → Bool

namespace Spelling

/-- The letters of a lettering. -/
def ofLettering (l : Lettering) : Spelling :=
  { encode := fun raw => .ok (l.encode raw)
    decode := l.decode
    isLetter := fun c => (l.value? c).isSome }

/-- Other letters in place of those of a lettering.  Letters that have no place here are
read as `stray` says. -/
def renamed (l : Lettering) (letters : Raw) (stray : Char → Char) : Spelling :=
  { encode := fun raw => .ok ((l.encode raw).map fun c =>
      ((l.value? c).bind fun n => letters[n]?).getD c)
    decode := fun raw => l.decode (raw.map fun c =>
      if letters.contains c then l.letters.getD (letters.idxOf c) c else stray c)
    isLetter := fun c => letters.contains c }

/-- Sixty-four letters that can stand in file names.  No letter is read if one of those
that they replace is there. -/
def forNames : Spelling :=
  let letters := (Lettering.sixtyFour.letters.toList.take 62) ++ ['-', '_']
  let s := renamed .sixtyFour letters id
  { s with
    decode := fun raw =>
      if raw.any fun c => c == '+' || c == '/' then ([], false) else s.decode raw }

/-- Thirty-two letters in the order of their codes. -/
def ordered : Spelling :=
  renamed .thirtyTwo "0123456789ABCDEFGHIJKLMNOPQRSTUV".toList id

/-- The bits of bytes, the lowest first. -/
def lowestFirst : Spelling :=
  let l := Lettering.two
  let turn (raw : Raw) : Raw := raw.map fun c =>
    Char.ofNat ((List.range 8).foldl (fun n i => 2 * n + (c.toNat >>> i) % 2) 0)
  let s := ofLettering l
  { s with
    encode := fun raw => .ok (l.encode (turn raw))
    decode := fun raw => let (bytes, isProper) := l.decode raw; (turn bytes, isProper) }

/-- The letters for numbers of four bytes. -/
def numberLetters : Raw :=
  "0123456789abcdefghijklmnopqrstuvwxyzABCDEFGHIJKLMNOPQRSTUVWXYZ".toList ++
    ".-:+=^!/*?&<>()[]\x7b\x7d@%$#".toList

/-- Four bytes at a time as a number with five letters. -/
def encodeNumbers : Nat → Raw → Raw
  | 0, _ => []
  | fuel + 1, raw =>
    if raw.isEmpty then []
    else
      let n := (raw.take 4).foldl (fun n c => n * 256 + c.toNat) 0
      let letter (unit : Nat) : Char := numberLetters.getD (n / unit % 85) '0'
      [52200625, 614125, 7225, 85, 1].map letter ++ encodeNumbers fuel (raw.drop 4)

/-- The bytes of numbers with five letters, and whether all of them are proper. -/
def decodeNumbers : Nat → Raw → Raw × Bool
  | 0, _ => ([], true)
  | fuel + 1, raw =>
    if raw.isEmpty then ([], true)
    else
      let group := raw.take 5
      let n := group.foldl (fun n c => n * 85 + numberLetters.idxOf c) 0
      if group.length < 5 ∨ ¬ group.all numberLetters.contains ∨ 4294967296 ≤ n then ([], false)
      else
        let (more, isProper) := decodeNumbers fuel (raw.drop 5)
        ([24, 16, 8, 0].map (fun shift => Char.ofNat ((n >>> shift) % 256)) ++ more, isProper)

/-- Numbers of four bytes with five letters. -/
def ofNumbers : Spelling :=
  { encode := fun raw =>
      if raw.length % 4 = 0 then .ok (encodeNumbers (raw.length + 1) raw)
      else .error "invalid input (length must be multiple of 4 characters)"
    decode := fun raw => decodeNumbers (raw.length + 1) raw
    isLetter := fun c => numberLetters.contains c }

/-- The bytes of some letters, and whether all of them are proper.  Line ends do not
count, and other characters only if they are not skipped. -/
def read (s : Spelling) (skips : Bool) (raw : Raw) : Raw × Bool :=
  s.decode (raw.filter fun c => c ≠ '\n' && (!skips || c == '=' || s.isLetter c))

end Spelling
end MakeTen
