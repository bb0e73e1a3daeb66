import MakeTen.Text.Raw
/-!
# Permissions

What may be done with a file is twelve bits: reading, writing and running for its
owner, its group and all others, and three bits of their own.  A text describes
such bits in octal, or it says how to change the bits that there are: for whom,
with which sign, and which.

Main definitions:

- Function `Permission.read?`: the changes that a text describes.
- Function `Permission.apply`: bits after changes.
- Function `Permission.letters`: bits as letters.
-/

namespace MakeTen
namespace Permission

/-- All bits. -/
def allBits : Nat := 0o7777

/-- Reading, writing and running for everybody. -/
def plainBits : Nat := 0o777

/-- Some bits without others. -/
def without (bits others : Nat) : Nat :=
  bits - (bits &&& others)

/-- Which bits a change is about. -/
inductive Which where
  /-- These. -/
  | bits (bits : Nat)
  /-- The bits that some users have. -/
  | copied (users : Nat)
  /-- These, and running if it makes sense. -/
  | runnable (bits : Nat)
  deriving Repr, DecidableEq

/-- One change. -/
structure Change where
  sign : Char
  /-- The bits of the users that are named; none if nobody is. -/
  affected : Nat
  which : Which
  /-- The bits that a directory does not keep by itself. -/
  mentioned : Nat
  deriving Repr, DecidableEq

/-! ## Reading -/

/-- The bits of a letter for users. -/
def userBits? : Char → Option Nat
  | 'u' => some 0o4700
  | 'g' => some 0o2070
  | 'o' => some 0o1007
  | 'a' => some 0o7777
  | _ => none

/-- The bits of a letter for what may be done. -/
def letterBits? : Char → Option Nat
  | 'r' => some 0o444
  | 'w' => some 0o222
  | 'x' => some 0o111
  | 's' => some 0o6000
  | 't' => some 0o1000
  | _ => none

/-- Whether a character is the sign of a change. -/
def isSign (c : Char) : Bool :=
  c == '+' || c == '-' || c == '='

/-- Letters for what may be done, as bits, with whether running depends on what is
there, and what follows. -/
def readLetters : Nat → Bool → Raw → Nat × Bool × Raw
  | bits, isConditional, [] => (bits, isConditional, [])
  | bits, isConditional, c :: rest =>
    if c = 'X' then readLetters bits true rest
    else
      match letterBits? c with
      | some more => readLetters (bits ||| more) isConditional rest
      | none => (bits, isConditional, c :: rest)

/-- What stands after a sign, and what follows it. -/
def readWhich (raw : Raw) : Option (Which × Bool × Raw) :=
  let digits := raw.takeWhile Raw.isOctal
  if ¬ digits.isEmpty then
    let n := Raw.valueIn 8 digits
    if n ≤ allBits then some (.bits n, true, raw.drop digits.length) else none
  else
    match raw with
    | 'u' :: rest => some (.copied 0o700, false, rest)
    | 'g' :: rest => some (.copied 0o070, false, rest)
    | 'o' :: rest => some (.copied 0o007, false, rest)
    | _ =>
      let (bits, isConditional, rest) := readLetters 0 false raw
      some (if isConditional then .runnable bits else .bits bits, false, rest)

/-- The changes of one clause for some users, each after its sign. -/
def readClause (affected : Nat) : Nat → Raw → Option (List Change)
  | 0, _ => none
  | _, [] => none
  | fuel + 1, sign :: rest =>
    if ¬ isSign sign then none
    else
      match readWhich rest with
      | none => none
      | some (which, isOctal, rest) =>
        let mentioned := if isOctal then allBits
          else
            match which with
            | .bits bits => if affected = 0 then bits else affected &&& bits
            | .copied users => if affected = 0 then users else affected &&& users
            | .runnable bits => if affected = 0 then bits else affected &&& bits
        let change : Change := ⟨sign, affected, which, mentioned⟩
        if isOctal ∧ (affected ≠ 0 ∨ ¬ rest.isEmpty) then none
        else if rest.isEmpty then some [change]
        else (readClause affected fuel rest).map (change :: ·)

/-- The changes that a text describes. -/
def read? (raw : Raw) : Option (List Change) :=
  if raw.any Char.isDigit ∧ raw.all Raw.isOctal then
    let n := Raw.valueIn 8 raw
    if allBits < n then none
    else
      let mentioned := if raw.length < 5 then (n &&& 0o6000) ||| 0o1777 else allBits
      some [⟨'=', allBits, .bits n, mentioned⟩]
  else
    ((Raw.splitOn ',' raw).mapM fun (clause : Raw) =>
      let users := clause.takeWhile fun c => (userBits? c).isSome
      let affected := users.foldl (fun bits c => bits ||| (userBits? c).getD 0) 0
      readClause affected (clause.length + 1) (clause.drop users.length)).map List.flatten

/-! ## Changing -/

/-- The bits that all users have of those that some have. -/
def spread (bits : Nat) : Nat :=
  (if bits &&& 0o444 ≠ 0 then 0o444 else 0) ||| (if bits &&& 0o222 ≠ 0 then 0o222 else 0) |||
    (if bits &&& 0o111 ≠ 0 then 0o111 else 0)

/-- Bits after one change. -/
def applyOne (isDirectory : Bool) (mask bits : Nat) (c : Change) : Nat :=
  let kept := if isDirectory then without 0o6000 c.mentioned else 0
  let value := match c.which with
    | .bits b => b
    | .copied users => spread (bits &&& users)
    | .runnable b => if isDirectory ∨ bits &&& 0o111 ≠ 0 then b ||| 0o111 else b
  let scope := if c.affected = 0 then without allBits mask else c.affected
  let value := without (value &&& scope) kept
  if c.sign = '+' then bits ||| value
  else if c.sign = '-' then without bits value
  else
    let preserved := (if c.affected = 0 then 0 else without allBits c.affected) ||| kept
    (bits &&& preserved) ||| value

/-- Bits after changes. -/
def apply (isDirectory : Bool) (mask bits : Nat) (changes : List Change) : Nat :=
  changes.foldl (applyOne isDirectory mask) bits

/-! ## Showing -/

/-- Bits as nine letters. -/
def letters (bits : Nat) : Raw :=
  let has (n : Nat) : Bool := bits &&& n ≠ 0
  let three (r w x special : Nat) (both alone : Char) : Raw :=
    [if has r then 'r' else '-', if has w then 'w' else '-',
      if has special then (if has x then both else alone) else if has x then 'x' else '-']
  three 0o400 0o200 0o100 0o4000 's' 'S' ++ three 0o040 0o020 0o010 0o2000 's' 'S' ++
    three 0o004 0o002 0o001 0o1000 't' 'T'

/-- Bits as octal digits, at least some of them. -/
def octal (width bits : Nat) : Raw :=
  Raw.padStart width '0' (Raw.digits 8 bits)

end Permission
end MakeTen
