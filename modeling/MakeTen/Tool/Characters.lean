import MakeTen.Tool.Lines
/-!
# Characters

The program that replaces, deletes and squeezes characters.  Its sets list
characters in order: by themselves, as ranges, as classes, or one character
many times.

Main definitions:

- Type `Tool.SetItem`: a part of a set.
- Function `Tool.readSet`: the parts of a set.
- Function `Tool.tr`: the program.
-/

namespace MakeTen
namespace Tool

/-! ## Classes -/

/-- The members of a class of characters. -/
def classTest? (name : String) : Option (Char → Bool) :=
  match name with
  | "alnum" => some Char.isAlphanum
  | "alpha" => some Char.isAlpha
  | "blank" => some Raw.isBlank
  | "cntrl" => some fun c => c.toNat < 32 || c.toNat == 127
  | "digit" => some Char.isDigit
  | "graph" => some Raw.isVisible
  | "lower" => some Char.isLower
  | "print" => some fun c => c == ' ' || Raw.isVisible c
  | "punct" => some fun c => Raw.isVisible c && !c.isAlphanum
  | "space" => some Raw.isSpace
  | "upper" => some Char.isUpper
  | "xdigit" => some Raw.isHexadecimal
  | _ => none

/-- The bytes from one to another. -/
def byteRange (first last : Nat) : Raw :=
  (List.range (last + 1 - first)).map fun n => Char.ofNat (first + n)

/-- All bytes. -/
def allBytes : Raw := byteRange 0 255

/-! ## Sets -/

/-- A part of a set. -/
inductive SetItem where
  | char (c : Char)
  /-- All characters that count as the same as one. -/
  | same (c : Char)
  | range (first last : Char)
  | ofClass (name : String) (members : Raw)
  /-- A character so many times; zero stands for as often as it takes. -/
  | copies (c : Char) (count : Nat)

/-- A character of a set, and whether it followed a backslash. -/
structure SetChar where
  char : Char
  isEscaped : Bool

/-- A set with its escapes replaced. -/
def unescapeSet : Nat → Raw → List SetChar
  | 0, _ => []
  | fuel + 1, raw =>
    match raw with
    | [] => []
    | '\\' :: rest =>
      let octal := (rest.take 3).takeWhile Raw.isOctal
      let octal := if 255 < Raw.valueIn 8 octal then octal.take 2 else octal
      if octal ≠ [] then
        ⟨Char.ofNat (Raw.valueIn 8 octal), true⟩ :: unescapeSet fuel (rest.drop octal.length)
      else
        match rest with
        | [] => [⟨'\\', false⟩]
        | c :: rest =>
          let one := match c with
            | 'a' => Char.ofNat 7
            | 'b' => Char.ofNat 8
            | 'f' => Char.ofNat 12
            | 'n' => '\n'
            | 'r' => '\r'
            | 't' => '\t'
            | 'v' => Char.ofNat 11
            | c => c
          ⟨one, true⟩ :: unescapeSet fuel rest
    | c :: rest => ⟨c, false⟩ :: unescapeSet fuel rest

/-- The octal escapes of a set that have three digits but mean only two of them. -/
def wideEscapes : Nat → Raw → List Raw
  | 0, _ => []
  | fuel + 1, raw =>
    match raw with
    | [] => []
    | '\\' :: rest =>
      let octal := (rest.take 3).takeWhile Raw.isOctal
      if 255 < Raw.valueIn 8 octal then octal :: wideEscapes fuel (rest.drop 2)
      else wideEscapes fuel (rest.drop (max 1 octal.length))
    | _ :: rest => wideEscapes fuel rest

/-- Whether a character of a set is one that stands for itself only after a
backslash. -/
def SetChar.isMark (s : SetChar) (c : Char) : Bool :=
  s.char == c && !s.isEscaped

/-- A character as it is shown in a complaint. -/
def printable (c : Char) : Raw :=
  if c = ' ' ∨ Raw.isVisible c then [c]
  else '\\' :: Raw.padStart 3 '0' (Nat.toDigits 8 c.toNat)

/-- The text up to a closing mark and bracket, and what follows these. -/
def untilClosing (mark : Char) (seen : List SetChar) :
    List SetChar → Option (Raw × List SetChar)
  | a :: b :: rest =>
    if a.isMark mark ∧ b.isMark ']' then some (seen.reverse.map (·.char), rest)
    else untilClosing mark (a :: seen) (b :: rest)
  | _ => none

/-- A repeated character after its bracket, and what follows it. -/
def readCopies (chars : List SetChar) : Except Raw (Option (SetItem × List SetChar)) :=
  match chars with
  | c :: star :: rest =>
    if ¬ star.isMark '*' then .ok none
    else
      let digits := rest.takeWhile fun s => s.char ≠ ']' ∧ ¬ s.isEscaped
      match rest.drop digits.length with
      | close :: rest =>
        if ¬ close.isMark ']' then .ok none
        else
          let text := digits.map (·.char)
          let isOctal := text.head? == some '0'
          if text.all (if isOctal then Raw.isOctal else Char.isDigit) then
            .ok (some (.copies c.char (Raw.valueIn (if isOctal then 8 else 10) text), rest))
          else
            .error ("invalid repeat count ".toList ++ Quoting.forReader text ++
              " in [c*n] construct".toList)
      | [] => .ok none
  | _ => .ok none

/-- The parts of a set, or what is wrong with it. -/
def readItems : Nat → List SetChar → Except Raw (List SetItem)
  | 0, _ => .ok []
  | fuel + 1, chars =>
    match chars with
    | first :: second :: third :: rest => do
      let plain : Except Raw (List SetItem) :=
        if second.isMark '-' then
          if third.char < first.char then
            .error ("range-endpoints of '".toList ++ printable first.char ++ ['-'] ++
              printable third.char ++ "' are in reverse collating sequence order".toList)
          else (readItems fuel rest).map (.range first.char third.char :: ·)
        else (readItems fuel (second :: third :: rest)).map (.char first.char :: ·)
      if ¬ first.isMark '[' then plain
      else
        let copies : Except Raw (List SetItem) := do
          match ← readCopies (second :: third :: rest) with
          | some (item, rest) => (readItems fuel rest).map (item :: ·)
          | none => plain
        if second.isMark ':' ∨ second.isMark '=' then
          match untilClosing second.char [] (third :: rest) with
          | none => copies
          | some ([], _) =>
            if second.char = ':' then .error "missing character class name '[::]'".toList
            else .error "missing equivalence class character '[==]'".toList
          | some (name, after) =>
            if second.char = ':' then
              match classTest? (String.ofList name) with
              | some holds =>
                (readItems fuel after).map
                  (.ofClass (String.ofList name) (allBytes.filter holds) :: ·)
              | none => .error ("invalid character class ".toList ++ Quoting.forReader name)
            else
              match name with
              | [c] => (readItems fuel after).map (.same c :: ·)
              | _ =>
                .error (name ++ ": equivalence class operand must be a single character".toList)
        else copies
    | rest => .ok (rest.map fun s => .char s.char)

/-- The parts of a set, or what is wrong with it. -/
def readSet (raw : Raw) : Except Raw (List SetItem) :=
  readItems (raw.length + 1) (unescapeSet (raw.length + 1) raw)

/-- The characters of a part of a set, where a character that fills up is taken
`fill` times. -/
def SetItem.members (fill : Nat) : SetItem → Raw
  | .char c => [c]
  | .same c => [c]
  | .range first last => byteRange first.toNat last.toNat
  | .ofClass _ members => members
  | .copies c count => List.replicate (if count = 0 then fill else count) c

/-- The characters of a set. -/
def setMembers (fill : Nat) (items : List SetItem) : Raw :=
  items.flatMap (SetItem.members fill)

/-- Whether a part of a set is filled up. -/
def SetItem.isFill : SetItem → Bool
  | .copies _ 0 => true
  | _ => false

/-- Whether a part of a set stands for what counts as the same. -/
def SetItem.isSame : SetItem → Bool
  | .same _ => true
  | _ => false

/-- The name of a class that is a part of a set. -/
def SetItem.className? : SetItem → Option String
  | .ofClass name _ => some name
  | _ => none

/-- Where the classes of letters of one case in a set start. -/
def caseStarts (fill : Nat) (items : List SetItem) : List Nat :=
  (items.foldl (fun (starts, position) item =>
    let isCase := item.className? = some "upper" ∨ item.className? = some "lower"
    (if isCase then position :: starts else starts, position + (item.members fill).length))
    (([] : List Nat), 0)).1

/-! ## Replacements -/

/-- What every byte is replaced by and the characters of the second set, or why
the sets do not go together. -/
def replacements (isComplement isCut : Bool) (first second : List SetItem) :
    Except Raw (Array Char × Raw) := do
  let source := setMembers 0 first
  let source := if isComplement then allBytes.filter (!source.contains ·) else source
  let fixed := (setMembers 0 second).length
  let fill := source.length - fixed
  if (second.filter SetItem.isFill).length > 1 then
    throw "only one [c*] repeat construct may appear in string2".toList
  if second.any SetItem.isSame then
    throw "[=c=] expressions may not appear in string2 when translating".toList
  let names := second.filterMap SetItem.className?
  if names.any fun n => n != "upper" && n != "lower" then
    throw ("when translating, the only character classes that may appear in\n" ++
      "string2 are 'upper' and 'lower'").toList
  let starts := caseStarts 0 first
  if ¬ isComplement ∧ (caseStarts fill second).any (!starts.contains ·) then
    throw "misaligned [:upper:] and/or [:lower:] construct".toList
  let target := setMembers fill second
  if ¬ isCut ∧ target.length < source.length then
    if target.isEmpty then
      throw "when not truncating set1, string2 must be non-empty".toList
    if (second.getLast?.bind SetItem.className?).isSome then
      throw ("when translating with string1 longer than string2,\n" ++
        "the latter string must not end with a character class").toList
  let hasClass := first.any fun i => i.className?.isSome
  let isAlike := target.all (some · = target.head?) ∧
    (target.length = source.length ∨ ¬ isCut ∧ target.length < source.length)
  if isComplement ∧ hasClass ∧ ¬ isAlike then
    throw ("when translating with complemented character classes,\n" ++
      "string2 must map all characters in the domain to one").toList
  let last := target.getLast?.getD ' '
  let targets := target.toArray
  let source := if isCut then source.take target.length else source
  let table := source.zipIdx.foldl
    (fun table (c, n) => table.setIfInBounds c.toNat (targets.getD n last)) allBytes.toArray
  return (table, target)

/-- What is done to a text: every byte is deleted or replaced, and of some bytes
only the first one in a row is left. -/
structure Exchange where
  deletes : Array Bool
  replaces : Array Char
  squeezes : Array Bool

/-- A table of some characters. -/
def presence (members : Raw) : Array Bool :=
  members.foldl (fun table c => table.setIfInBounds c.toNat true) (Array.replicate 256 false)

/-- A table of the members of a set. -/
def memberTable (isComplement : Bool) (items : List SetItem) : Array Bool :=
  let table := presence (setMembers 0 items)
  if isComplement then table.map (!·) else table

/-- Change a text after a byte. -/
def Exchange.apply (e : Exchange) (last : Option Char) : Raw → Raw → Raw
  | done, [] => done.reverse
  | done, c :: rest =>
    if e.deletes.getD c.toNat false then e.apply last done rest
    else
      let d := e.replaces.getD c.toNat c
      if e.squeezes.getD d.toNat false ∧ last = some d then e.apply last done rest
      else e.apply (some d) (d :: done) rest

/-! ## The program -/

/-- What the arguments ask for. -/
def exchangeOf (o : Chosen) (first : Raw) (second : Option Raw) : Except Raw Exchange := do
  let isComplement := o.has "c"
  let from_ ← readSet first
  let other ← readSet (second.getD [])
  let none_ := Array.replicate 256 false
  let same := allBytes.toArray
  if from_.any SetItem.isFill then
    throw "the [c*] repeat construct may not appear in string1".toList
  if o.has "d" then
    if other.any SetItem.isFill then
      throw "the [c*] construct may appear in string2 only when translating".toList
    let squeezes := if o.has "s" then memberTable false other else none_
    return ⟨memberTable isComplement from_, same, squeezes⟩
  else
    match second with
    | none => return ⟨none_, same, memberTable isComplement from_⟩
    | some _ =>
      let (replaces, target) ← replacements isComplement (o.has "t") from_ other
      let squeezes := if o.has "s" then presence target else none_
      return ⟨none_, replaces, squeezes⟩

/-- Replace, delete or squeeze characters. -/
def tr : Job Unit := do
  let o ← leadingOptions "c,C,complement d,delete s,squeeze-repeats t,truncate-set1" 1
  let deletes := o.has "d"
  let squeezes := o.has "s"
  let least := if deletes == squeezes then 2 else 1
  let most := if deletes && !squeezes then 1 else 2
  if o.operands.length < least then
    match o.operands.getLast? with
    | none => missingOperand 1
    | some last =>
      complain ("missing operand after ".toList ++ Quoting.forReader last)
      grumble (if squeezes
        then "Two strings must be given when both deleting and squeezing repeats.".toList
        else "Two strings must be given when translating.".toList)
      grumble ("Try '".toList ++ (← get).call.name ++ " --help' for more information.".toList)
      exit 1
  match o.operands.drop most with
  | extra :: _ =>
    complain ("extra operand ".toList ++ Quoting.forReader extra)
    if o.operands.length = 2 then
      grumble "Only one string may be given when deleting without squeezing repeats.".toList
    grumble ("Try '".toList ++ (← get).call.name ++ " --help' for more information.".toList)
    exit 1
  | [] => pure ()
  for set in o.operands do
    for octal in wideEscapes (set.length + 1) set do
      complain ("warning: the ambiguous octal escape \\".toList ++ octal ++
        " is being\n\tinterpreted as the 2-byte sequence \\0".toList ++ octal.take 2 ++
        ", ".toList ++ octal.drop 2)
    if (set.reverse.takeWhile (· = '\\')).length % 2 = 1 then
      complain "warning: an unescaped backslash at end of string is not portable".toList
  match exchangeOf o (o.operands.headD []) (o.operands.drop 1).head? with
  | .error text => giveUp 1 text
  | .ok e =>
    match (← get).call.inputFault with
    | some fault => giveUp 1 ("read error: ".toList ++ faultText fault)
    | none =>
      let d ← get
      say (e.apply none [] d.input)
      if d.isEnded then exit 0 else throw .input

end Tool
end MakeTen
