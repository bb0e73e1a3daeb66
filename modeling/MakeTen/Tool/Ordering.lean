import MakeTen.Tool.Lines
/-!
# Order of lines

How lines are compared: as a whole or by keys, which are parts of lines, and
each key as bytes, as a number, or in some other order.

Main definitions:

- Structure `Tool.OrderStyle`: how a key is compared.
- Structure `Tool.SortKey`: a part of a line with its style.
- Function `Tool.readSortKey`: the key that a text describes.
- Function `Tool.compareByKeys`: lines compared by keys.
-/

namespace MakeTen
namespace Tool

/-! ## Texts -/

/-- Texts in the order of their bytes. -/
def compareRaw : Raw → Raw → Ordering
  | [], [] => .eq
  | [], _ => .lt
  | _, [] => .gt
  | a :: as, b :: bs => if a = b then compareRaw as bs else compare a.toNat b.toNat

/-! ## Numbers -/

/-- A decimal number: digits and how many of them follow the point. -/
structure Decimal where
  digits : Int
  places : Nat

/-- Decimal numbers in order. -/
def Decimal.cmp (a b : Decimal) : Ordering :=
  compare (a.digits * (Nat.pow 10 b.places : Nat)) (b.digits * (Nat.pow 10 a.places : Nat))

/-- The number at the head of a text after blanks; zero if there is none. -/
def leadingDecimal (raw : Raw) : Decimal :=
  let raw := raw.dropWhile Raw.isSpace
  let (sign, body) : Int × Raw := match raw with
    | '-' :: rest => (-1, rest)
    | _ => (1, raw)
  let whole := body.takeWhile Char.isDigit
  let part := match body.drop whole.length with
    | '.' :: rest => rest.takeWhile Char.isDigit
    | _ => []
  ⟨sign * (Raw.valueIn 10 (whole ++ part) : Nat), part.length⟩

/-- Greatest power of ten that is looked at. -/
def powerLimit : Nat := 400

/-- A number with an exponent at the head of a text, if there is one: a rank, which
is that of infinities or finite numbers, and a decimal number. -/
def leadingFloat? (raw : Raw) : Option (Int × Decimal) :=
  let raw := raw.dropWhile Raw.isSpace
  let (sign, body) : Int × Raw := match raw with
    | '-' :: rest => (-1, rest)
    | '+' :: rest => (1, rest)
    | _ => (1, raw)
  let whole := body.takeWhile Char.isDigit
  let afterWhole := body.drop whole.length
  let part := match afterWhole with
    | '.' :: rest => rest.takeWhile Char.isDigit
    | _ => []
  let afterPart := match afterWhole with
    | '.' :: rest => rest.drop part.length
    | _ => afterWhole
  let lower := (body.take 3).map Char.toLower
  if lower = "inf".toList then some (sign, ⟨0, 0⟩)
  else if lower = "nan".toList then some (-2, ⟨0, 0⟩)
  else if whole.isEmpty ∧ part.isEmpty then none
  else
    let exponent : Int := match afterPart with
      | e :: rest =>
        if e = 'e' ∨ e = 'E' then
          let (s, digits) : Int × Raw := match rest with
            | '-' :: digits => (-1, digits)
            | '+' :: digits => (1, digits)
            | _ => (1, rest)
          s * (min powerLimit (Raw.valueIn 10 (digits.takeWhile Char.isDigit)) : Nat)
        else 0
      | [] => 0
    let digits := sign * (Raw.valueIn 10 (whole ++ part) : Nat)
    if exponent < 0 then some (0, ⟨digits, part.length + exponent.natAbs⟩)
    else some (0, ⟨digits * (Nat.pow 10 exponent.natAbs : Nat), part.length⟩)

/-- Texts in the order of the numbers that they start with; those that start with
none come first. -/
def compareFloats (a b : Raw) : Ordering :=
  match leadingFloat? a, leadingFloat? b with
  | none, none => .eq
  | none, some _ => .lt
  | some _, none => .gt
  | some (rank, x), some (other, y) => (compare rank other).then (x.cmp y)

/-- The rank of the unit after a number: the greater the unit the higher. -/
def unitRank (raw : Raw) : Int :=
  let raw := raw.dropWhile Raw.isSpace
  let isNegative := raw.head? = some '-'
  let body := if isNegative then raw.drop 1 else raw
  let number := body.takeWhile fun c => c.isDigit || c == '.'
  let isZero := number.all fun c => c == '0' || c == '.'
  let rank : Nat := match body.drop number.length with
    | c :: _ => if c = 'k' then 1 else "KMGTPEZYRQ".toList.idxOf c + 1
    | [] => 0
  if isZero ∨ 10 < rank then 0 else if isNegative then -(rank : Int) else rank

/-- The number of the month that a text starts with, or zero. -/
def monthOf (raw : Raw) : Nat :=
  let name := ((raw.dropWhile Raw.isSpace).take 3).map Char.toUpper
  let months := ["JAN", "FEB", "MAR", "APR", "MAY", "JUN", "JUL", "AUG", "SEP", "OCT", "NOV",
    "DEC"]
  let n := months.idxOf (String.ofList name)
  if n = 12 then 0 else n + 1

/-! ## Versions -/

/-- The rank of a character in a version that is no digit; the end ranks low. -/
def versionRank : Raw → Int
  | [] => -1
  | c :: _ =>
    if c.isDigit then 0
    else if c.isAlpha then c.toNat
    else if c = '~' then -2
    else c.toNat + 256

/-- Versions in order: texts by rank, and numbers between them by value. -/
def compareVersionParts : Nat → Raw → Raw → Ordering
  | 0, _, _ => .eq
  | fuel + 1, a, b =>
    if a.isEmpty ∧ b.isEmpty then .eq
    else if (a.head?.any (!·.isDigit)) ∨ (b.head?.any (!·.isDigit)) then
      (compare (versionRank a) (versionRank b)).then
        (compareVersionParts fuel (a.drop 1) (b.drop 1))
    else
      let x := a.takeWhile Char.isDigit
      let y := b.takeWhile Char.isDigit
      (compare (Raw.valueIn 10 x) (Raw.valueIn 10 y)).then
        (compareVersionParts fuel (a.drop x.length) (b.drop y.length))

/-- A name without the endings that follow points. -/
def versionStem (raw : Raw) : Raw :=
  let parts := Raw.splitOn '.' raw
  let isEnding (part : Raw) : Bool :=
    part.head?.any (fun c => c.isAlpha || c == '~') &&
      part.all fun c => c.isAlphanum || c == '~'
  let endings := ((parts.drop 1).reverse.takeWhile isEnding).length
  Raw.join ['.'] (parts.take (parts.length - endings))

/-- Texts in the order of the versions that they name. -/
def compareVersions (a b : Raw) : Ordering :=
  let rank (raw : Raw) : Nat :=
    if raw.isEmpty then 0 else if raw = ['.'] then 1 else if raw = ['.', '.'] then 2
    else if raw.head? = some '.' then 3 else 4
  let fuel := a.length + b.length + 2
  let a' := if rank a = 3 then a.drop 1 else a
  let b' := if rank b = 3 then b.drop 1 else b
  ((compare (rank a) (rank b)).then
    (compareVersionParts fuel (versionStem a') (versionStem b'))).then
      (compareVersionParts fuel a' b')

/-! ## Styles -/

/-- How a key is compared. -/
structure OrderStyle where
  /-- The letter of the order, if it is not that of bytes. -/
  kind : Option Char
  isReversed : Bool
  foldsCase : Bool
  /-- Only letters, digits and blanks count. -/
  isDictionary : Bool
  /-- Only characters that can be seen count. -/
  onlyVisible : Bool
  /-- Blanks at the start, or at the end, of a key do not count. -/
  skipsStart : Bool
  skipsEnd : Bool

/-- The order of bytes. -/
def OrderStyle.usual : OrderStyle := ⟨none, false, false, false, false, false, false⟩

/-- Whether a style is the usual one. -/
def OrderStyle.isUsual (s : OrderStyle) : Bool :=
  s.kind.isNone && !s.isReversed && !s.foldsCase && !s.isDictionary && !s.onlyVisible &&
    !s.skipsStart && !s.skipsEnd

/-- A style with what a letter adds to it. -/
def OrderStyle.add? (s : OrderStyle) (isStart isEnd : Bool) (letter : Char) :
    Option OrderStyle :=
  match letter with
  | 'b' => some { s with skipsStart := s.skipsStart || isStart, skipsEnd := s.skipsEnd || isEnd }
  | 'd' => some { s with isDictionary := true }
  | 'f' => some { s with foldsCase := true }
  | 'i' => some { s with onlyVisible := true }
  | 'r' => some { s with isReversed := true }
  | _ => if "ghMnRV".toList.contains letter then some { s with kind := some letter } else none

/-- A text as far as it counts. -/
def OrderStyle.text (s : OrderStyle) (raw : Raw) : Raw :=
  let kept := if s.isDictionary then raw.filter fun c => c.isAlphanum || Raw.isBlank c
    else if s.onlyVisible then raw.filter fun c => c == ' ' || Raw.isVisible c
    else raw
  if s.foldsCase then kept.map Char.toUpper else kept

/-- Texts in the order of a style. -/
def OrderStyle.compareTexts (s : OrderStyle) (a b : Raw) : Ordering :=
  let order := match s.kind with
    | some 'n' => (leadingDecimal a).cmp (leadingDecimal b)
    | some 'g' => compareFloats a b
    | some 'h' =>
      (compare (unitRank a) (unitRank b)).then ((leadingDecimal a).cmp (leadingDecimal b))
    | some 'M' => compare (monthOf a) (monthOf b)
    | some 'V' => compareVersions a b
    | _ => compareRaw (s.text a) (s.text b)
  if s.isReversed then order.swap else order

/-! ## Keys -/

/-- A part of a line: from a character of a field to a character of a field, or to
the end of one, all counted from zero. -/
structure SortKey where
  /-- No field is the whole line. -/
  startField : Option Nat
  startChar : Nat
  /-- No field is the end of the line. -/
  endField : Option Nat
  endChar : Nat
  style : OrderStyle

/-- A line without some fields at its start.  Fields have a separator between them,
or each starts with the blanks in front of it. -/
def dropFields (separator : Option Char) : Nat → Raw → Raw
  | 0, line => line
  | n + 1, line =>
    match separator with
    | some c => dropFields separator n ((line.dropWhile (· ≠ c)).drop 1)
    | none => dropFields separator n ((line.dropWhile Raw.isBlank).dropWhile (!Raw.isBlank ·))

/-- The start of a line up to the end of a field; `n` fields are before it. -/
def fieldEnd (separator : Option Char) (n : Nat) (line : Raw) : Nat :=
  let rest := dropFields separator n line
  let field := match separator with
    | some c => (rest.takeWhile (· ≠ c)).length
    | none =>
      let blanks := (rest.takeWhile Raw.isBlank).length
      blanks + ((rest.drop blanks).takeWhile (!Raw.isBlank ·)).length
  line.length - rest.length + field

/-- The part of a line that a key stands for. -/
def SortKey.part (separator : Option Char) (k : SortKey) (line : Raw) : Raw :=
  let skip (isSkipped : Bool) (raw : Raw) : Raw :=
    if isSkipped then raw.dropWhile Raw.isBlank else raw
  let start := skip k.style.skipsStart (dropFields separator (k.startField.getD 0) line)
  let start := start.drop k.startChar
  match k.endField with
  | none => start
  | some field =>
    let last := if k.endChar = 0 then fieldEnd separator field line
      else
        let rest := skip k.style.skipsEnd (dropFields separator field line)
        min line.length (line.length - rest.length + k.endChar)
    start.take (last - (line.length - start.length))

/-- Lines compared by one key after the other. -/
def compareByKeys (separator : Option Char) (keys : List SortKey) (a b : Raw) : Ordering :=
  keys.foldl (fun order k =>
    match order with
    | .eq => k.style.compareTexts (k.part separator a) (k.part separator b)
    | order => order) .eq

/-! ## Keys in words -/

/-- The letters of a style at the head of a text, on top of a style, and what
follows them. -/
def readStyle (isStart isEnd : Bool) : OrderStyle → Raw → OrderStyle × Raw
  | s, [] => (s, [])
  | s, c :: rest =>
    match s.add? isStart isEnd c with
    | some s => readStyle isStart isEnd s rest
    | none => (s, c :: rest)

/-- What is wrong with the description of a key. -/
def badKey (what : String) (raw : Raw) : Raw :=
  what.toList ++ ": invalid field specification ".toList ++ Quoting.forReader raw

/-- The number at the head of the description of a key, and what follows it. -/
def readKeyNumber (what : String) (raw : Raw) : Except Raw (Nat × Raw) :=
  let body := raw.dropWhile Raw.isSpace
  let body := if body.head? = some '+' then body.drop 1 else body
  let digits := body.takeWhile Char.isDigit
  if digits.isEmpty then
    .error (what.toList ++ ": invalid count at start of ".toList ++ Quoting.forReader raw)
  else .ok (Raw.valueIn 10 digits, body.drop digits.length)

/-- The key that a text describes, or what is wrong with it. -/
def readSortKey (raw : Raw) : Except Raw SortKey := do
  let (field, rest) ← readKeyNumber "invalid number at field start" raw
  if field = 0 then throw (badKey "field number is zero" raw)
  let (char, rest) ← match rest with
    | '.' :: rest => do
      let (char, rest) ← readKeyNumber "invalid number after '.'" rest
      if char = 0 then throw (badKey "character offset is zero" raw)
      pure (char - 1, rest)
    | _ => pure (0, rest)
  let (style, rest) := readStyle true false .usual rest
  match rest with
  | [] => return ⟨some (field - 1), char, none, 0, style⟩
  | ',' :: rest =>
    let (last, rest) ← readKeyNumber "invalid number after ','" rest
    if last = 0 then throw (badKey "field number is zero" raw)
    let (endChar, rest) ← match rest with
      | '.' :: rest => readKeyNumber "invalid number after '.'" rest
      | _ => pure (0, rest)
    let (style, rest) := readStyle false true style rest
    if ¬ rest.isEmpty then throw (badKey "stray character in field spec" raw)
    return ⟨some (field - 1), char, some (last - 1), endChar, style⟩
  | _ => throw (badKey "stray character in field spec" raw)

/-! ## Keys in old words -/

/-- A position that is counted from zero, at the head of a text: a field, a character,
and what follows. -/
def readOldPosition? (raw : Raw) : Option (Nat × Nat × Raw) :=
  match readKeyNumber "" raw with
  | .error _ => none
  | .ok (field, '.' :: rest) =>
    match readKeyNumber "" rest with
    | .error _ => none
    | .ok (char, rest) => some (field, char, rest)
  | .ok (field, rest) => some (field, 0, rest)

/-- The usual description of a key that is described by positions that are counted from
zero, a plus sign in front of the first and a hyphen in front of the second. -/
def keyOfOld? (first : Raw) (second : Option Raw) : Option Raw :=
  match first with
  | '+' :: first =>
    match readOldPosition? first with
    | none => none
    | some (field, char, letters) =>
      let start := Raw.ofNat (field + 1) ++ '.' :: Raw.ofNat (char + 1) ++ letters
      if ¬ (readStyle true false .usual letters).2.isEmpty then none
      else
        match second with
        | none => some start
        | some second =>
          match readOldPosition? (second.drop 1) with
          | none => none
          | some (field, 0, letters) =>
            some (start ++ ',' :: Raw.ofNat (max field 1) ++ letters)
          | some (field, char, letters) =>
            some (start ++ ',' :: Raw.ofNat (field + 1) ++ '.' :: Raw.ofNat char ++ letters)
  | _ => none

/-- Whether the value of an option is the next argument. -/
def takesNext (argument : Raw) : Bool :=
  match argument with
  | '-' :: '-' :: name =>
    ["key", "output", "field-separator", "buffer-size", "temporary-directory", "sort",
      "parallel", "batch-size", "files0-from", "random-source", "compress-program"].any (·.toList = name)
  | '-' :: letters =>
    letters.getLast?.any ("koStTy".toList.contains ·) &&
      !letters.dropLast.any ("koStTy".toList.contains ·)
  | _ => false

/-- Arguments with keys in their usual description. -/
def withUsualKeys : List Raw → List Raw
  | [] => []
  | argument :: rest =>
    if argument = ['-', '-'] then argument :: rest
    else if takesNext argument then
      match rest with
      | [] => [argument]
      | value :: rest => argument :: value :: withUsualKeys rest
    else
      match rest with
      | [] =>
        match keyOfOld? argument none with
        | some key => ["-k".toList ++ key]
        | none => [argument]
      | second :: others =>
        let isSecond : Bool := match second with
          | '-' :: c :: _ => c.isDigit
          | _ => false
        if isSecond then
          match keyOfOld? argument (some second) with
          | some key => ("-k".toList ++ key) :: withUsualKeys others
          | none => argument :: withUsualKeys (second :: others)
        else
          match keyOfOld? argument none with
          | some key => ("-k".toList ++ key) :: withUsualKeys (second :: others)
          | none => argument :: withUsualKeys (second :: others)

end Tool
end MakeTen
