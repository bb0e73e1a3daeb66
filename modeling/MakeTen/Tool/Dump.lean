import MakeTen.Number.FloatBits
import MakeTen.Number.FloatText
import MakeTen.Tool.Options
/-!
# Dumps

The program that shows bytes as numbers or characters.  Each line starts with the
address of its first byte; a line that repeats the one before is left out.

Main definitions:

- Structure `Tool.Column`: how the bytes of a line are shown.
- Function `Tool.od`: the program.
-/

namespace MakeTen
namespace Tool

/-! ## Columns -/

/-- What bytes are shown as. -/
inductive Notation where
  | decimal
  | unsigned
  | octal
  | hexadecimal
  /-- Floating numbers. -/
  | floating
  /-- Characters, with escapes for those that cannot be seen. -/
  | character
  /-- Names of characters. -/
  | named
  deriving DecidableEq

/-- How the bytes of a line are shown: some of them at a time, and perhaps all of
them as text behind. -/
structure Column where
  kind : Notation
  size : Nat
  showsText : Bool

/-- The number of digits or characters of an item. -/
def Column.digits (c : Column) : Nat :=
  let pick (sizes : List Nat) : Nat :=
    match c.size with
    | 1 => sizes.getD 0 0
    | 2 => sizes.getD 1 0
    | 4 => sizes.getD 2 0
    | _ => sizes.getD 3 0
  match c.kind with
  | .decimal => pick [4, 6, 11, 20]
  | .unsigned => pick [3, 5, 10, 20]
  | .octal => pick [3, 6, 11, 22]
  | .hexadecimal => 2 * c.size
  | .floating => if c.size = 4 then 15 else if c.size = 8 then 24 else 29
  | .character => 3
  | .named => 3

/-- The names of the characters that cannot be seen. -/
def controlNames : Array String :=
  #["nul", "soh", "stx", "etx", "eot", "enq", "ack", "bel", "bs", "ht", "nl", "vt", "ff", "cr",
    "so", "si", "dle", "dc1", "dc2", "dc3", "dc4", "nak", "syn", "etb", "can", "em", "sub", "esc",
    "fs", "gs", "rs", "us", "sp"]

/-- An item of a line. -/
def Column.item (c : Column) (bytes : Raw) : Raw :=
  let n := bytes.foldr (fun b n => n * 256 + b.toNat) 0
  match c.kind with
  | .decimal =>
    let half := 1 <<< (8 * c.size - 1)
    Raw.ofInt (if half ≤ n then (n : Int) - (2 * half : Nat) else n)
  | .unsigned => Raw.ofNat n
  | .octal => Raw.padStart c.digits '0' (Raw.digits 8 n)
  | .hexadecimal => Raw.padStart c.digits '0' (Raw.digits 16 n)
  | .floating =>
    if c.size = 4 then (Floating.ofBits32 n).shortest .single 6
    else if c.size = 8 then (Floating.ofBits n.toUInt64).shortest .double 15
    else (Floating.ofBits80 (n % (1 <<< 80))).shortest .extended 18
  | .character =>
    match n with
    | 0 => ['\\', '0']
    | 7 => ['\\', 'a']
    | 8 => ['\\', 'b']
    | 9 => ['\\', 't']
    | 10 => ['\\', 'n']
    | 11 => ['\\', 'v']
    | 12 => ['\\', 'f']
    | 13 => ['\\', 'r']
    | n =>
      if 32 ≤ n ∧ n < 127 then [Char.ofNat n] else Raw.padStart 3 '0' (Raw.digits 8 n)
  | .named =>
    let low := n % 128
    if low = 127 then "del".toList
    else if low ≤ 32 then (controlNames.getD low "").toList
    else [Char.ofNat low]

/-- Bytes in groups of some size. -/
def groupsOf (size : Nat) : Nat → Raw → List Raw
  | 0, _ => []
  | fuel + 1, raw =>
    if raw.isEmpty ∨ size = 0 then [] else raw.take size :: groupsOf size fuel (raw.drop size)

/-- The bytes of a line, of which there are `width` unless it is the last one, with
so many blanks for each block beyond what the items take.  Zeros fill up the last
item. -/
def Column.line (c : Column) (width padding : Nat) (raw : Raw) : Raw :=
  let fields := width / c.size
  let zeros := (c.size - raw.length % c.size) % c.size
  let items := groupsOf c.size (raw.length + 1) (raw ++ List.replicate zeros Raw.nul)
  let shown := items.zipIdx.flatMap fun (bytes, n) =>
    let left := fields - n
    let before := if n = 0 then padding else padding * left / fields
    let after := padding * (left - 1) / fields
    Raw.padStart (c.digits + (before - after)) ' ' (c.item bytes)
  if c.showsText then
    let blank := fields - items.length
    let gap := blank * c.digits + padding * blank / fields
    shown ++ List.replicate gap ' ' ++ "  >".toList ++
      raw.map (fun b => if b = ' ' ∨ Raw.isVisible b then b else '.') ++ ['<']
  else shown

/-- How many blanks a line has beyond what its items take, so that the lines of all
columns are aligned. -/
def paddingOf (columns : List Column) (width : Nat) (c : Column) : Nat :=
  let size (extra : Nat) (c : Column) : Nat := (c.digits + extra) * (width / c.size)
  (columns.map (size 1)).foldl max 0 - size 0 c

/-! ## Kinds in words -/

/-- The size that follows a letter, and what follows it.  There are letters for sizes, and
only some sizes are allowed. -/
def readSize (letters : List (Char × Nat)) (allowed : List Nat) (usual : Nat) (raw : Raw) :
    Except Raw (Nat × Raw) :=
  match (raw.head?).bind (letters.lookup ·) with
  | some n => .ok (n, raw.drop 1)
  | none =>
    let digits := raw.takeWhile Char.isDigit
    if digits.isEmpty then .ok (usual, raw)
    else
      let n := Raw.valueIn 10 digits
      if allowed.contains n then .ok (n, raw.drop digits.length) else .error digits

/-- The columns that a text describes, or what is wrong with it. -/
def readColumns (whole : Raw) : Nat → Raw → Except Raw (List Column)
  | 0, _ => .ok []
  | fuel + 1, raw => do
    let trail (kind : Notation) (size : Nat) (rest : Raw) : Except Raw (List Column) :=
      match rest with
      | 'z' :: rest => (readColumns whole fuel rest).map (⟨kind, size, true⟩ :: ·)
      | _ => (readColumns whole fuel rest).map (⟨kind, size, false⟩ :: ·)
    let refuse (digits : Raw) (word : String) : Except Raw (List Column) :=
      .error ("invalid type string ".toList ++ Quoting.forReader whole ++
        ";\nthis system doesn't provide a ".toList ++ digits ++ "-byte ".toList ++ word.toList ++
        " type".toList)
    let sized (kind : Notation) (rest : Raw) : Except Raw (List Column) :=
      match readSize [('C', 1), ('S', 2), ('I', 4), ('L', 8)] [1, 2, 4, 8] 4 rest with
      | .ok (size, rest) => trail kind size rest
      | .error digits => refuse digits "integral"
    match raw with
    | [] => return []
    | 'd' :: rest => sized .decimal rest
    | 'u' :: rest => sized .unsigned rest
    | 'o' :: rest => sized .octal rest
    | 'x' :: rest => sized .hexadecimal rest
    | 'f' :: rest =>
      match readSize [('F', 4), ('D', 8), ('L', 16)] [4, 8, 16] 8 rest with
      | .ok (size, rest) => trail .floating size rest
      | .error digits => refuse digits "floating point"
    | 'c' :: rest => trail .character 1 rest
    | 'a' :: rest => trail .named 1 rest
    | c :: _ =>
      .error ("invalid character '".toList ++ [c] ++ "' in type string ".toList ++
        Quoting.forReader whole)

/-- The columns of the letters that stand for common ones. -/
def shortColumns : List (String × Column) :=
  [("a", ⟨.named, 1, false⟩), ("b", ⟨.octal, 1, false⟩), ("c", ⟨.character, 1, false⟩),
    ("d", ⟨.unsigned, 2, false⟩), ("i", ⟨.decimal, 4, false⟩), ("l", ⟨.decimal, 8, false⟩),
    ("o", ⟨.octal, 2, false⟩), ("s", ⟨.decimal, 2, false⟩), ("x", ⟨.hexadecimal, 2, false⟩),
    ("h", ⟨.hexadecimal, 2, false⟩), ("B", ⟨.octal, 2, false⟩), ("D", ⟨.unsigned, 4, false⟩),
    ("e", ⟨.floating, 8, false⟩), ("f", ⟨.floating, 4, false⟩), ("F", ⟨.floating, 8, false⟩),
    ("H", ⟨.hexadecimal, 4, false⟩), ("I", ⟨.decimal, 8, false⟩), ("L", ⟨.decimal, 8, false⟩),
    ("O", ⟨.octal, 4, false⟩), ("X", ⟨.hexadecimal, 4, false⟩)]

/-! ## The program -/

/-- An address in some base; nothing if there is no base. -/
def addressText (base : Char) (n : Nat) : Raw :=
  match base with
  | 'd' => Raw.padStart 7 '0' (Raw.ofNat n)
  | 'o' => Raw.padStart 7 '0' (Raw.digits 8 n)
  | 'x' => Raw.padStart 6 '0' (Raw.digits 16 n)
  | _ => []

/-- How bytes are dumped. -/
structure DumpStyle where
  columns : List Column
  /-- The base of addresses. -/
  base : Char
  /-- Bytes of a line. -/
  width : Nat
  /-- Whether lines are shown that repeat the one before. -/
  showsAll : Bool

/-- Where a dump has come to. -/
structure DumpState where
  address : Nat
  /-- The line before. -/
  last : Option Raw
  isRepeated : Bool
  /-- Bytes that do not fill a line yet. -/
  pending : Raw
  /-- Bytes that are still to be skipped. -/
  skipped : Nat
  /-- A complaint that waits until nothing is left to be skipped. -/
  warning : Option Raw
  isGood : Bool

/-- Show the bytes of a line. -/
def dumpLine (style : DumpStyle) (s : DumpState) (block : Raw) : Job DumpState := do
  let next := { s with address := s.address + block.length }
  if ¬ style.showsAll ∧ s.last = some block ∧ block.length = style.width then
    if ¬ s.isRepeated then say ['*', '\n']
    return { next with isRepeated := true }
  else
    for (c, n) in style.columns.zipIdx do
      let address := addressText style.base s.address
      let lead := if n = 0 then address else List.replicate address.length ' '
      say (lead ++ c.line style.width (paddingOf style.columns style.width c) block ++ ['\n'])
    return { next with last := some block, isRepeated := false }

/-- Show the lines that are full. -/
def dumpFull (style : DumpStyle) : Nat → DumpState → Job DumpState
  | 0, s => return s
  | fuel + 1, s => do
    if s.pending.length < style.width then return s
    let block := s.pending.take style.width
    let s ← dumpLine style { s with pending := s.pending.drop style.width } block
    dumpFull style fuel s

/-- Texts of visible characters that end with a zero byte, each with its address; `found`
is the text so far, in reverse.  At most so many bytes are looked at. -/
def stringsIn (least : Nat) (limit : Option Nat) : Nat → Raw → Raw → List (Nat × Raw)
  | address, found, [] =>
    if least < found.length ∧ limit = some address then
      [(address - found.length - 1, found.reverse)]
    else []
  | address, found, c :: rest =>
    if Raw.isVisible c ∨ c = ' ' then stringsIn least limit (address + 1) (c :: found) rest
    else if c = Raw.nul ∧ least ≤ found.length then
      (address - found.length, found.reverse) :: stringsIn least limit (address + 1) [] rest
    else stringsIn least limit (address + 1) [] rest

/-- What options say about a dump. -/
structure DumpCall where
  base : Char
  skipped : Nat
  limit : Option Nat
  columns : List Column
  width : Option Nat
  strings : Option Nat
  isGood : Bool

/-- The options of a dump. -/
def dumpCall (o : Chosen) : Job DumpCall := do
  let mut d : DumpCall := ⟨'o', 0, none, [], none, none, true⟩
  for (key, value, spelling) in o.all do
    let number : Job Nat := scaledOption 0 "bEGKkMmPTYZ0" spelling value
    match key with
    | "A" =>
      match value with
      | c :: _ =>
        if ¬ "doxn".toList.contains c then
          giveUp 1 ("invalid output address radix '".toList ++ [c] ++
            "'; it must be one character from [doxn]".toList)
        d := { d with base := c }
      | [] =>
        giveUp 1 ("invalid output address radix '".toList ++ [Raw.nul] ++
          "'; it must be one character from [doxn]".toList)
    | "j" => d := { d with skipped := ← number }
    | "N" => d := { d with limit := some (← number) }
    | "S" => d := { d with strings := some (← number) }
    | "strings" =>
      let least ← if value.isEmpty then pure 3 else number
      d := { d with strings := some least }
    | "t" =>
      match readColumns value (value.length + 1) value with
      | .ok more => d := { d with columns := d.columns ++ more }
      | .error text =>
        complain text
        d := { d with isGood := false }
    | "w" =>
      let width ← if value.isEmpty then pure 32 else scaledOption 10 "" spelling value
      d := { d with width := some width }
    | "endian" =>
      let _ ← chooseWord 1 "--endian" true [["little"], ["big"]] value
    | key =>
      match shortColumns.lookup key with
      | some c => d := { d with columns := d.columns ++ [c] }
      | none => pure ()
  if ¬ d.isGood then exit 1
  if d.strings.isSome ∧ ¬ d.columns.isEmpty then
    giveUp 1 "no type may be specified when dumping strings".toList
  return d

/-- The number of bytes to skip that an operand after a plus sign asks for. -/
def oldOffset? (raw : Raw) : Option Nat :=
  let body := if raw.head? = some '+' then raw.drop 1 else raw
  let (base, body) : Nat × Raw :=
    if body.take 2 = ['0', 'x'] ∨ body.take 2 = ['0', 'X'] then (16, body.drop 2)
    else (8, body)
  match scaled? base "bB" body with
  | .ok n => some n
  | .error _ => none

/-- The files of a dump and the number of bytes to skip. -/
def dumpFiles (o : Chosen) (skipped : Nat) : List Raw × Nat :=
  let isModern := ["A", "j", "N", "S", "strings", "t", "v", "w"].any o.has
  match isModern, o.operands with
  | false, ['+' :: offset] =>
    match oldOffset? ('+' :: offset) with
    | some n => ([['-']], n)
    | none => (o.files, skipped)
  | false, [file, offset] =>
    if offset.head?.any fun c => c == '+' || c.isDigit then
      match oldOffset? offset with
      | some n => ([file], n)
      | none => (o.files, skipped)
    else (o.files, skipped)
  | _, _ => (o.files, skipped)

/-- Whether the place in a file can be set anywhere although the file has no contents of a
certain size. -/
def isEndless (path : Raw) : Job Bool := do
  let d ← get
  if path = ['-'] then
    return match d.call.descriptors.lookup 0 with
      | some (.device _) => true
      | _ => false
  match d.files.node? (Raw.toString path) with
  | some (.device (.descriptor _)) => return false
  | some (.device _) => return true
  | _ => return false

/-- The bytes of a file as far as they are wanted; some of them are skipped before. -/
def dumpInput (path : Raw) (wanted : Option Nat) : Job (Except HostFault Raw) := do
  match wanted with
  | some n =>
    if path = ['-'] ∧ (← get).call.inputFault.isNone then
      let d ← get
      if d.input.length < n ∧ ¬ d.isEnded then throw .input
      set { ← get with input := d.input.drop n, returnsInput := true }
      return .ok (d.input.take n)
    else operand path
  | none => operand path

/-- Go through the files of a dump. -/
def dumpThrough (style : DumpStyle) (first : Nat) (limit : Option Nat) :
    List Raw → Bool → DumpState → Job (Bool × DumpState)
  | [], isOpened, s => return (isOpened, s)
  | path :: rest, isOpened, s => do
    let reached := s.address + s.pending.length
    let left := limit.map fun n => first + n - reached
    if isOpened ∧ left = some 0 ∧ s.skipped = 0 then return (isOpened, s)
    match ← dumpInput path (left.map (s.skipped + ·)) with
    | .error fault =>
      flush
      complainOf (prettyName path) fault
      let isDirectory := failsReading fault
      let s := { s with isGood := false, skipped := if isDirectory then 0 else s.skipped }
      dumpThrough style first limit rest (isOpened || isDirectory) s
    | .ok raw =>
      let skipsAll ← isEndless path
      let kept := if skipsAll then raw else raw.drop s.skipped
      let skipped := if skipsAll then 0 else s.skipped - raw.length
      let kept := match left with
        | some n => kept.take n
        | none => kept
      let warning := s.warning.filter fun _ => skipped = 0
      for text in warning do complain text
      let s := { s with pending := s.pending ++ kept, skipped,
                        warning := s.warning.filter fun _ => skipped ≠ 0 }
      let s ← dumpFull style (s.pending.length + 1) s
      dumpThrough style first limit rest true s

/-- Show bytes. -/
def od : Job Unit := do
  let letters := String.intercalate " " (shortColumns.map (·.1))
  let o ← options ("A,address-radix: j,skip-bytes: N,read-bytes: S: strings? t,format: " ++
    "v,output-duplicates w,width? endian: traditional " ++ letters)
  let d ← dumpCall o
  let (files, first) := dumpFiles o d.skipped
  let columns := if d.columns.isEmpty then [⟨.octal, 2, false⟩] else d.columns
  let unit := (columns.map (·.size)).foldl max 1
  let isWide := d.width.all fun n => n ≠ 0 ∧ n % unit = 0
  let width := match d.width with
    | some n => if isWide then n else unit
    | none => if d.strings.isSome then 4096 else 16
  let style : DumpStyle := ⟨columns, d.base, width, o.has "v"⟩
  let warning := if isWide then none
    else some ("warning: invalid width ".toList ++ Raw.ofNat (d.width.getD 0) ++
      "; using ".toList ++ Raw.ofNat unit ++ " instead".toList)
  let start : DumpState := ⟨first, none, false, [], first, warning, true⟩
  match d.strings with
  | some least =>
    let mut raw : Raw := []
    let mut isGood := true
    for path in files do
      match ← dumpInput path (d.limit.map fun n => first + n - raw.length) with
      | .ok more => raw := raw ++ more
      | .error fault =>
        flush
        complainOf (prettyName path) fault
        isGood := false
    if raw.length < first then giveUp 1 "cannot skip past end of combined input".toList
    let bytes := raw.drop first
    let bytes := match d.limit with
      | some n => bytes.take n
      | none => bytes
    for (address, text) in stringsIn least (d.limit.map (first + ·)) first [] bytes do
      let lead := addressText d.base address
      say (lead ++ (if lead.isEmpty then [] else [' ']) ++ text ++ ['\n'])
    exitClosing isGood files "standard input"
  | none =>
    let (isOpened, s) ← dumpThrough style first d.limit files false start
    if ¬ isOpened then exit 1
    if 0 < s.skipped then giveUp 1 "cannot skip past end of combined input".toList
    let s ← if s.pending.isEmpty then pure s else dumpLine style s s.pending
    if d.base ≠ 'n' then sayLine (addressText d.base s.address)
    exitClosing s.isGood files "standard input"

end Tool
end MakeTen
