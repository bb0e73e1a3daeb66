import MakeTen.Tool.Comparing
/-!
# Files in blocks

Programs that copy a given number of blocks of bytes, or cut a file into files of
their own.

Main definitions:

- Function `Tool.dd`: blocks copied.
- Function `Tool.split`: a file in pieces.
-/

namespace MakeTen
namespace Tool

/-! ## Blocks -/

/-- Take at most so many bytes of the input, and leave the rest for others. -/
def takeBytes (count : Nat) : Job Raw := do
  let d ← get
  if d.input.length < count ∧ ¬ d.isEnded then throw .input
  set { d with input := d.input.drop count, returnsInput := true }
  return d.input.take count

/-- A number of bytes, which may be a product. -/
def product? (raw : Raw) : Option Nat :=
  ((Raw.splitOn 'x' raw).mapM size?).map fun parts => parts.foldl (· * ·) 1

/-- How blocks are copied. -/
structure BlockPlan where
  input : Option Raw
  output : Option Raw
  inputSize : Nat
  outputSize : Nat
  hasOneSize : Bool
  count : Option Nat
  skip : Nat
  seek : Nat
  conversions : List Raw
  inputFlags : List Raw
  outputFlags : List Raw
  status : Raw

/-- The ways in which blocks can be converted. -/
def blockConversions : List String :=
  ["ascii", "ebcdic", "ibm", "block", "unblock", "lcase", "ucase", "sparse", "swab", "sync",
    "excl", "nocreat", "notrunc", "noerror", "fdatasync", "fsync"]

/-- Complain about a word among words that are known. -/
def badWord {α : Type} (what : String) (word : Raw) : Job α :=
  giveUsage 1 ("invalid ".toList ++ what.toList ++ ": ".toList ++ Quoting.forReader word)

/-- Read an operand that says how blocks are copied. -/
def readBlockWord (p : BlockPlan) (word : Raw) : Job BlockPlan := do
  let key := word.takeWhile (· ≠ '=')
  let value := word.drop (key.length + 1)
  let unknown : Job BlockPlan :=
    giveUsage 1 ("unrecognized operand ".toList ++ named word)
  let number (least : Nat) : Job Nat := do
    let text := if value.getLast? = some 'B' ∧ (value.dropLast.getLast?.any Char.isDigit) then
        value.dropLast else value
    match product? text with
    | some n => if least ≤ n then pure n else giveUp 1 ("invalid number: ".toList ++ named value)
    | none => giveUp 1 ("invalid number: ".toList ++ named value)
  if ¬ word.contains '=' then unknown
  else
    match String.ofList key with
    | "if" => return { p with input := some value }
    | "of" => return { p with output := some value }
    | "bs" => do
      let n ← number 1
      return { p with inputSize := n, outputSize := n, hasOneSize := true }
    | "ibs" => return { p with inputSize := ← number 1 }
    | "obs" => return { p with outputSize := ← number 1 }
    | "cbs" => do
      let _ ← number 1
      return p
    | "count" => return { p with count := some (← number 0) }
    | "skip" => return { p with skip := ← number 0 }
    | "iseek" => return { p with skip := ← number 0 }
    | "seek" => return { p with seek := ← number 0 }
    | "oseek" => return { p with seek := ← number 0 }
    | "conv" =>
      let words := Raw.splitOn ',' value
      for w in words do
        if ¬ blockConversions.any (·.toList = w) then badWord "conversion" w
      return { p with conversions := p.conversions ++ words }
    | "iflag" => return { p with inputFlags := p.inputFlags ++ Raw.splitOn ',' value }
    | "oflag" => return { p with outputFlags := p.outputFlags ++ Raw.splitOn ',' value }
    | "status" =>
      if ["none", "noxfer", "progress"].any (·.toList = value) then
        return { p with status := value }
      else badWord "status level" value
    | _ => unknown

/-- Bytes with the two of each pair exchanged. -/
def swapPairs : Raw → Raw
  | a :: b :: rest => b :: a :: swapPairs rest
  | rest => rest

/-- A size with a letter for a multiple of a unit, rounded to the nearest. -/
def scaledSize (unit : Nat) (letters ending : String) (n : Nat) : Raw :=
  let level := if n < unit * unit then 1 else if n < unit * unit * unit then 2
    else if n < unit * unit * unit * unit then 3 else 4
  let scale := (List.replicate level unit).foldl (· * ·) 1
  let tenths := (2 * n * 10 + scale) / (2 * scale)
  let number := if tenths < 100 then
      Raw.ofNat (tenths / 10) ++ ['.'] ++ Raw.ofNat (tenths % 10)
    else Raw.ofNat ((2 * n + scale) / (2 * scale))
  number ++ [' ', letters.toList.getD (level - 1) 'k'] ++ ending.toList

/-- Copy blocks. -/
def dd : Job Unit := do
  let call := (← get).call
  if call.arguments = ["--version".toList] then
    sayLine "dd (coreutils) 9.4".toList
    exit 0
  if call.arguments = ["--help".toList] then
    sayLine "Usage: dd [OPERAND]...".toList
    exit 0
  let mut p : BlockPlan := ⟨none, none, 512, 512, false, none, 0, 0, [], [], [], []⟩
  for word in call.arguments do
    p ← readBlockWord p word
  let has (words : List Raw) (word : String) : Bool := words.contains word.toList
  let isByBytes : Bool := has p.inputFlags "count_bytes"
  let skip := if has p.inputFlags "skip_bytes" then p.skip else p.skip * p.inputSize
  let limit := p.count.map fun n => if isByBytes then n else n * p.inputSize
  let openInput (path : Raw) : Job Raw := do
    if (← get).files.node? (Raw.toString path) = some .directory then
      giveUp 1 ("error reading ".toList ++ named path ++ ": Is a directory".toList)
    match ← contents path with
    | .ok raw => return raw
    | .error fault =>
      complainThat "failed to open " path fault
      exit 1
  let isEndless (path : Raw) : Job Bool := do
    return match (← get).files.node? (Raw.toString path) with
      | some (.device (.descriptor _)) => false
      | some (.device .null) => false
      | some (.device _) => true
      | _ => false
  let isGiven := p.input.isNone
  if let some fault := call.inputFault then
    if isGiven then
      complainThat "error reading " "standard input".toList fault
      if fault = .badDescriptor then
        complainThat "closing input file " "standard input".toList fault
      exit 1
  let raw ← match p.input, limit with
    | none, none => do
      let raw ← readAll
      pure (raw.drop skip)
    | none, some n => do
      let raw ← takeBytes (skip + n)
      pure (raw.drop skip)
    | some path, some n => do
      if ← isEndless path then
        let start ← openInput path
        pure ((List.replicate (n / (max 1 start.length) + 1) start).flatten.take n)
      else
        let raw ← openInput path
        pure ((raw.drop skip).take n)
    | some path, none => do
      let raw ← openInput path
      pure (raw.drop skip)
  let full := raw.length / p.inputSize
  let partialIn := if raw.length % p.inputSize = 0 then 0 else 1
  let padded := if has p.conversions "sync" ∧ partialIn = 1 then
      raw ++ List.replicate (p.inputSize - raw.length % p.inputSize) Raw.nul
    else raw
  let changed := if has p.conversions "ucase" then padded.map Char.toUpper
    else if has p.conversions "lcase" then padded.map Char.toLower else padded
  let changed := if has p.conversions "swab" then swapPairs changed else changed
  match p.output with
  | none => say changed
  | some path =>
    let isKept : Bool := has p.conversions "notrunc"
    let old ← match (← get).files.read (Raw.toString path) with
      | .ok bytes => pure (Raw.ofBytes bytes)
      | .error _ => pure []
    let start := if has p.outputFlags "append" then old.length
      else if has p.outputFlags "seek_bytes" then p.seek else p.seek * p.outputSize
    let before := old.take start ++ List.replicate (start - old.length) Raw.nul
    let after := if isKept ∨ has p.outputFlags "append" then old.drop (start + changed.length)
      else []
    let isPlain : Bool := match (← get).files.node? (Raw.toString path) with
      | some (.device _) => true
      | _ => false
    match ← store path false (if isPlain then changed else before ++ changed ++ after) with
    | .ok () => pure ()
    | .error fault =>
      complainThat (if fault = .noSpace then "writing to " else "failed to open ") path fault
      exit 1
  flush
  let outFull := if p.hasOneSize then full else changed.length / p.outputSize
  let outPartial := if p.hasOneSize then partialIn
    else if changed.length % p.outputSize = 0 then 0 else 1
  let pair (a b : Nat) : Raw := Raw.ofNat a ++ ['+'] ++ Raw.ofNat b
  if p.status ≠ "none".toList then
    grumble (pair full partialIn ++ " records in".toList)
    grumble (pair outFull outPartial ++ " records out".toList)
    if p.status ≠ "noxfer".toList then
      let n := changed.length
      let size := if n = 1 then "1 byte".toList else Raw.ofNat n ++ " bytes".toList
      let size := if n < 1000 then size
        else if n < 1024 then size ++ " (".toList ++ scaledSize 1000 "kMGT" "B" n ++ [')']
        else size ++ " (".toList ++ scaledSize 1000 "kMGT" "B" n ++ ", ".toList ++
          scaledSize 1024 "KMGT" "iB" n ++ [')']
      grumble (size ++ " copied, 2.1e-05 s, 24.4 kB/s".toList)
  exit 0

/-! ## Pieces -/

/-- The ending of a piece's name. -/
def pieceEnding (letters : Raw) (width number : Nat) : Raw :=
  let base := letters.length
  (List.range width).reverse.map fun n =>
    letters.getD (number / (List.replicate n base).foldl (· * ·) 1 % base) 'a'

/-- Pieces of some lengths at most. -/
def cutEvery (size : Nat) : Nat → Raw → List Raw
  | 0, _ => []
  | _, [] => []
  | fuel + 1, raw => raw.take size :: cutEvery size fuel (raw.drop size)

/-- Lines in groups of some number. -/
def groupLines (size : Nat) : Nat → List Raw → List Raw
  | 0, _ => []
  | _, [] => []
  | fuel + 1, lines => (lines.take size).flatten :: groupLines size fuel (lines.drop size)

/-- Lines in groups that have at most some bytes; longer lines are cut. -/
def fillGroups (size : Nat) : Nat → Raw → List Raw → List Raw
  | 0, current, _ => [current]
  | fuel + 1, current, lines =>
    match lines with
    | [] => if current.isEmpty then [] else [current]
    | line :: rest =>
      if current.length + line.length ≤ size then fillGroups size fuel (current ++ line) rest
      else if current.isEmpty then
        line.take size :: fillGroups size fuel [] (line.drop size :: rest)
      else current :: fillGroups size fuel [] (line :: rest)

/-- Pieces of about the same length, some number of them. -/
def cutInto (count : Nat) (raw : Raw) : List Raw :=
  let size := raw.length / count
  let more := raw.length % count
  (List.range count).map fun n =>
    let start := n * size + min n more
    (raw.drop start).take (if n < more then size + 1 else size)

/-- Groups of lines, some number of them: each line is in the first group that ends
after its start when the text is cut into pieces of about the same length. -/
def linesInto (count : Nat) (raw : Raw) (lines : List Raw) : List Raw :=
  let size := raw.length / count
  let more := raw.length % count
  let starts := (lines.foldl (fun (all : List (Nat × Raw) × Nat) line =>
    (all.1 ++ [(all.2, line)], all.2 + line.length)) ([], 0)).1
  let groupOf (start : Nat) : Nat :=
    ((List.range count).find? fun k => start < (k + 1) * size + min (k + 1) more).getD (count - 1)
  (List.range count).map fun n =>
    (starts.filterMap fun (start, line) => if groupOf start = n then some line else none).flatten

/-- Cut a file into files of their own. -/
def split : Job Unit := do
  let o ← options ("a,suffix-length: additional-suffix: b,bytes: C,line-bytes: d " ++
    "e,elide-empty-files filter: hex-suffixes? l,lines: n,number: numeric-suffixes? " ++
    "t,separator: u,unbuffered verbose x")
  let (path, stem) ← match o.operands with
    | [] => pure (['-'], ['x'])
    | [path] => pure (path, ['x'])
    | [path, stem] => pure (path, stem)
    | _ :: _ :: extra :: _ => extraOperand 1 extra
  let separator := match o.value? "t" with
    | some ['\\', '0'] => Raw.nul
    | some (c :: _) => c
    | _ => '\n'
  let number (key what : String) : Job (Option Nat) := do
    match o.value? key with
    | none => return none
    | some text =>
      match size? text with
      | some (n + 1) => return some (n + 1)
      | _ => giveUp 1 ("invalid number of ".toList ++ what.toList ++ ": ".toList ++
          Quoting.forReader text)
  let lineCount ← number "l" "lines"
  let byteCount ← number "b" "bytes"
  let groupSize ← number "C" "lines"
  let raw ← match ← operand path with
    | .ok raw => pure raw
    | .error fault =>
      if failsReading fault ∧ path = ['-'] then
        complainOf path fault
        exit 1
      complain ("cannot open ".toList ++ named path ++ " for reading: ".toList ++
        faultText fault)
      exit 1
  let lines := (linesEnding separator raw).map fun line =>
    if line.isEnded then line.raw ++ [separator] else line.raw
  let fuel := 2 * raw.length + 2
  let mut only : Option Nat := none
  let mut pieces : List Raw := []
  match o.value? "n" with
  | some text =>
    let parts := Raw.splitOn '/' text
    let numbers := parts.filterMap Raw.toNat?
    let kind := String.ofList ((parts.find? fun w => w.any Char.isAlpha).getD [])
    let isKnown : Bool := (kind == "" || kind == "l" || kind == "r") &&
      numbers.length + (if kind == "" then 0 else 1) == parts.length
    let (chosen, count) : Option Nat × Nat := match numbers with
      | [k, n] => (some k, n)
      | [n] => (none, n)
      | _ => (none, 0)
    if count = 0 ∨ ¬ isKnown then
      giveUp 1 ("invalid number of chunks: ".toList ++ Quoting.forReader text)
    only := chosen
    if kind == "l" then pieces := linesInto count raw lines
    else if kind == "r" then
      pieces := (List.range count).map fun n =>
        (lines.zipIdx.filterMap fun (line, i) => if i % count = n then some line else none).flatten
    else pieces := cutInto count raw
    if o.has "e" then pieces := pieces.filter (!·.isEmpty)
  | none =>
    match byteCount, groupSize with
    | some size, _ => pieces := cutEvery size fuel raw
    | none, some size => pieces := fillGroups size fuel [] lines
    | none, none => pieces := groupLines (lineCount.getD 1000) fuel lines
  match only with
  | some n =>
    say (pieces.getD (n - 1) [])
    exit 0
  | none => pure ()
  let isNumeric : Bool := o.has "d" || o.has "numeric-suffixes"
  let isHexadecimal : Bool := o.has "x" || o.has "hex-suffixes"
  let letters : Raw :=
    if isNumeric then "0123456789".toList
    else if isHexadecimal then "0123456789abcdef".toList
    else "abcdefghijklmnopqrstuvwxyz".toList
  let start := (((o.value? "numeric-suffixes").bind Raw.toNat?).getD
    (((o.value? "hex-suffixes").bind Raw.toNat?).getD 0))
  let needed := if o.has "n" then (Raw.digits letters.length (pieces.length - 1)).length else 2
  let width := ((o.value? "a").bind Raw.toNat?).getD (max 2 needed)
  let room := (List.replicate width letters.length).foldl (· * ·) 1
  for (piece, n) in pieces.zipIdx do
    if room ≤ n + start then
      giveUp 1 "output file suffixes exhausted".toList
    let name := stem ++ pieceEnding letters width (n + start) ++
      (o.value? "additional-suffix").getD []
    match o.value? "filter" with
    | some command =>
      let call := (← get).call
      let words := ["sh".toList, "-c".toList, command]
      let environment := setEntry "FILE".toList name call.environment
      let _ ← ask (.start ⟨words, environment, .given piece, false, [], false⟩)
    | none =>
      if o.has "verbose" then sayLine ("creating file ".toList ++ named name)
      match ← store name false piece with
      | .ok () => pure ()
      | .error fault => giveUp 1 (shown name ++ ": ".toList ++ faultText fault)
  exit 0

end Tool
end MakeTen
