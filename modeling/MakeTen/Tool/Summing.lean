import MakeTen.Digest.Blake
import MakeTen.Digest.Checksum
import MakeTen.Digest.Md5
import MakeTen.Digest.Sha
import MakeTen.Digest.Sm3
import MakeTen.Text.Hex
import MakeTen.Text.Sextets
import MakeTen.Tool.Lines
/-!
# Sums of files

Programs that print digests of files and check them, and those that write bytes
as letters.

Main definitions:

- Structure `Tool.Summer`: a digest by its name.
- Functions `Tool.summing`, `Tool.cksum`, `Tool.sum`, `Tool.lettering` and
  `Tool.basenc`: the programs.
-/

namespace MakeTen
namespace Tool

/-! ## Digests -/

/-- A digest by its name. -/
structure Summer where
  title : String
  /-- The digest with some bytes. -/
  digest : Nat → List UInt8 → List UInt8
  /-- How many bytes it has, and whether there may be fewer. -/
  size : Nat
  isShortened : Bool

/-- A digest whose size is always the same. -/
def Summer.fixed (title : String) (digest : List UInt8 → List UInt8) (size : Nat) : Summer :=
  ⟨title, fun _ => digest, size, false⟩

/-- All digests, by the names of their programs. -/
def summers : List (String × Summer) :=
  [("md5sum", .fixed "MD5" Digest.md5 16), ("sha1sum", .fixed "SHA1" Digest.sha1 20),
    ("sha224sum", .fixed "SHA224" Digest.sha224 28),
    ("sha256sum", .fixed "SHA256" Digest.sha256 32),
    ("sha384sum", .fixed "SHA384" Digest.sha384 48),
    ("sha512sum", .fixed "SHA512" Digest.sha512 64),
    ("b2sum", ⟨"BLAKE2b", Digest.blake, 64, true⟩)]

/-- All digests, by the words that an option has for them. -/
def summersByWord : List (String × Summer) :=
  [("md5", .fixed "MD5" Digest.md5 16), ("sha1", .fixed "SHA1" Digest.sha1 20),
    ("sha224", .fixed "SHA224" Digest.sha224 28), ("sha256", .fixed "SHA256" Digest.sha256 32),
    ("sha384", .fixed "SHA384" Digest.sha384 48), ("sha512", .fixed "SHA512" Digest.sha512 64),
    ("blake2b", ⟨"BLAKE2b", Digest.blake, 64, true⟩), ("sm3", .fixed "SM3" Digest.sm3 32)]

/-- The digest of a text with some bytes, in hexadecimal digits. -/
def Summer.text (s : Summer) (size : Nat) (raw : Raw) : Raw :=
  (Hex.lower (s.digest size (Raw.toBytes raw))).toList

/-- A file name as it is printed, and whether it had to be changed. -/
def summedName (path : Raw) : Raw × Bool :=
  let isOdd := path.any fun c => c == '\\' || c == '\n' || c == '\r'
  let text := path.flatMap fun c =>
    match c with
    | '\\' => ['\\', '\\']
    | '\n' => ['\\', 'n']
    | '\r' => ['\\', 'r']
    | c => [c]
  (text, isOdd)

/-- A file name that was changed to be printed, if it can be one. -/
def unsummedName? : Raw → Option Raw
  | [] => some []
  | '\\' :: 'n' :: rest => (unsummedName? rest).map ('\n' :: ·)
  | '\\' :: 'r' :: rest => (unsummedName? rest).map ('\r' :: ·)
  | '\\' :: '\\' :: rest => (unsummedName? rest).map ('\\' :: ·)
  | '\\' :: _ => none
  | c :: rest => (unsummedName? rest).map (c :: ·)

/-! ## Checking -/

/-- What is known from the lines before: whether names follow their digests after a single
blank. -/
inductive LineStyle where
  | unknown
  | usual
  | single
  deriving DecidableEq

/-- A line that has been read: how many bytes the digest has, its digits, and the name. -/
structure SumLine where
  summer : Summer
  size : Nat
  digits : Raw
  name : Raw

/-- The name of a line as it is meant. -/
def sumName? (isChanged : Bool) (name : Raw) : Option Raw :=
  if isChanged then unsummedName? name else some name

/-- The rest of a line after its title, from the parenthesis on. -/
def Summer.readTitled? (s : Summer) (size : Nat) (isChanged : Bool) (rest : Raw) :
    Option SumLine :=
  let rest := if rest.head? = some ' ' then rest.drop 1 else rest
  match rest with
  | '(' :: rest =>
    let ending := (rest.reverse.takeWhile (· ≠ ')')).reverse
    let name := rest.take (rest.length - ending.length - 1)
    match ending.dropWhile Raw.isBlank with
    | '=' :: digits =>
      let digits := digits.dropWhile Raw.isBlank
      if ending.length < rest.length ∧ digits.length = 2 * size ∧ digits.all Raw.isHexadecimal then
        (sumName? isChanged name).map fun name => ⟨s, size, digits, name⟩
      else none
    | _ => none
  | _ => none

/-- A line that starts with the title of a digest, from there on. -/
def Summer.readTitle? (s : Summer) (isChanged : Bool) (line : Raw) : Option SumLine :=
  let rest := line.drop s.title.length
  match s.isShortened, rest with
  | true, '-' :: rest =>
    let digits := rest.takeWhile Char.isDigit
    let bits := Raw.valueIn 10 digits
    if digits.isEmpty ∨ bits = 0 ∨ 8 * s.size < bits ∨ bits % 8 ≠ 0 then none
    else s.readTitled? (bits / 8) isChanged (rest.drop digits.length)
  | _, rest => s.readTitled? s.size isChanged rest

/-- A line that starts with a digest. -/
def Summer.readDigits? (s : Summer) (style : LineStyle) (isChanged : Bool) (line : Raw) :
    LineStyle × Option SumLine :=
  let digits := line.takeWhile Raw.isHexadecimal
  let isGood := if s.isShortened then
      2 ≤ digits.length ∧ digits.length % 2 = 0 ∧ digits.length ≤ 2 * s.size
    else digits.length = 2 * s.size
  let give (style : LineStyle) (name : Raw) : LineStyle × Option SumLine :=
    (style, (sumName? isChanged name).map fun name => ⟨s, digits.length / 2, digits, name⟩)
  if ¬ isGood ∨ line.length < digits.length + 2 then (style, none)
  else
    match line.drop digits.length with
    | gap :: rest =>
      if ¬ Raw.isBlank gap then (style, none)
      else
        match rest with
        | mark :: next :: name =>
          if mark = ' ' ∨ mark = '*' then
            if style = .single then give style rest else give .usual (next :: name)
          else if style = .usual then (style, none) else give .single rest
        | _ => if style = .usual then (style, none) else give .single rest
    | [] => (style, none)

/-- A line of a list of digests.  Without a digest that is asked for, its title says which
one it is. -/
def readSumLine? (s : Option Summer) (style : LineStyle) (line : Raw) :
    LineStyle × Option SumLine :=
  let line := line.dropWhile Raw.isBlank
  let isChanged := line.head? = some '\\'
  let line := if isChanged then line.drop 1 else line
  let isTitled (s : Summer) : Bool := s.title.toList.isPrefixOf line
  match s with
  | some s =>
    if isTitled s then (style, s.readTitle? isChanged line) else s.readDigits? style isChanged line
  | none =>
    let known := (summersByWord.map Prod.snd).find? fun s =>
      isTitled s && (line.drop s.title.length).head?.any (" (-".toList.contains ·)
    (style, known.bind fun s => s.readTitle? isChanged line)

/-- A number with a noun in the right form. -/
def counted (n : Nat) (one many : String) : Raw :=
  Raw.ofNat n ++ [' '] ++ (if n = 1 then one else many).toList

/-- Complain after what has been written. -/
def complainAfter (raw : Raw) : Job Unit := do
  flush
  complain raw

/-- Check the digests that a file lists; the answer is whether all are right. -/
def checkSums (s : Option Summer) (o : Chosen) (path raw : Raw) : Job Bool := do
  let shownPath := if path = ['-'] then Quoting.alwaysForShell "standard input".toList
    else shown path
  let voice := o.last? ["status", "w", "quiet"]
  let isSilent := voice = some "status"
  let mut style := LineStyle.unknown
  let mut badLines := 0
  let mut goodLines := 0
  let mut missing := 0
  let mut different := 0
  let mut matched := 0
  for (line, n) in (Raw.lines raw).zipIdx do
    let line := if line.getLast? = some '\r' then line.dropLast else line
    if line.isEmpty ∨ line.head? = some '#' then continue
    let (newStyle, found) := readSumLine? s style line
    style := newStyle
    match found.filter fun l => ¬ (path = ['-'] ∧ l.name = ['-']) with
    | none =>
      badLines := badLines + 1
      if voice = some "w" then
        complainAfter (shownPath ++ ": ".toList ++ Raw.ofNat (n + 1) ++
          ": improperly formatted ".toList ++ ((s.map Summer.title).getD "CRC").toList ++
          " checksum line".toList)
    | some l =>
      goodLines := goodLines + 1
      let (text, isOdd) := summedName l.name
      let text := if isOdd then '\\' :: text else text
      match ← operand l.name with
      | .error fault =>
        if ¬ (o.has "ignore-missing" ∧ fault = .missing) then
          missing := missing + 1
          flush
          complainOf l.name fault
          if ¬ isSilent then sayLine (text ++ ": FAILED open or read".toList)
      | .ok contents =>
        if l.summer.text l.size contents = l.digits.map Char.toLower then
          matched := matched + 1
          if ¬ isSilent ∧ voice ≠ some "quiet" then sayLine (text ++ ": OK".toList)
        else
          different := different + 1
          if ¬ isSilent then sayLine (text ++ ": FAILED".toList)
  if goodLines = 0 then
    complainAfter (shownPath ++ ": no properly formatted checksum lines found".toList)
  else if ¬ isSilent then
    if badLines ≠ 0 then
      complainAfter ("WARNING: ".toList ++
        counted badLines "line is improperly formatted" "lines are improperly formatted")
    if missing ≠ 0 then
      complainAfter ("WARNING: ".toList ++
        counted missing "listed file could not be read" "listed files could not be read")
    if different ≠ 0 then
      complainAfter ("WARNING: ".toList ++
        counted different "computed checksum did NOT match" "computed checksums did NOT match")
    if o.has "ignore-missing" ∧ matched = 0 then
      complainAfter (shownPath ++ ": no file was verified".toList)
  return goodLines ≠ 0 && matched ≠ 0 && missing == 0 && different == 0 &&
    (badLines == 0 || !o.has "strict")

/-! ## Programs -/

/-- The number of bytes that a length in bits asks for. -/
def digestSize (s : Summer) (o : Chosen) : Job Nat := do
  for (key, value) in o.options do
    if key = "l" then
      match wholeNumber? value with
      | none => giveUp 1 ("invalid length: ".toList ++ Quoting.forReader value)
      | some n =>
        if n % 8 ≠ 0 then
          complain ("invalid length: ".toList ++ Quoting.forReader value)
          giveUp 1 "length is not a multiple of 8".toList
  match o.value? "l" with
  | none => return s.size
  | some value =>
    let bits := (wholeNumber? value).getD 0
    if bits = 0 then return s.size
    if ¬ s.isShortened then
      giveUp 1 "--length is only supported with --algorithm=blake2b".toList
    if 8 * s.size < bits then
      complain ("invalid length: ".toList ++ Quoting.forReader value)
      giveUp 1 ("maximum digest length for ".toList ++ Quoting.forReader s.title.toList ++
        " is ".toList ++ Raw.ofNat (8 * s.size) ++ " bits".toList)
    return bits / 8

/-- Complain about options that do not go together. -/
def refuseSumOptions (o : Chosen) (isOfMany : Bool) : Job Unit := do
  let refuse (text : String) : Job Unit := giveUsage 1 text.toList
  let isTitled := if isOfMany then o.last? ["tag", "untagged"] ≠ some "untagged" else o.has "tag"
  let mode := o.last? ["b", "t", "tag"]
  if isTitled ∧ mode = some "t" then
    refuse (if isOfMany then "--text mode is only supported with --untagged"
      else "--tag does not support --text mode")
  let meaningless (text : String) : Job Unit :=
    refuse (text ++ " meaningless when verifying checksums")
  let meaningful (key : String) : Job Unit := do
    if o.has key ∧ ¬ o.has "c" then
      let name := if key = "w" then "warn" else key
      refuse ("the --" ++ name ++ " option is meaningful only when verifying checksums")
  if o.has "z" ∧ o.has "c" then
    refuse "the --zero option is not supported when verifying checksums"
  if isTitled ∧ ¬ isOfMany ∧ o.has "c" then meaningless "the --tag option is"
  if (mode = some "b" ∨ mode = some "t" ∨ (isOfMany ∧ mode = some "tag")) ∧ o.has "c" then
    meaningless "the --binary and --text options are"
  meaningful "ignore-missing"
  match o.last? ["status", "w", "quiet"] with
  | some key => meaningful key
  | none => pure ()
  meaningful "strict"

/-- Print the digest of a file. -/
def saySum (s : Summer) (size : Nat) (isTitled isBinary hasZero : Bool) (path raw : Raw) :
    Job Unit := do
  let (name, isOdd) := if hasZero then (path, false) else summedName path
  let mark := if isOdd then ['\\'] else []
  let ending := if hasZero then [Raw.nul] else ['\n']
  let digits := s.text size raw
  if isTitled then
    let length := if size < s.size then '-' :: Raw.ofNat (8 * size) else []
    say (mark ++ s.title.toList ++ length ++ " (".toList ++ name ++ ") = ".toList ++ digits ++
      ending)
  else say (mark ++ digits ++ [' ', if isBinary then '*' else ' '] ++ name ++ ending)

/-- Check the digests that files list, and end the job. -/
def checkFiles (s : Option Summer) (o : Chosen) : Job Unit := do
  let mut isGood := true
  for path in o.files do
    match ← operand path with
    | .error .isDirectory =>
      complainAfter (shown path ++ ": read error".toList)
      isGood := false
    | .error fault =>
      flush
      complainOf path fault
      isGood := false
    | .ok raw =>
      let isRight ← checkSums s o path raw
      isGood := isGood && isRight
  exitGood isGood

/-- Print or check digests of files. -/
def summing (s : Summer) : Job Unit := do
  let o ← options ("b,binary c,check t,text w,warn z,zero tag quiet status strict " ++
    "ignore-missing" ++ if s.isShortened then " l,length:" else "")
  let size ← digestSize s o
  refuseSumOptions o false
  if o.has "c" then checkFiles (some s) o
  let isBinary := o.last? ["b", "t", "tag"] = some "b"
  let isGood ← eachFile o.files fun path raw =>
    saySum s size (o.has "tag") isBinary (o.has "z") path raw
  exitClosing isGood o.files "standard input"

/-- A short sum and the number of blocks; the sum is rotated or plain. -/
def shortSum (isRotated : Bool) (raw : Raw) : Raw :=
  let bytes := Raw.toBytes raw
  if isRotated then
    Raw.padStart 5 '0' (Raw.ofNat (Digest.rotatedSum bytes)) ++ [' '] ++
      Raw.padStart 5 ' ' (Raw.ofNat ((raw.length + 1023) / 1024))
  else
    Raw.ofNat (Digest.plainSum bytes) ++ [' '] ++ Raw.ofNat ((raw.length + 511) / 512)

/-- Print checksums of files, or print or check digests. -/
def cksum : Job Unit := do
  let o ← options ("a,algorithm: l,length: b,binary c,check t,text w,warn z,zero tag untagged " ++
    "quiet status strict ignore-missing debug")
  let words := ["bsd", "sysv", "crc"] ++ summersByWord.map Prod.fst
  let mut word := "crc"
  for (key, value) in o.options do
    if key = "a" then
      word ← chooseWord 1 "--algorithm" false (words.map fun w => [w]) value
  let summer := summersByWord.lookup word
  let size ← digestSize (summer.getD (.fixed "CRC" (fun _ => []) 4)) o
  if summer.isNone ∧ o.has "c" ∧ o.has "a" then
    giveUp 1 "--check is not supported with --algorithm=\x7bbsd,sysv,crc\x7d".toList
  refuseSumOptions o true
  if o.has "c" then checkFiles summer o
  let isTitled := o.last? ["tag", "untagged"] ≠ some "untagged"
  let isBinary := (o.last? ["b", "t", "tag"]).any (· ≠ "t")
  let isGood ← eachFile o.files fun path raw => do
    match summer with
    | some s => saySum s size isTitled isBinary (o.has "z") path raw
    | none =>
      let text := match word with
        | "bsd" => shortSum true raw
        | "sysv" => shortSum false raw
        | _ =>
          Raw.ofNat (Digest.crc (Raw.toBytes raw)).toNat ++ [' '] ++ Raw.ofNat raw.length
      say (text ++ (if o.operands.isEmpty then [] else ' ' :: path) ++
        (if o.has "z" then [Raw.nul] else ['\n']))
  exitClosing isGood o.files "standard input"

/-- Print short sums of files and how many blocks they have. -/
def sum : Job Unit := do
  let o ← options "r s,sysv"
  let isRotated := o.last? ["r", "s"] ≠ some "s"
  let isGood ← eachFile o.files fun path raw =>
    sayLine (shortSum isRotated raw ++ (if o.operands.isEmpty then [] else ' ' :: path))
  exitClosing isGood o.files "standard input"

/-! ## Letters -/

/-- A text broken into lines of some width; without a width it stays as it is. -/
def wrapText (width : Nat) : Nat → Raw → Raw
  | 0, _ => []
  | fuel + 1, raw =>
    if width = 0 then raw
    else if raw.isEmpty then []
    else raw.take width ++ '\n' :: wrapText width fuel (raw.drop width)

/-- Write bytes as letters, or letters as bytes, as options ask for. -/
def spellingJob (o : Chosen) (s : Spelling) : Job Unit := do
  match o.operands.drop 1 with
  | extra :: _ => extraOperand 1 extra
  | [] => pure ()
  let path := o.operands.headD ['-']
  match ← operand path with
  | .error fault =>
    if failsReading fault then giveUp 1 ("read error: ".toList ++ faultText fault)
    complainOf path fault
    exit 1
  | .ok raw =>
    if o.has "d" then
      let (bytes, isProper) := s.read (o.has "i") raw
      say bytes
      if ¬ isProper then
        flush
        complain "invalid input".toList
      exitGood isProper
    else
      match s.encode raw with
      | .ok letters =>
        let width := ((o.value? "w").bind wholeNumber?).getD 76
        say (wrapText width (letters.length + 1) letters)
        exit 0
      | .error text => giveUp 1 text.toList

/-- Complain about a width that is no number. -/
def refuseWidth (o : Chosen) : Job Unit := do
  for (key, value) in o.options do
    if key = "w" ∧ (wholeNumber? value).isNone then
      giveUp 1 ("invalid wrap size: ".toList ++ Quoting.forReader value)

/-- Write bytes as letters of a lettering, or letters as bytes. -/
def lettering (l : Lettering) : Job Unit := do
  let o ← options "d,decode i,ignore-garbage w,wrap:"
  refuseWidth o
  spellingJob o (.ofLettering l)

/-- The ways to write bytes as letters, by the names of options. -/
def spellings : List (String × Spelling) :=
  [("base64", .ofLettering .sixtyFour), ("base64url", .forNames),
    ("base32", .ofLettering .thirtyTwo), ("base32hex", .ordered),
    ("base16", .ofLettering .sixteen), ("base2msbf", .ofLettering .two),
    ("base2lsbf", .lowestFirst), ("z85", .ofNumbers)]

/-- Write bytes as letters of a kind, or letters as bytes. -/
def basenc : Job Unit := do
  let o ← options ("d,decode i,ignore-garbage w,wrap: " ++
    String.intercalate " " (spellings.map Prod.fst))
  refuseWidth o
  match (o.last? (spellings.map Prod.fst)).bind (spellings.lookup ·) with
  | none => giveUsage 1 "missing encoding type".toList
  | some s => spellingJob o s

end Tool
end MakeTen
