import MakeTen.Tool.Copying
import MakeTen.Tool.Listing
import MakeTen.Tool.Printing
/-!
# Where files are and what they are

Programs that tell what is known about files, and where paths lead.

Main definitions:

- Function `Tool.stat`: what is known about files.
- Functions `Tool.readlink` and `Tool.realpath`: where paths lead.
-/

namespace MakeTen
namespace Tool

/-! ## What is known -/

/-- What something is, in words. -/
def kindWords : FileNode → String
  | .file [] => "regular empty file"
  | .file _ => "regular file"
  | .program _ => "regular file"
  | .directory => "directory"
  | .link _ => "symbolic link"
  | .device _ => "character special file"

/-- The bits for what something is. -/
def kindBits : FileNode → Nat
  | .directory => 0o040000
  | .link _ => 0o120000
  | .device _ => 0o020000
  | _ => 0o100000

/-- What a file is known by. -/
structure Known where
  path : Raw
  place : List String
  node : FileNode
  clock : Nat

/-- All bits of a file. -/
def Known.mode (k : Known) (files : Files) : Nat :=
  match k.node with
  | .link _ => Permission.plainBits
  | _ => files.modeAt k.place

/-- A number for a file, and whether it is one, or a text. -/
def Known.part? (k : Known) (files : Files) (letter : Char) : Option (Raw × Bool) :=
  let number (n : Nat) : Option (Raw × Bool) := some (Raw.ofNat n, true)
  let text (raw : Raw) : Option (Raw × Bool) := some (raw, false)
  let seconds := k.clock / 1000000000
  let device : Nat × Nat := match k.node with
    | .device d => deviceNumbers d
    | _ => (0, 0)
  let stamp : Raw :=
    formatTime (.ofSeconds (seconds : Nat) (k.clock % 1000000000)) 30 "%F %T.%N %z".toList
  match letter with
  | 'n' => text k.path
  | 'N' =>
    text (named k.path ++ match k.node with
      | .link held => " -> ".toList ++ named (Raw.ofString held)
      | _ => [])
  | 's' => number (sizeOf k.node)
  | 'a' => some (Raw.digits 8 (k.mode files), true)
  | 'A' => text (fullLetters files k.place k.node)
  | 'f' => some (Raw.digits 16 (kindBits k.node + k.mode files), true)
  | 'F' => text (kindWords k.node).toList
  | 'h' => number (nameCount files k.place k.node)
  | 'u' => number 0
  | 'g' => number 0
  | 'U' => text "root".toList
  | 'G' => text "root".toList
  | 't' => some (Raw.digits 16 device.1, true)
  | 'T' => some (Raw.digits 16 device.2, true)
  | 'B' => number 512
  | 'b' => number (blocksOf 512 k.node)
  | 'o' => number 4096
  | 'd' => number 100
  | 'D' => some ("64".toList, true)
  | 'i' => number (100000 + k.place.foldl (fun n name => n * 31 + name.utf8ByteSize) 7 % 900000)
  | 'm' => text ['/']
  | 'x' => text stamp
  | 'y' => text stamp
  | 'z' => text stamp
  | 'w' => text ['-']
  | 'X' => number seconds
  | 'Y' => number seconds
  | 'Z' => number seconds
  | 'W' => number 0
  | _ => none

/-- What is known about a file, in a format.  Escapes are read if that is asked for.
The answer may be a directive that is not known. -/
def formatKnown (k : Known) (files : Files) (escapes : Bool) : Nat → Raw → Except Raw Raw
  | 0, _ => .ok []
  | fuel + 1, format =>
    match format with
    | [] => .ok []
    | ['%'] => .ok ['%']
    | '%' :: '%' :: rest => (formatKnown k files escapes fuel rest).map ('%' :: ·)
    | '%' :: rest =>
      let flags := rest.takeWhile fun c => "-+ #0'I".toList.contains c
      let digits := (rest.drop flags.length).takeWhile Char.isDigit
      let after := rest.drop (flags.length + digits.length)
      let (dot, places, after) : Bool × Raw × Raw := match after with
        | '.' :: more =>
          let places := more.takeWhile Char.isDigit
          (true, places, more.drop places.length)
        | _ => (false, [], after)
      match after with
      | [] => .error ('%' :: rest)
      | letter :: more =>
        let spelt := '%' :: rest.take (rest.length - more.length)
        let width := Raw.valueIn 10 digits
        let text := match k.part? files letter with
          | none => ['?']
          | some (text, isNumber) =>
            let text := if flags.contains '#' ∧ letter = 'a' then '0' :: text
              else if flags.contains '#' ∧ letter = 'f' then "0x".toList ++ text else text
            if flags.contains '-' then Raw.padEnd width ' ' text
            else if flags.contains '0' ∧ isNumber then Raw.padStart width '0' text
            else if dot ∧ ¬ isNumber then
              Raw.padStart width ' ' (text.take (Raw.valueIn 10 places))
            else Raw.padStart width ' ' text
        if letter.isDigit ∨ spelt.isEmpty then .error spelt
        else (formatKnown k files escapes fuel more).map (text ++ ·)
    | '\\' :: c :: rest =>
      if ¬ escapes then (formatKnown k files escapes fuel (c :: rest)).map ('\\' :: ·)
      else
        let digits := (c :: rest).takeWhile Raw.isOctal |>.take 3
        if ¬ digits.isEmpty then
          (formatKnown k files escapes fuel ((c :: rest).drop digits.length)).map
            (octalByte digits :: ·)
        else
          let hexadecimal := (rest.takeWhile Raw.isHexadecimal).take 2
          if c = 'x' ∧ ¬ hexadecimal.isEmpty then
            (formatKnown k files escapes fuel (rest.drop hexadecimal.length)).map
              (Char.ofNat (Raw.valueIn 16 (hexadecimal.map Char.toLower)) :: ·)
          else
            let plain : Raw := match c with
              | 'n' => ['\n']
              | 't' => ['\t']
              | 'r' => ['\r']
              | 'a' => [Char.ofNat 7]
              | 'b' => [Char.ofNat 8]
              | 'e' => [Char.ofNat 27]
              | 'f' => [Char.ofNat 12]
              | 'v' => [Char.ofNat 11]
              | '\\' => ['\\']
              | '"' => ['"']
              | c => [c]
            (formatKnown k files escapes fuel rest).map (plain ++ ·)
    | c :: rest => (formatKnown k files escapes fuel rest).map (c :: ·)

/-- What is shown of a file unless something else is asked for. -/
def usualKnown (isLink : Bool) : String :=
  "  File: " ++ (if isLink then "%N" else "%n") ++
    "\n  Size: %-10s\tBlocks: %-10b IO Block: %-6o %F\nDevice: 0,%d\tInode: %-11i Links: %h\n" ++
    "Access: (%04a/%10.10A)  Uid: (%5u/%8U)   Gid: (%5g/%8G)\n" ++
    "Access: %x\nModify: %y\nChange: %z\n Birth: %x"

/-- Tell what is known about files. -/
def stat : Job Unit := do
  let o ← options "c,format: f,file-system L,dereference printf: t,terse cached:"
  if o.operands.isEmpty then missingOperand 1
  let files := (← get).files
  let call := (← get).call
  let mut isGood := true
  for path in o.operands do
    let place? : Except HostFault (List String) :=
      if path = ['-'] then files.follow "/dev/stdin"
      else files.lead (o.has "L") (Raw.toString path)
    match place? with
    | .error fault =>
      flush
      complainThat "cannot statx " path fault
      isGood := false
    | .ok place =>
      let node := (files.at? place).getD .directory
      let k : Known := ⟨path, place, node, call.clock⟩
      let isLink : Bool := match node with
        | .link _ => true
        | _ => false
      let chosen := o.options.reverse.find? fun (key, _) => key == "c" || key == "printf"
      let escapes : Bool := chosen.any (·.1 == "printf")
      let usual := if o.has "t" then "%n %s %b %f %u %g %D %i %h %t %T %X %Y %Z %W %o"
        else usualKnown isLink
      let format := (chosen.map (·.2)).getD usual.toList
      match formatKnown k files escapes (format.length + 1) format with
      | .ok text => say (if escapes then text else text ++ ['\n'])
      | .error directive =>
        flush
        giveUp 1 (Quoting.forReader (Raw.dropEnd (· == '\n') directive) ++
          ": invalid directive".toList)
  exitGood isGood

/-! ## Where paths lead -/

/-- How much of a path has to be there. -/
inductive Presence where
  /-- All of it. -/
  | all
  /-- All but the last name. -/
  | butLast
  /-- None of it. -/
  | none
  deriving DecidableEq

/-- A path from the root without dots and links, or why there is none. -/
def wholePlace (files : Files) (presence : Presence) (path : Raw) :
    Except HostFault (List String) :=
  let text := Raw.toString path
  match files.follow text with
  | .ok place => .ok place
  | .error fault =>
    match presence with
    | .all => .error fault
    | .butLast => if path.isEmpty then .error .missing else files.target text
    | .none =>
      if path.isEmpty then .error .missing
      else
        .ok ((Files.names text).foldl (fun place name =>
          if name = "" ∨ name = "." then place
          else if name = ".." then place.dropLast
          else
            match files.at? (place ++ [name]) with
            | some (.link held) =>
              match files.walk true Files.linkLimit (Files.origin place held)
                  (Files.names held) with
              | .ok found => found
              | .error _ => place ++ [name]
            | _ => place ++ [name]) (Files.origin files.here text))

/-- A path from the root to a place. -/
def placeText (place : List String) : Raw :=
  '/' :: (String.intercalate "/" place).toList.flatMap fun c => Raw.ofString (c.toString)

/-- Tell what links hold, or where paths lead. -/
def readlink : Job Unit := do
  let o ← options ("f,canonicalize e,canonicalize-existing m,canonicalize-missing " ++
    "n,no-newline q,quiet s,silent v,verbose z,zero")
  if o.operands.isEmpty then missingOperand 1
  let isMany := 1 < o.operands.length
  if o.has "n" ∧ isMany then
    complain "ignoring --no-newline with multiple arguments".toList
  let finish : Raw :=
    if o.has "n" ∧ ¬ isMany then [] else if o.has "z" then [Raw.nul] else ['\n']
  let files := (← get).files
  let mut isGood := true
  for path in o.operands do
    let answer : Except HostFault Raw := match o.last? ["f", "e", "m"] with
      | some key =>
        let presence : Presence :=
          if key == "e" then .all else if key == "m" then .none else .butLast
        (wholePlace files presence path).map placeText
      | none =>
        match files.ownPlace (Raw.toString path) with
        | .error fault => .error fault
        | .ok place =>
          match files.at? place with
          | some (.link held) => .ok (Raw.ofString held)
          | _ => .error .invalid
    match answer with
    | .ok text => say (text ++ finish)
    | .error fault =>
      isGood := false
      if o.has "v" then
        flush
        complainOf path fault
  exitGood isGood

/-- Tell where paths lead. -/
def realpath : Job Unit := do
  let o ← options ("e,canonicalize-existing m,canonicalize-missing L,logical P,physical " ++
    "q,quiet relative-to: relative-base: s,strip,no-symlinks z,zero")
  if o.operands.isEmpty then missingOperand 1
  let files := (← get).files
  let presence : Presence := match o.last? ["e", "m"] with
    | some "e" => .all
    | some _ => .none
    | none => .butLast
  let plain (path : Raw) : List String :=
    (Files.names (Raw.toString path)).foldl (fun place name =>
      if name = "" ∨ name = "." then place
      else if name = ".." then place.dropLast
      else place ++ [name]) (Files.origin files.here (Raw.toString path))
  let resolve (path : Raw) : Except HostFault (List String) :=
    if path.isEmpty then .error .missing
    else if o.has "s" then
      match wholePlace files presence path with
      | .ok _ => .ok (plain path)
      | .error fault => .error fault
    else if o.has "L" then wholePlace files presence (placeText (plain path))
    else wholePlace files presence path
  let given (key : String) : Job (Option (List String)) := do
    match o.value? key with
    | none => return none
    | some path =>
      match resolve path with
      | .ok place => return some place
      | .error fault =>
        complainOf path fault
        exit 1
  let base ← given "relative-base"
  let start ← given "relative-to"
  let mut isGood := true
  for path in o.operands do
    match resolve path with
    | .ok place =>
      let isInside : Bool := match base with
        | none => true
        | some b => b.isPrefixOf place
      let text := match start, base with
        | some s, _ => if isInside then relativePath s place else placeText place
        | none, some b => if isInside then relativePath b place else placeText place
        | none, none => placeText place
      say (text ++ if o.has "z" then [Raw.nul] else ['\n'])
    | .error fault =>
      isGood := false
      if ¬ o.has "q" then
        flush
        complain ((if path.isEmpty then named path else shown path) ++ ": ".toList ++
          faultText fault)
  exitGood isGood

end Tool
end MakeTen
