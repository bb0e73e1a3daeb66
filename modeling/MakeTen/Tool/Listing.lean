import MakeTen.Tool.Ordering
import MakeTen.Tool.Removing
import MakeTen.Tool.Surroundings
import MakeTen.Tool.Viewing
/-!
# Listing files

The program that shows which files there are.  Names stand on lines of their own, in
columns, or between commas, or each has a line that says what the file is.

Main definitions:

- Structure `Tool.Listed`: a file as it is listed.
- Function `Tool.inColumns`: names in columns.
- Function `Tool.ls`: the program.
-/

namespace MakeTen
namespace Tool

/-! ## Files as they are listed -/

/-- A file as it is listed: the name that is shown, and what is at its place. -/
structure Listed where
  name : Raw
  place : List String
  node : FileNode

/-- The letter of what something is. -/
def kindLetter : FileNode → Char
  | .directory => 'd'
  | .link _ => 'l'
  | .device _ => 'c'
  | _ => '-'

/-- How large something is. -/
def sizeOf : FileNode → Nat
  | .directory => 4096
  | .file bytes => bytes.length
  | .link held => held.utf8ByteSize
  | .program _ => 100000
  | .device _ => 0

/-- How many blocks of some bytes something takes. -/
def blocksOf (blockSize : Nat) : FileNode → Nat
  | .directory => 4096 / blockSize
  | .link _ => 0
  | .device _ => 0
  | node => (sizeOf node + 4095) / 4096 * (4096 / blockSize)

/-- The two numbers of a device. -/
def deviceNumbers : Device → Nat × Nat
  | .null => (1, 3)
  | .zero => (1, 5)
  | .full => (1, 7)
  | .random => (1, 8)
  | .terminal => (5, 0)
  | .descriptor n => (136, n)

/-- The letters for what something is and what may be done with it. -/
def fullLetters (files : Files) (place : List String) (node : FileNode) : Raw :=
  kindLetter node :: Permission.letters (match node with
    | .link _ => Permission.plainBits
    | _ => files.modeAt place)

/-- How many names something has; a directory has one in each directory in it. -/
def nameCount (files : Files) (place : List String) (node : FileNode) : Nat :=
  match node with
  | .directory =>
    2 + ((files.children place).filter fun n =>
      files.at? (place ++ [n]) = some .directory).length
  | _ => files.kinCount place

/-! ## Columns -/

/-- Blanks from a column to another one, with tabs where there is room. -/
def blanksTo : Nat → Nat → Nat → Raw
  | 0, _, _ => []
  | fuel + 1, start, finish =>
    if finish ≤ start then []
    else if (start + 1) / 8 < finish / 8 then
      '\t' :: blanksTo fuel (start + 8 - start % 8) finish
    else ' ' :: blanksTo fuel (start + 1) finish

/-- The widths of columns when names are put into some columns, down or across. -/
def columnWidths (isDown : Bool) (columns : Nat) (widths : List Nat) : List Nat :=
  let rows := (widths.length + columns - 1) / columns
  (List.range columns).map fun column =>
    let own := widths.zipIdx.filter fun (_, n) =>
      (if isDown then n / rows else n % columns) = column
    let most := (own.map Prod.fst).foldl max 0
    max 3 (if own.isEmpty ∨ column + 1 = columns then most else most + 2)

/-- Names in as many columns as a line has room for, down or across. -/
def inColumns (isDown : Bool) (lineWidth : Nat) (names : List Raw) : Raw :=
  let widths := names.map fun name => name.length
  let most := max 1 (min names.length (max 1 (lineWidth / 3 +
    if lineWidth % 3 = 0 then 0 else 1)))
  let fits (columns : Nat) : Bool :=
    columns == 1 || decide ((columnWidths isDown columns widths).foldl (· + ·) 0 < lineWidth)
  let columns := (((List.range most).map (· + 1)).reverse.find? fits).getD 1
  let rows := (names.length + columns - 1) / columns
  let starts := (columnWidths isDown columns widths).foldl
    (fun (all : List Nat × Nat) w => (all.1 ++ [all.2], all.2 + w)) ([], 0)
  let row (r : Nat) : Raw :=
    let own := (List.range columns).filterMap fun column =>
      (names[if isDown then column * rows + r else r * columns + column]?).map
        fun name => (column, name)
    let (text, _) := own.foldl (fun (text, place) (column, name) =>
      let start := starts.1.getD column 0
      (text ++ blanksTo 200 place start ++ name, start + name.length)) ([], 0)
    text ++ ['\n']
  (List.range rows).flatMap row

/-- Names between commas, on lines of some width. -/
def betweenCommas (lineWidth : Nat) (names : List Raw) : Raw :=
  let (text, _) := names.foldl (fun (text, place) name =>
    let width := name.length
    if place = 0 then (name, width)
    else if place + width + 2 < lineWidth then
      (text ++ ", ".toList ++ name, place + width + 2)
    else (text ++ ",\n".toList ++ name, width)) (([] : Raw), 0)
  if names.isEmpty then [] else text ++ ['\n']

/-! ## Names -/

/-- How names are spelt. -/
inductive NameStyle where
  | literal
  | quoted
  | escaped
  | questioned
  | forShells
  deriving DecidableEq

/-- A name as it is spelt. -/
def NameStyle.spell (style : NameStyle) (name : Raw) : Raw :=
  let escape (special : Char → Bool) : Raw :=
    name.flatMap fun c =>
      if ¬ Quoting.isSeen c then '\\' :: Quoting.escapeBody c
      else if special c then ['\\', c] else [c]
  match style with
  | .literal => name
  | .quoted => ['"'] ++ escape (fun c => c == '"' || c == '\\') ++ ['"']
  | .escaped => escape (fun c => c == ' ' || c == '\\')
  | .questioned => name.map fun c => if Quoting.isSeen c then c else '?'
  | .forShells => Quoting.forShell name

/-! ## Listings -/

/-- How files are listed. -/
structure ListStyle where
  options : Chosen
  format : String
  names : NameStyle
  lineWidth : Nat
  clock : Nat

/-- The mark after a name that says what it is. -/
def ListStyle.mark (s : ListStyle) (files : Files) (f : Listed) : Raw :=
  let isClassified : Bool := s.options.has "F" || s.options.has "indicator-style"
  match f.node with
  | .directory => if isClassified ∨ s.options.has "p" then ['/'] else []
  | .link _ => if isClassified ∧ s.format ≠ "long" then ['@'] else []
  | .device _ => []
  | _ => if isClassified ∧ files.isExecutable f.place then ['*'] else []

/-- The files of a listing in their order. -/
def ListStyle.order (s : ListStyle) (files : Files) (all : List Listed) : List Listed :=
  let o := s.options
  let key := o.options.reverse.findSome? fun (key, value) => match key with
    | "S" => some "size"
    | "t" => some "time"
    | "X" => some "extension"
    | "v" => some "version"
    | "U" => some "none"
    | "f" => some "none"
    | "sort" => some (String.ofList value)
    | _ => none
  let byName := all.mergeSort fun a b => Raw.le a.name b.name
  let ending (name : Raw) : Raw :=
    let last := (name.reverse.takeWhile (· ≠ '.')).reverse
    if last.length = name.length then [] else last
  let sorted := match key with
    | some "size" => byName.mergeSort fun a b => sizeOf b.node ≤ sizeOf a.node
    | some "time" => byName.mergeSort fun a b => files.age a.place ≤ files.age b.place
    | some "extension" => byName.mergeSort fun a b => Raw.le (ending a.name) (ending b.name)
    | some "version" => byName.mergeSort fun a b => compareVersions a.name b.name ≠ .gt
    | _ => byName
  let sorted := if o.has "r" ∧ key ≠ some "none" then sorted.reverse else sorted
  if o.has "group-directories-first" then
    sorted.filter (·.node = .directory) ++ sorted.filter (·.node ≠ .directory)
  else sorted

/-- A size for people. -/
def humanSize (size : Nat) : Raw :=
  let units := "KMGTPE".toList
  let level := ((List.range 6).map (· + 1)).reverse.find? fun n => 1024 <<< (10 * (n - 1)) ≤ size
  match level with
  | none => Raw.ofNat size
  | some n =>
    let unit := 1 <<< (10 * n)
    let tenths := (size * 10 + unit - 1) / unit
    let letter := units.getD (n - 1) 'K'
    if tenths < 100 then
      Raw.ofNat (tenths / 10) ++ ['.'] ++ Raw.ofNat (tenths % 10) ++ [letter]
    else Raw.ofNat ((size + unit - 1) / unit) ++ [letter]

/-- The columns of a long line before the name. -/
def ListStyle.longParts (s : ListStyle) (files : Files) (f : Listed) : List Raw :=
  let o := s.options
  let owner : Raw := if o.has "n" then ['0'] else "root".toList
  let size := match f.node with
    | .device d =>
      let (major, minor) := deviceNumbers d
      Raw.ofNat major ++ ", ".toList ++ Raw.padStart 3 ' ' (Raw.ofNat minor)
    | node => if o.has "h" then humanSize (sizeOf node) else Raw.ofNat (sizeOf node)
  let time := CalendarTime.ofSeconds (s.clock / 1000000000 : Nat) (s.clock % 1000000000)
  let format := match o.value? "time-style" with
    | some ('+' :: f) => f
    | some f =>
      (match String.ofList f with
        | "full-iso" => "%F %T.%N %z"
        | "long-iso" => "%F %R"
        | "iso" => "%m-%d %H:%M"
        | _ => "%b %e %H:%M").toList
    | none => (if o.has "full-time" then "%F %T.%N %z" else "%b %e %H:%M").toList
  [fullLetters files f.place f.node, Raw.ofNat (nameCount files f.place f.node)] ++
    (if o.has "g" then [] else [owner]) ++ (if o.has "o" ∨ o.has "G" then [] else [owner]) ++
    [size, formatTime time (format.length + 1) format]

/-- The name of a file with all that is shown with it. -/
def ListStyle.nameText (s : ListStyle) (files : Files) (f : Listed) : Raw :=
  let held : Raw := match s.format, f.node with
    | "long", .link held => " -> ".toList ++ s.names.spell (Raw.ofString held)
    | _, _ => []
  s.names.spell f.name ++ s.mark files f ++ held

/-- The block counts of files. -/
def ListStyle.blockCount (s : ListStyle) (f : Listed) : Raw :=
  let n := blocksOf 1024 f.node
  if s.options.has "h" then humanSize (n * 1024) else Raw.ofNat n

/-- Show files. -/
def ListStyle.text (s : ListStyle) (files : Files) (all : List Listed) : Raw :=
  let o := s.options
  let blockWidth := (all.map fun f => (s.blockCount f).length).foldl max 0
  let numberOf (f : Listed) : Raw :=
    Raw.ofNat (1000 + f.place.foldl (fun n name => n * 31 + name.hash.toNat % 100000) 7 % 900000)
  let front (f : Listed) : Raw :=
    (if o.has "i" then numberOf f ++ [' '] else []) ++
      if o.has "s" then Raw.padStart blockWidth ' ' (s.blockCount f) ++ [' '] else []
  let full (f : Listed) : Raw := front f ++ s.nameText files f
  let finish : Raw := if o.has "zero" then [Raw.nul] else ['\n']
  match s.format with
  | "long" =>
    let rows := all.map fun f => s.longParts files f
    let widths := (List.range 6).map fun n =>
      (rows.map fun row => (row.getD n []).length).foldl max 0
    let columns := (rows.map List.length).foldl max 0
    let isText (n : Nat) : Bool := n = 0 || (1 < n && n + 2 < columns)
    (all.zip rows).flatMap fun (f, row) =>
      let cells := row.zipIdx.map fun (cell, n) =>
        let width := widths.getD n 0
        if isText n then Raw.padEnd width ' ' cell else Raw.padStart width ' ' cell
      front f ++ Raw.join [' '] cells ++ [' '] ++ s.nameText files f ++ finish
  | "columns" => if all.isEmpty then [] else inColumns true s.lineWidth (all.map full)
  | "across" => if all.isEmpty then [] else inColumns false s.lineWidth (all.map full)
  | "commas" => betweenCommas s.lineWidth (all.map full)
  | _ => all.flatMap fun f => full f ++ finish

/-- The contents of a directory as they are listed. -/
def ListStyle.entries (s : ListStyle) (files : Files) (place : List String) : List Listed :=
  let o := s.options
  let showsAll : Bool := o.has "a" || o.has "f"
  let names := (files.children place).filter fun name =>
    let isHidden : Bool := name.startsWith "." && !showsAll && !o.has "A"
    let isBackup : Bool := o.has "B" && name.endsWith "~"
    !isHidden && !isBackup
  let own := names.filterMap fun name =>
    let next := place ++ [name]
    let node := match files.at? next with
      | some (.link held) =>
        if o.has "L" then
          match files.walk true Files.linkLimit (Files.origin place held) (Files.names held) with
          | .ok found => files.at? found
          | .error _ => some (.link held)
        else some (.link held)
      | node => node
    node.map fun node => ⟨Raw.ofString name, next, node⟩
  if showsAll then
    [⟨['.'], place, .directory⟩, ⟨['.', '.'], place.dropLast, .directory⟩] ++ own
  else own

/-- Show directories, each under its path if that is asked for. -/
def ListStyle.showDirectories (s : ListStyle) (files : Files) (hasTitles : Bool) :
    Nat → Bool → List (Raw × List String) → Raw
  | 0, _, _ => []
  | _, _, [] => []
  | fuel + 1, isFirst, (path, place) :: rest =>
    let all := s.order files (s.entries files place)
    let title : Raw :=
      if hasTitles then
        (if isFirst then [] else ['\n']) ++ s.names.spell path ++ ":\n".toList
      else []
    let total := (all.map fun f => blocksOf 1024 f.node).foldl (· + ·) 0
    let totalText := if s.options.has "h" then humanSize (total * 1024) else Raw.ofNat total
    let totals : Raw :=
      if s.format = "long" ∨ s.options.has "s" then
        "total ".toList ++ totalText ++ ['\n']
      else []
    let deeper : List (Raw × List String) :=
      if s.options.has "R" then
        (all.filter fun f => f.node = .directory ∧ f.name ≠ ['.'] ∧ f.name ≠ ['.', '.']).map
          fun f => (path ++ (if path.getLast? = some '/' then [] else ['/']) ++ f.name, f.place)
      else []
    title ++ totals ++ s.text files all ++
      s.showDirectories files hasTitles fuel false (deeper ++ rest)

/-! ## The program -/

/-- Show which files there are. -/
def ls : Job Unit := do
  let call := (← get).call
  let o ← optionsOf ("a,all A,almost-all author b,escape block-size: B,ignore-backups c C color? " ++
    "d,directory D,dired f F,classify? file-type format: full-time g " ++
    "group-directories-first G,no-group h,human-readable si H,dereference-command-line " ++
    "hide: hyperlink? indicator-style: i,inode I,ignore: k,kibibytes l L,dereference m " ++
    "n,numeric-uid-gid N,literal o p q,hide-control-chars show-control-chars Q,quote-name " ++
    "quoting-style: r,reverse R,recursive s,size S sort: time: time-style: t T,tabsize: u U v " ++
    "w,width: x X Z,context zero 1") true 2 call.arguments
  let format := o.options.reverse.findSome? fun (key, value) => match key with
    | "l" => some "long"
    | "n" => some "long"
    | "o" => some "long"
    | "g" => some "long"
    | "full-time" => some "long"
    | "C" => some "columns"
    | "x" => some "across"
    | "m" => some "commas"
    | "zero" => some "single"
    | "format" =>
      match String.ofList value with
      | "long" => some "long"
      | "verbose" => some "long"
      | "commas" => some "commas"
      | "across" => some "across"
      | "horizontal" => some "across"
      | "vertical" => some "columns"
      | _ => some "single"
    | _ => none
  let format := if format = some "long" then "long" else
    match o.last? ["1", "C", "x", "m", "format", "zero"] with
    | some "1" => if (o.last? ["l", "n", "o", "g"]).isSome then "long" else "single"
    | _ => format.getD "single"
  let names : NameStyle := match o.last? ["b", "Q", "N", "q", "quoting-style"] with
    | some "b" => .escaped
    | some "Q" => .quoted
    | some "q" => .questioned
    | some "quoting-style" =>
      match String.ofList ((o.value? "quoting-style").getD []) with
      | "escape" => .escaped
      | "c" => .quoted
      | "shell" => .forShells
      | "shell-escape" => .forShells
      | _ => .literal
    | _ => .literal
  let widthText := match o.value? "w" with
    | some text => some text
    | none => call.valueOf? "COLUMNS"
  let lineWidth := ((widthText.bind Raw.toNat?).map fun n => if n = 0 then 1000000 else n).getD 80
  let s : ListStyle := ⟨o, format, names, lineWidth, call.clock⟩
  let files := (← get).files
  let isPlain : Bool := o.has "d" || format == "long" || o.has "F"
  let mut isGood := true
  let mut found : List Listed := []
  for path in (if o.operands.isEmpty then [['.']] else o.operands) do
    let ownFault : Except HostFault (List String) := files.ownPlace (Raw.toString path)
    let led := files.follow (Raw.toString path)
    let choice : Except HostFault (List String) := match ownFault, led with
      | .error fault, _ => .error fault
      | .ok own, .ok place =>
        let isDirectory : Bool := files.at? place = some .directory
        if o.has "L" ∨ o.has "H" ∨ (isDirectory ∧ ¬ isPlain) then .ok place else .ok own
      | .ok own, .error fault => if o.has "L" then .error fault else .ok own
    match choice with
    | .error fault =>
      complain ("cannot access ".toList ++ named path ++ ": ".toList ++ faultText fault)
      isGood := false
    | .ok place =>
      match files.at? place with
      | some node => found := found ++ [⟨path, place, node⟩]
      | none => pure ()
  let isListed (f : Listed) : Bool := f.node == .directory && !o.has "d"
  let plain := s.order files (found.filter (!isListed ·))
  let directories := (s.order files (found.filter isListed)).map fun f => (f.name, f.place)
  say (s.text files plain)
  let hasTitles : Bool := o.has "R" || !(plain.isEmpty && o.operands.length ≤ 1 &&
    directories.length == 1)
  say (s.showDirectories files hasTitles (files.entries.length + directories.length + 2)
    plain.isEmpty directories)
  exit (if isGood then 0 else 2)

end Tool
end MakeTen
