import MakeTen.Host.Account
import MakeTen.Host.Fault
import MakeTen.Text.Utf8
/-!
# Files

A tree of directories and files, seen from a working directory.  A path is
followed one name at a time; every name but the last has to lead to a
directory, and so has the last one if a slash follows it.  A link on the way is
replaced by the path that it holds.

Besides the files of the working directory there are a few that every host has:
the usual directories, the account file, the devices, and the programs.

Main definitions:

- Structure `Files`: the tree.
- Functions `Files.follow` and `Files.target`: where a path leads, and where it
  would lead if it were there.
- Functions `Files.read` and `Files.readText`: the contents of a file.
- Functions `Files.write`, `Files.put` and `Files.erase`: the tree with a file
  replaced or removed.
-/

namespace MakeTen

/-- Files that are more than their contents. -/
inductive Device where
  /-- It is always empty and takes everything. -/
  | null
  /-- It never ends and holds zeros. -/
  | zero
  /-- It never ends, holds zeros, and takes nothing. -/
  | full
  /-- It never ends and holds arbitrary bytes. -/
  | random
  /-- A terminal that is not there. -/
  | terminal
  /-- What a descriptor of the program that looks leads to. -/
  | descriptor (number : Nat)
  deriving Repr, DecidableEq

/-- What a path can lead to. -/
inductive FileNode where
  | directory
  | file (contents : List UInt8)
  /-- A program of some name; its contents are of no concern here. -/
  | program (name : String)
  | device (device : Device)
  /-- Another path. -/
  | link (target : String)
  deriving Repr, DecidableEq

/-- What is at a place, which is a list of names from the root. -/
structure FileEntry where
  place : List String
  node : FileNode
  /-- What may be done with it, in the usual bits. -/
  mode : Nat
  /-- A number that entries share if they are one and the same file; zero for what
  is at one place only. -/
  kin : Nat
  deriving Repr

/-- An entry after the file that some entries share has been changed. -/
def FileEntry.along (kin : Nat) (node : FileNode) (mode : Nat) (e : FileEntry) : FileEntry :=
  if kin ≠ 0 ∧ e.kin = kin then { e with node, mode } else e

/-- A tree of files, as one program sees it. -/
structure Files where
  /-- The working directory. -/
  here : List String
  /-- The bits that new files do without. -/
  mask : Nat
  /-- What is where; the first entry for a place counts. -/
  entries : List FileEntry
  deriving Repr

namespace Files

/-! ## Limits and modes -/

/-- Greatest number of bytes of a name. -/
def nameLimit : Nat := 255

/-- Least number of bytes that a path may not have. -/
def pathLimit : Nat := 4096

/-- How many links may follow each other. -/
def linkLimit : Nat := 40

/-- The bits of a new file, before the mask. -/
def fileMode : Nat := 0o666

/-- The bits of a new directory, before the mask. -/
def directoryMode : Nat := 0o777

/-- The mask that programs usually start with. -/
def usualMask : Nat := 0o022

/-- Some bits without those of a mask. -/
def masked (mode mask : Nat) : Nat :=
  mode &&& (directoryMode - mask % (directoryMode + 1))

/-! ## Places -/

/-- The directories whose names are numbers of descriptors. -/
def isDescriptorPlace (place : List String) : Bool :=
  place = ["dev", "fd"] || place = ["proc", "self", "fd"]

/-- The entry for a place, if there is one of its own. -/
def entry? (files : Files) (place : List String) : Option FileEntry :=
  files.entries.find? (·.place = place)

/-- What is at a place.  A place with something below it is a directory. -/
def at? (files : Files) (place : List String) : Option FileNode :=
  match files.entry? place with
  | some e => some e.node
  | none =>
    if isDescriptorPlace place.dropLast then
      ((place.getLast?.bind String.toNat?).map fun n => .device (.descriptor n))
    else if place.isEmpty ∨ isDescriptorPlace place ∨
        files.entries.any (fun e => place.isPrefixOf e.place) then some .directory
    else none

/-- What may be done with what is at a place. -/
def modeAt (files : Files) (place : List String) : Nat :=
  match files.entry? place with
  | some e => e.mode
  | none => masked directoryMode usualMask

/-- Where one name leads from a place; a link counts as itself. -/
def enter (files : Files) (place : List String) (name : String) :
    Except HostFault (List String) :=
  match files.at? place with
  | some .directory =>
    if name = "" ∨ name = "." then .ok place
    else if name = ".." then .ok place.dropLast
    else if nameLimit < name.utf8ByteSize then .error .nameTooLong
    else
      match files.at? (place ++ [name]) with
      | some _ => .ok (place ++ [name])
      | none => .error .missing
  | some _ => .error .notDirectory
  | none => .error .missing

/-- The names of a path. -/
def names (path : String) : List String :=
  path.splitOn "/"

/-- The place that a path starts from when it is looked at from a place. -/
def origin (place : List String) (path : String) : List String :=
  if path.startsWith "/" then [] else place

/-- Where names lead from a place, with at most that many links on the way.  A
link at the end is followed or not. -/
def walk (files : Files) (followsLast : Bool) (links : Nat) (place : List String) :
    List String → Except HostFault (List String)
  | [] => .ok place
  | name :: rest =>
    match files.enter place name with
    | .error cause => .error cause
    | .ok next =>
      match files.at? next with
      | some (.link target) =>
        if rest.isEmpty ∧ ¬ followsLast then .ok next
        else
          match links with
          | 0 => .error .tooManyLinks
          | links + 1 =>
            walk files followsLast links (origin place target) (names target ++ rest)
      | _ => walk files followsLast links next rest
termination_by names => (links, names.length)

/-- The place that a path leads to; a link at the end is followed or not. -/
def lead (files : Files) (followsLast : Bool) (path : String) :
    Except HostFault (List String) :=
  if path.contains (Char.ofNat 0) then .error .nulInPath
  else if path = "" then .error .missing
  else if pathLimit ≤ path.utf8ByteSize then .error .nameTooLong
  else walk files followsLast linkLimit (origin files.here path) (names path)

/-- The place that a path leads to. -/
def follow (files : Files) (path : String) : Except HostFault (List String) :=
  files.lead true path

/-- Whether a path leads anywhere. -/
def isThere (files : Files) (path : String) : Bool :=
  match files.follow path with
  | .ok _ => true
  | .error _ => false

/-- What a path leads to. -/
def node? (files : Files) (path : String) : Option FileNode :=
  match files.follow path with
  | .ok place => files.at? place
  | .error _ => none

/-- The names of a path without slashes at its end. -/
def trimmedNames (path : String) : List String :=
  ((names path).reverse.dropWhile (· = "")).reverse

/-- The place at the end of a path from a place: it may be new, but its directory
has to be there.  A link at the end stands for what it leads to. -/
def targetFrom (files : Files) (base : List String) (path : String) :
    Nat → Except HostFault (List String)
  | 0 => .error .tooManyLinks
  | links + 1 =>
    match walk files true linkLimit (origin base path) (names path) with
    | .ok place => .ok place
    | .error .missing =>
      match (trimmedNames path).reverse with
      | [] => .error .missing
      | name :: above =>
        match walk files true linkLimit (origin base path) above.reverse with
        | .error cause => .error cause
        | .ok place =>
          match files.at? place, files.at? (place ++ [name]) with
          | some .directory, some (.link held) => targetFrom files place held links
          | some .directory, _ => .ok (place ++ [name])
          | _, _ => .error .notDirectory
    | .error cause => .error cause

/-- The place of something that is to be made: it may be new, but its directory
has to be there. -/
def target (files : Files) (path : String) : Except HostFault (List String) :=
  match files.follow path with
  | .ok place => .ok place
  | .error .missing =>
    if path = "" then .error .missing else files.targetFrom files.here path linkLimit
  | .error cause => .error cause

/-! ## Contents -/

/-- The bytes of the file that a path leads to.  Devices without an end are
taken to be empty. -/
def read (files : Files) (path : String) : Except HostFault (List UInt8) :=
  match files.follow path with
  | .error cause => .error cause
  | .ok place =>
    match files.at? place with
    | some (.file contents) => .ok contents
    | some .directory => .error .isDirectory
    | some (.device .terminal) => .error .noDevice
    | some _ => .ok []
    | none => .error .missing

/-- The text that some bytes spell. -/
def textOf (bytes : List UInt8) : Except HostFault String :=
  match Utf8.decode? bytes with
  | some chars => .ok (String.ofList chars)
  | none => .error .invalidUtf8

/-- The text of the file that a path leads to. -/
def readText (files : Files) (path : String) : Except HostFault String :=
  match files.read path with
  | .error cause => .error cause
  | .ok bytes => textOf bytes

/-- The tree with something at a place, instead of what was there. -/
def put (files : Files) (place : List String) (node : FileNode) (mode : Nat) : Files :=
  let kin := ((files.entry? place).map FileEntry.kin).getD 0
  let others := files.entries.filter (·.place ≠ place)
  let others := if kin = 0 then others else others.map (FileEntry.along kin node mode)
  { files with entries := ⟨place, node, mode, kin⟩ :: others }

/-- The tree without what is at a place. -/
def erase (files : Files) (place : List String) : Files :=
  { files with entries := files.entries.filter (·.place ≠ place) }

/-- The tree with something new at a place, which gets the bits that the mask
leaves. -/
def make (files : Files) (place : List String) (node : FileNode) (mode : Nat) : Files :=
  files.put place node (masked mode files.mask)

/-- The tree with other bytes in the file at a place. -/
def setContents (files : Files) (place : List String) (bytes : List UInt8) : Files :=
  match files.entry? place with
  | some e => files.put place (.file bytes) e.mode
  | none => files.make place (.file bytes) fileMode

/-- The tree after some bytes have been written to the file that a path leads
to, in place of the old ones or after them. -/
def write (files : Files) (path : String) (append : Bool) (bytes : List UInt8) :
    Except HostFault Files :=
  match files.target path with
  | .error cause => .error cause
  | .ok place =>
    match files.at? place with
    | some .directory => .error .isDirectory
    | some (.device .terminal) => .error .noDevice
    | some (.device .full) => if bytes.isEmpty then .ok files else .error .noSpace
    | some (.device _) => .ok files
    | some (.program _) => .error .denied
    | some (.link _) => .error .tooManyLinks
    | some (.file old) => .ok (files.setContents place (if append then old ++ bytes else bytes))
    | none =>
      if path.endsWith "/" then .error .isDirectory else .ok (files.setContents place bytes)

/-- How many places have been written to since a place was. -/
def age (files : Files) (place : List String) : Nat :=
  files.entries.findIdx (·.place = place)

/-- Whether what is at a place can be run as far as its bits go. -/
def isExecutable (files : Files) (place : List String) : Bool :=
  files.modeAt place &&& 0o111 != 0

/-- The names in a directory, in alphabetical order. -/
def children (files : Files) (place : List String) : List String :=
  let names := files.entries.filterMap fun e =>
    if place.isPrefixOf e.place then (e.place.drop place.length).head? else none
  (names.eraseDups.filter (· ≠ "")).mergeSort (· ≤ ·)

/-! ## The usual tree -/

/-- The directory in which the programs are. -/
def programPlace : List String := ["usr", "bin"]

/-- The directories in which programs are looked for. -/
def searchPath : String :=
  "/usr/local/sbin:/usr/local/bin:/usr/sbin:/usr/bin:/sbin:/bin"

/-- The directories that every host has, with what may be done with them. -/
def usualDirectories : List (List String × Nat) :=
  [(["tmp"], 0o1777), (["var", "tmp"], 0o1777), (["root"], 0o700), (["proc"], 0o555),
    (["sys"], 0o555)] ++
  ([["boot"], ["dev"], ["etc"], ["home"], ["media"], ["mnt"], ["opt"], ["run"], ["srv"],
    ["usr"], ["var"], ["usr", "bin"], ["usr", "games"], ["usr", "include"], ["usr", "lib"],
    ["usr", "lib64"], ["usr", "libexec"], ["usr", "local", "bin"], ["usr", "local", "etc"],
    ["usr", "local", "lib"], ["usr", "local", "sbin"], ["usr", "local", "share"],
    ["usr", "sbin"], ["usr", "share"], ["usr", "src"], ["var", "backups"], ["var", "cache"],
    ["var", "lib"], ["var", "local"], ["var", "log"], ["var", "mail"], ["var", "opt"],
    ["var", "spool"]].map fun place => (place, masked directoryMode usualMask))

/-- The links that every host has at its root. -/
def usualLinks : List (String × String) :=
  ["bin", "lib", "lib64", "sbin"].map fun name => (name, "usr/" ++ name)

/-- What every host has. -/
def usual (programs : List String) : List FileEntry :=
  let devices := [("null", Device.null), ("zero", .zero), ("full", .full), ("random", .random),
    ("urandom", .random), ("tty", .terminal), ("stdin", .descriptor 0),
    ("stdout", .descriptor 1), ("stderr", .descriptor 2)]
  let executable := masked directoryMode usualMask
  let readable := masked fileMode usualMask
  usualDirectories.map (fun (place, mode) => ⟨place, .directory, mode, 0⟩) ++
  usualLinks.map (fun (name, target) => ⟨[name], .link target, directoryMode, 0⟩) ++
  devices.map (fun (name, device) => ⟨["dev", name], .device device, fileMode, 0⟩) ++
  [⟨["etc", "passwd"], .file (Utf8.encodeString Account.file), readable, 0⟩,
    ⟨["etc", "group"], .file (Utf8.encodeString Account.groupFile), readable, 0⟩] ++
  programs.map (fun p => ⟨programPlace ++ [p], .program p, executable, 0⟩)

/-- The working directory of a new tree. -/
def workPlace : List String := ["tmp", "play"]

/-- A tree with the usual files and the given programs. -/
def withPrograms (programs : List String) : Files :=
  ⟨workPlace, usualMask,
    ⟨workPlace, .directory, masked directoryMode usualMask, 0⟩ :: usual programs⟩

/-- The tree with the directories that lead to a place below another one. -/
def addAbove (files : Files) (base : List String) (below : List String) : Files :=
  (List.range below.length).foldl (fun files n =>
    let place := base ++ below.take n
    if (files.entry? place).isSome then files
    else files.make place .directory directoryMode) files

/-- The tree with another file in the working directory, under the names of a
path. -/
def add (files : Files) (path : String) (contents : List UInt8) : Files :=
  let below := (names path).filter (fun n => n ≠ "" ∧ n ≠ ".")
  (files.addAbove files.here below).setContents (files.here ++ below) contents

end Files
end MakeTen
