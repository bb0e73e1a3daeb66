import MakeTen.Host.Files
/-!
# Changing the tree

Directories and links are made, things are removed, and things get other places.
Each change is either carried out as a whole or refused for a reason; a link at
the end of a path stands for itself.

Main definitions:

- Functions `Files.newPlace` and `Files.makeNew`: something where nothing is.
- Functions `Files.removeDirectory` and `Files.removeOther`: what is removed.
- Function `Files.rename`: what gets another place.
-/

namespace MakeTen
namespace Files

/-- The place that a path leads to, where a link at its end stands for itself. -/
def ownPlace (files : Files) (path : String) : Except HostFault (List String) :=
  files.lead false path

/-- What a path leads to, where a link at its end stands for itself. -/
def ownNode? (files : Files) (path : String) : Option FileNode :=
  match files.ownPlace path with
  | .ok place => files.at? place
  | .error _ => none

/-! ## Something new -/

/-- The place of something that is to be made where nothing is. -/
def newPlace (files : Files) (path : String) : Except HostFault (List String) :=
  match files.ownPlace path with
  | .ok _ => .error .exists
  | .error .missing =>
    match (trimmedNames path).reverse with
    | [] => .error .missing
    | name :: above =>
      match walk files true linkLimit (origin files.here path) above.reverse with
      | .ok place =>
        if files.at? place ≠ some .directory then .error .notDirectory
        else if (files.at? (place ++ [name])).isSome then .error .exists
        else .ok (place ++ [name])
      | .error cause => .error cause
  | .error cause => .error cause

/-- The tree with something new at the end of a path. -/
def makeNew (files : Files) (path : String) (node : FileNode) (mode : Nat) :
    Except HostFault Files :=
  match files.newPlace path with
  | .ok place => .ok (files.make place node mode)
  | .error cause => .error cause

/-- The tree with a new link, which may be done anything with. -/
def makeLink (files : Files) (path held : String) : Except HostFault Files :=
  if held = "" then .error .missing
  else
    match files.newPlace path with
    | .ok place =>
      if path.endsWith "/" then .error .missing
      else .ok (files.put place (.link held) directoryMode)
    | .error cause => .error cause

/-- The tree with other bits for what is at a place. -/
def setMode (files : Files) (place : List String) (mode : Nat) : Files :=
  match files.entry? place with
  | some e =>
    { files with entries := files.entries.map fun old =>
                   if old.place = place then { old with mode }
                   else FileEntry.along e.kin e.node mode old }
  | none => files.put place .directory mode

/-- The tree where the file at a place is at a new place as well. -/
def share (files : Files) (old new : List String) : Files :=
  match files.entry? old with
  | none => files
  | some e =>
    let kin := if e.kin = 0 then 1 + (files.entries.map FileEntry.kin).foldl max 0 else e.kin
    let entries := files.entries.map fun f => if f.place = old then { f with kin } else f
    { files with entries := ⟨new, e.node, e.mode, kin⟩ :: entries }

/-- How many places are those of the file at a place. -/
def kinCount (files : Files) (place : List String) : Nat :=
  match files.entry? place with
  | some e => if e.kin = 0 then 1 else files.entries.countP (·.kin = e.kin)
  | none => 1

/-- Whether two places are those of one file. -/
def isSame (files : Files) (place other : List String) : Bool :=
  place = other ||
    (match files.entry? place, files.entry? other with
      | some a, some b => a.kin ≠ 0 && a.kin = b.kin
      | _, _ => false)

/-- The tree with what is at a place as what has been changed last. -/
def renew (files : Files) (place : List String) : Files :=
  match files.entry? place with
  | some e => files.put place e.node e.mode
  | none => files

/-- The tree with what is at a place as what has been changed first. -/
def makeOld (files : Files) (place : List String) : Files :=
  match files.entry? place with
  | some e =>
    { files with entries := files.entries.filter (·.place ≠ place) ++ [e] }
  | none => files

/-! ## Removal -/

/-- The tree without an empty directory. -/
def removeDirectory (files : Files) (path : String) : Except HostFault Files :=
  match files.ownPlace path with
  | .error cause => .error cause
  | .ok place =>
    if path = "." ∨ path.endsWith "/." then .error .invalid
    else if files.at? place ≠ some .directory then .error .notDirectory
    else if ¬ (files.children place).isEmpty then .error .notEmpty
    else .ok (files.erase place)

/-- The tree without something that is no directory. -/
def removeOther (files : Files) (path : String) : Except HostFault Files :=
  match files.ownPlace path with
  | .error cause => .error cause
  | .ok place =>
    if files.at? place = some .directory then .error .isDirectory else .ok (files.erase place)

/-! ## Other places -/

/-- The tree with everything from a place on at another place. -/
def shift (files : Files) (source target : List String) : Files :=
  { files with entries := files.entries.map fun e =>
                 if source.isPrefixOf e.place then
                   { e with place := target ++ e.place.drop source.length }
                 else e }

/-- The tree with what a path leads to at the end of another path, in place of
what is there. -/
def rename (files : Files) (source target : String) : Except HostFault Files :=
  match files.ownPlace source with
  | .error cause => .error cause
  | .ok old =>
    let last := (trimmedNames source).getLast?.getD ""
    if last = "." ∨ last = ".." then .error .busy else
    let isDirectory := files.at? old = some .directory
    match files.ownPlace target with
    | .ok new =>
      let replaces := files.at? new = some .directory
      if new = old then .ok files
      else if old.isPrefixOf new then .error .invalid
      else if isDirectory ∧ ¬ replaces then .error .notDirectory
      else if ¬ isDirectory ∧ replaces then .error .isDirectory
      else if replaces ∧ ¬ (files.children new).isEmpty then .error .notEmpty
      else .ok ((files.erase new).shift old new)
    | .error .missing =>
      match files.newPlace target with
      | .error cause => .error cause
      | .ok new =>
        if old.isPrefixOf new then .error .invalid
        else if ¬ isDirectory ∧ target.endsWith "/" then .error .notDirectory
        else .ok (files.shift old new)
    | .error cause => .error cause

end Files
end MakeTen
