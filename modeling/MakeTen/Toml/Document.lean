import MakeTen.Text.Document
import MakeTen.Toml.Reader
/-!
# TOML documents

The statements of a TOML text build one table.  A header opens the table at its
path and the assignments after it go there.  A table may be opened once; the
tables on the way to it come about by themselves and may be opened later.
Tables made by dotted keys belong to the part of the text that made them.

Settings are read with any reader of TOML.  This is the one that the program is
run with; no theorem is about it.

Main definitions:

- Structure `Toml.Document`: what has been built, and what is open.
- Function `Toml.parse?`: the table that a text describes.
- Definition `Toml.reader`: a reader that finds these tables.
-/

namespace MakeTen
namespace Toml

/-! ## Following paths -/

/-- The entries with those at the end of a path changed.  The path leads through
tables, and through the latest of repeated ones; tables that are not there come
about.  A path of a dotted key may not lead into a table with a header of its
own. -/
def changeAt (dotted : Bool) (entries : Entries) (path : List String)
    (change : Origin → Entries → Option Entries) (own : Origin) : Option Entries :=
  match path with
  | [] => change own entries
  | part :: rest =>
    match entries.get? part with
    | none =>
      let origin := if dotted then Origin.dotted else Origin.path
      (changeAt dotted [] rest change origin).map fun inner =>
        entries.put part (.table origin inner)
    | some (.table .braces _) => none
    | some (.table origin inner) =>
      if dotted && origin == .header then none
      else
        (changeAt dotted inner rest change origin).map fun inner =>
          entries.put part (.table origin inner)
    | some (.tables (.table origin inner :: older)) =>
      (changeAt dotted inner rest change origin).map fun inner =>
        entries.put part (.tables (.table origin inner :: older))
    | some _ => none

/-! ## Documents -/

/-- A document of which some statements have been read. -/
structure Document where
  /-- The table as a whole, without what is open. -/
  root : Entries
  /-- Path of the open table, empty for the table as a whole. -/
  path : Key
  /-- Whether the open table was opened by a repeated header. -/
  isRepeated : Bool
  /-- Entries of the open table. -/
  current : Entries

namespace Document

/-- Nothing has been read. -/
def start : Document := ⟨[], [], false, []⟩

/-- The last part of a path, put into the table that the rest leads to. -/
def placeTable (isRepeated : Bool) (name : String) (current : Entries) (_ : Origin)
    (entries : Entries) : Option Entries :=
  let opened := Value.table .header current
  match entries.get? name with
  | none => some (entries.put name (if isRepeated then .tables [opened] else opened))
  | some (.tables older) =>
    if isRepeated then some (entries.put name (.tables (opened :: older))) else none
  | some _ => none

/-- The table as a whole, with the open table in its place. -/
def closed (d : Document) : Option Entries :=
  match d.path.getLast? with
  | none => some d.current
  | some name =>
    changeAt false d.root d.path.dropLast (placeTable d.isRepeated name d.current) .header

/-- An assignment to the open table.  The last part has to be new, and the table
it goes to has to be one that the dotted key itself may have made. -/
def assign (d : Document) (key : Key) (v : Value) : Option Document :=
  match key.getLast? with
  | none => none
  | some name =>
    let path := key.dropLast
    let change (origin : Origin) (entries : Entries) : Option Entries :=
      if (origin == .dotted) == path.isEmpty then none
      else
        match entries.get? name with
        | none => some (entries.put name v)
        | some _ => none
    (changeAt true d.current path change .header).map fun current => { d with current }

/-- A header.  What came about at its path by itself becomes part of the table
that is opened. -/
def openTable (d : Document) (key : Key) : Option Document := do
  let root ← d.closed
  let name ← key.getLast?
  let parent := key.dropLast
  let root ← changeAt false root parent (fun _ entries => some entries) .header
  let found := lookUp root parent name
  match found with
  | none => return ⟨root, key, false, []⟩
  | some (.table .path inner) => do
    let root ← changeAt false root parent (fun _ entries => some (entries.erase name)) .header
    return ⟨root, key, false, inner⟩
  | some _ => none
where
  /-- What is under a name in the table that a path leads to. -/
  lookUp (entries : Entries) (path : Key) (name : String) : Option Value :=
    match path with
    | [] => entries.get? name
    | part :: rest =>
      match entries.get? part with
      | some (.table _ inner) => lookUp inner rest name
      | some (.tables (.table _ inner :: _)) => lookUp inner rest name
      | _ => none

/-- A repeated header. -/
def openRepeated (d : Document) (key : Key) : Option Document := do
  let root ← d.closed
  let name ← key.getLast?
  let check (_ : Origin) (entries : Entries) : Option Entries :=
    match entries.get? name with
    | none => some entries
    | some (.tables _) => some entries
    | some _ => none
  let root ← changeAt false root key.dropLast check .header
  return ⟨root, key, true, []⟩

/-- One statement. -/
def step (d : Document) : Statement → Option Document
  | .assign key v => d.assign key v
  | .header key => d.openTable key
  | .repeated key => d.openRepeated key

end Document

/-- The table that a text describes. -/
def parse? (text : String) : Option Entries := do
  let d ← (← statements? text).foldlM Document.step .start
  d.closed

/-- The reader of TOML that the program is run with. -/
def reader : DocumentReader Entries := .ofOption parse?

end Toml
end MakeTen
