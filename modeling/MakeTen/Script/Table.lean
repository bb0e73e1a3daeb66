import Std.Data.HashMap
import MakeTen.Script.Cell
/-!
# Tables of scripts

A table has values under keys.  A loop over a table comes to its keys in an order
that depends on how it was filled: keys are put into lists by a number that is
computed from their text, and a key that is used moves to the front of its list.
Keys that are whole numbers have lists of their own until the texts of keys are
needed for the first time.

Main definitions:

- Structure `Script.Table`: a table.
- Functions `Script.Table.find`, `Script.Table.insert`, `Script.Table.erase`: its use.
- Function `Script.Table.keys`: its keys in order.
-/

namespace MakeTen
namespace Script

/-- A key. -/
inductive Key where
  | whole (n : Int)
  | text (raw : Raw)

/-- The text of a key. -/
def Key.toRaw : Key → Raw
  | .whole n => Raw.ofInt n
  | .text raw => raw

/-- Keys are sought by a number made of their characters. -/
instance : Hashable Raw where
  hash raw := raw.foldl (fun h c => mixHash h (hash c.toNat)) 7

/-- A table. -/
structure Table where
  cells : Std.HashMap Raw Cell
  /-- Keys that have been used as whole numbers, in lists. -/
  numbered : Std.HashMap Nat (List Int)
  /-- Keys by their texts, in lists. -/
  named : Std.HashMap Nat (List Raw)
  /-- How many lists there are. -/
  width : Nat
  /-- Whether the texts of keys have been needed. -/
  isNamed : Bool

namespace Table

/-- How many lists a table starts with. -/
def startWidth : Nat := 64

/-- How many keys a list has on average before there are more lists. -/
def loadLimit : Nat := 12

/-- A table without keys. -/
def empty : Table := ⟨∅, ∅, ∅, startWidth, false⟩

instance : Inhabited Table := ⟨empty⟩

/-- The number that is computed from a text. -/
def hashOf (raw : Raw) : Nat :=
  (raw.foldl (fun h c => (h ^^^ UInt32.ofNat c.toNat) * 16777619) (2166136261 : UInt32)).toNat

/-- The list of a text. -/
def placeOf (t : Table) (raw : Raw) : Nat :=
  hashOf raw % t.width

/-- The list of a whole number. -/
def numberPlace (t : Table) (n : Int) : Nat :=
  (n % t.width).toNat

/-- A list with an element at its front and nowhere else. -/
def moveFront {α : Type} [BEq α] (a : α) (items : List α) : List α :=
  match items with
  | b :: _ => if a == b then items else a :: items.erase a
  | [] => [a]

/-- Put a text at the front of its list. -/
def touchText (t : Table) (raw : Raw) : Table :=
  let place := t.placeOf raw
  let items := t.named.getD place []
  if items.head? = some raw then t
  else { t with named := t.named.insert place (moveFront raw items) }

/-- Put a whole number at the front of its list. -/
def touchNumber (t : Table) (n : Int) : Table :=
  let place := t.numberPlace n
  let items := t.numbered.getD place []
  if items.head? = some n then t
  else { t with numbered := t.numbered.insert place (moveFront n items) }

/-- The table with the texts of all keys in their lists. -/
def withNames (t : Table) : Table :=
  if t.isNamed then t
  else
    (List.range t.width).foldl (fun t place =>
      (t.numbered.getD place []).foldl (fun t n => t.touchText (Raw.ofInt n)) t)
      { t with isNamed := true }

/-- The table with twice as many lists. -/
def widened (t : Table) : Table :=
  let wide := { t with width := 2 * t.width, numbered := ∅, named := ∅ }
  let places := List.range t.width
  let wide := places.foldl (fun w place =>
    (t.named.getD place []).foldr (fun raw w => w.touchText raw) w) wide
  places.foldl (fun w place =>
    (t.numbered.getD place []).foldr (fun n w => w.touchNumber n) w) wide

/-- The table with room for one more key. -/
def withRoom (t : Table) : Table :=
  if t.width * loadLimit < t.cells.size then t.widened else t

/-- Whether there is a value under a key. -/
def contains (t : Table) (key : Key) : Bool :=
  t.cells.contains key.toRaw

/-- The table after a look at a key that it has. -/
def touch (t : Table) : Key → Table
  | .whole n =>
    let isKnown := (t.numbered.getD (t.numberPlace n) []).contains n
    let t := if t.isNamed && !isKnown then t.touchText (Raw.ofInt n) else t
    t.touchNumber n
  | .text raw => t.withNames.touchText raw

/-- The value under a key and the table after the look at it.  The key is put into the
table if it is not there. -/
def find (t : Table) (key : Key) : Cell × Table :=
  let raw := key.toRaw
  match t.cells[raw]? with
  | some cell => (cell, t.touch key)
  | none =>
    let t := match key with
      | .whole _ => t
      | .text _ => t.withNames
    (.missing, { t with cells := t.cells.insert raw .missing }.withRoom.touch key)

/-- Whether there is a value under a key, and the table after the look at it. -/
def look (t : Table) (key : Key) : Bool × Table :=
  if t.cells.isEmpty then (false, t)
  else if t.contains key then (true, t.touch key)
  else
    match key with
    | .whole _ => (false, t)
    | .text _ => (false, t.withNames)

/-- Put a value under a key. -/
def insert (t : Table) (key : Key) (cell : Cell) : Table :=
  let raw := key.toRaw
  if t.cells.contains raw then
    let t := t.touch key
    { t with cells := t.cells.insert raw cell }
  else
    let t := match key with
      | .whole _ => t
      | .text _ => t.withNames
    { t with cells := t.cells.insert raw cell }.withRoom.touch key

/-- Take a key out of the table. -/
def erase (t : Table) (key : Key) : Table :=
  let raw := key.toRaw
  if ¬ t.contains key then (t.look key).2
  else
    let t := t.touch key
    let cells := t.cells.erase raw
    if cells.isEmpty then empty
    else
      let place := t.placeOf raw
      let named := t.named.insert place ((t.named.getD place []).erase raw)
      let numbered := match Raw.toInt? raw with
        | some n =>
          let place := t.numberPlace n
          if Raw.ofInt n = raw then
            t.numbered.insert place ((t.numbered.getD place []).erase n)
          else t.numbered
        | none => t.numbered
      { t with cells, named, numbered }

/-- The keys in the order in which a loop comes to them, and the table after that. -/
def keys (t : Table) : List Raw × Table :=
  let t := t.withNames
  ((List.range t.width).flatMap fun place => t.named.getD place [], t)

/-- The values under the whole numbers from one on. -/
def ofList (cells : List Cell) : Table :=
  (cells.foldl (fun (t, n) cell => (insert t (.whole n) cell, n + 1)) (empty, (1 : Int))).1

end Table
end Script
end MakeTen
