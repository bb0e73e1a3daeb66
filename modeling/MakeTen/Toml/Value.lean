/-!
# TOML values

A TOML text describes a table.  Tables come about in several ways, and the way
decides whether more may be added to them later, so it is part of the value.

Numbers with a fraction and moments in time are checked but not kept: nothing
that is read from a TOML text here has such a value.
-/

namespace MakeTen
namespace Toml

/-- How a table came about. -/
inductive Origin where
  /-- By a header of its own, or as the text as a whole. -/
  | header
  /-- As part of the path of a header below it. -/
  | path
  /-- As part of a dotted key. -/
  | dotted
  /-- In braces, complete. -/
  | braces
  deriving Repr, DecidableEq

/-- A TOML value. -/
inductive Value where
  | string (text : String)
  | integer (n : Int)
  | float
  | boolean (value : Bool)
  | moment
  | array (elements : List Value)
  /-- A table with its entries in the order in which they came about. -/
  | table (origin : Origin) (entries : List (String × Value))
  /-- Tables under one repeated header, the latest first. -/
  | tables (latestFirst : List Value)

/-- The entries of a table. -/
abbrev Entries := List (String × Value)

/-- The value of a key. -/
def Entries.get? (entries : Entries) (key : String) : Option Value :=
  entries.lookup key

/-- The entries with another value for a key that is there, or with the key
added at the end. -/
def Entries.put (entries : Entries) (key : String) (v : Value) : Entries :=
  match entries with
  | [] => [(key, v)]
  | (k, w) :: rest => if k = key then (k, v) :: rest else (k, w) :: Entries.put rest key v

/-- The entries without a key. -/
def Entries.erase (entries : Entries) (key : String) : Entries :=
  entries.filter (·.1 ≠ key)

end Toml
end MakeTen
