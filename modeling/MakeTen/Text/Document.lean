/-!
# Documents

A document is a text in some format.  What takes such texts apart is left open: all that is
known of it is what it gives for a text, and whatever is said about documents is said for
any reader.

Main definitions:

- Structure `DocumentReader`: what takes the texts of a format apart.
- Function `DocumentReader.parse`: what a text says when a shape is asked for.
-/

namespace MakeTen

/-- What takes apart the texts of a format, whose values are of type `α`. -/
structure DocumentReader (α : Type) where
  /-- The value that a text describes, or the report if it describes none. -/
  read : String → Except String α
  /-- The report on a text whose value is not of the shape that is asked for. -/
  misfit : String → String

namespace DocumentReader

variable {α β : Type} {reader : DocumentReader α} {shape : α → Option β} {text : String}

/-- What a text says, if it describes a value of which the shape makes something. -/
def parse (reader : DocumentReader α) (shape : α → Option β) (text : String) :
    Except String β :=
  match reader.read text with
  | .error report => .error report
  | .ok value =>
    match shape value with
    | some result => .ok result
    | none => .error (reader.misfit text)

theorem parse_eq_ok_iff {result : β} :
    reader.parse shape text = .ok result ↔
      ∃ value, reader.read text = .ok value ∧ shape value = some result := by
  unfold parse
  cases reader.read text with
  | error report => simp
  | ok value => cases h : shape value <;> simp [h]

/-- A text says nothing if it describes nothing, or if its value does not fit. -/
theorem parse_eq_error_iff {report : String} :
    reader.parse shape text = .error report ↔
      reader.read text = .error report ∨
        ∃ value, reader.read text = .ok value ∧ shape value = none ∧
          report = reader.misfit text := by
  unfold parse
  cases reader.read text with
  | error other => simp
  | ok value => cases h : shape value <;> simp [h, eq_comm]

/-- The reader that finds the same values as a function, and says no more than whether
there is one. -/
def ofOption (read : String → Option α) : DocumentReader α where
  read text := (read text).elim (.error "no such document") .ok
  misfit _ := "no such value"

end DocumentReader
end MakeTen
