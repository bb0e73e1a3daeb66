import MakeTen.Bytecode.Disassembly
import MakeTen.Terminal.Style
/-!
# Listings

A listing shows one instruction a line in three columns: the offset, the bytes
and the name with its data.  A few names are tinted so that the shape of a
puzzle stands out.

Main definitions:

- Structure `Listing.Row`: the three cells of a line.
- Function `Listing.spans`: a listing as styled text.
- Function `Listing.render`: a listing as plain text.
-/

namespace MakeTen

/-- Tint of an instruction's name. -/
def Mnemonic.tint? : Mnemonic → Option Tint
  | .stop => some .green
  | .revert => some .red
  | .jumpdest => some .cyan
  | .insert => some .blue
  | _ => none

namespace Listing

/-! ## Rows -/

/-- One line of a listing. -/
structure Row where
  /-- The offset in hexadecimal. -/
  position : String
  /-- The bytes in hexadecimal. -/
  hex : String
  /-- Name and data. -/
  text : String
  /-- Tint of the last two cells. -/
  tint : Option Tint
  deriving Repr, DecidableEq

/-- The line of an instruction.  An instruction with data is never tinted. -/
def row (i : Instruction) : Row where
  position := Hex.natUpper i.pc
  hex := Hex.upper i.bytes
  text := i.text
  tint := if i.immediate.isEmpty then i.mnemonic.tint? else none

/-- The lines of a list of instructions. -/
def rows (instructions : List Instruction) : List Row :=
  instructions.map row

/-! ## Layout -/

/-- Blanks after the widest cell of the bytes column. -/
def gap : Nat := 5

/-- Blanks between the offset and the bytes. -/
def margin : String := "      "

/-- Width of the bytes column. -/
def width (rows : List Row) : Nat :=
  (rows.map (·.hex.length)).foldl max 0 + gap

/-- A cell filled up with blanks on its right. -/
def pad (width : Nat) (cell : String) : String :=
  String.ofList (cell.toList ++ List.replicate (width - cell.length) ' ')

/-- One line as styled text, with a bytes column of the given width. -/
def line (width : Nat) (r : Row) : List Span :=
  [.tinted .darkGrey r.position, .plain margin, ⟨pad width r.hex, r.tint⟩, .plain " ",
    ⟨r.text, r.tint⟩, .plain "\n"]

/-- A listing as styled text. -/
def spans (instructions : List Instruction) : List Span :=
  let rows := rows instructions
  rows.flatMap (line (width rows))

/-- A listing as plain text. -/
def render (instructions : List Instruction) : String :=
  Span.renderAll false (spans instructions)

end Listing
end MakeTen
