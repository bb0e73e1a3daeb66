import MakeTen.Bytecode.Mnemonic
import MakeTen.Text.Hex
/-!
# Instructions

An instruction is an opcode byte at some offset of the code, together with its
name and the literal data that follows it.  An instruction that has been read
from a code has the name that the opcode table gives to the byte, and as much
data as the table asks for.

Reading looks at the head of the remaining bytes only, so an instruction does
not depend on what stands before it or after its own data.

Main definitions:

- Structure `Instruction`: offset, opcode, name and data.
- Type `DecodeFault`: why no instruction could be read.
- Function `Instruction.read`: the instruction at the head of some bytes.
- Function `Instruction.at?`: the instruction at an offset of a code.
-/

namespace MakeTen

/-- Why an instruction could not be read. -/
inductive DecodeFault where
  /-- The code ends inside the data of the instruction at `pc`. -/
  | truncatedOperand (pc expected available : Nat)
  /-- There is no byte at `pc` in a code of `length` bytes. -/
  | outOfBounds (pc length : Nat)
  deriving Repr, DecidableEq

/-- The fault in words. -/
def DecodeFault.message : DecodeFault → String
  | .truncatedOperand pc expected available =>
    "Truncated operand at 0x" ++ Hex.natLower pc ++ ": expected " ++ toString expected ++
      " immediate bytes, found " ++ toString available
  | .outOfBounds pc length =>
    "Instruction address " ++ toString pc ++ " out of bounds (code is " ++ toString length ++
      " bytes)"

/-- The fault as seen from code that has `base` more bytes in front. -/
def DecodeFault.rebase (base : Nat) : DecodeFault → DecodeFault
  | .truncatedOperand pc expected available => .truncatedOperand (base + pc) expected available
  | .outOfBounds pc length => .outOfBounds (base + pc) (base + length)

/-- One instruction of a code. -/
structure Instruction where
  /-- Offset of the opcode byte. -/
  pc : Nat
  /-- The opcode byte. -/
  opcode : UInt8
  /-- The name. -/
  mnemonic : Mnemonic
  /-- The literal data, empty for all but the push family. -/
  immediate : List UInt8
  deriving Repr, DecidableEq

namespace Instruction

/-- Number of bytes that the instruction takes. -/
def size (i : Instruction) : Nat :=
  1 + i.immediate.length

/-- Offset of the byte after the instruction. -/
def nextPc (i : Instruction) : Nat :=
  i.pc + i.size

/-- The bytes of the instruction as they stand in the code. -/
def bytes (i : Instruction) : List UInt8 :=
  i.opcode :: i.immediate

/-- Whether the instruction is an open operator slot. -/
def isSlot (i : Instruction) : Bool :=
  i.mnemonic = .insert

/-- The instruction agrees with the opcode table: it has the name of its opcode
byte, and as much data as follows that byte. -/
def WellFormed (i : Instruction) : Prop :=
  i.mnemonic = Mnemonic.ofByte i.opcode ∧
    i.immediate.length = (Mnemonic.ofByte i.opcode).immediateLength

instance (i : Instruction) : Decidable i.WellFormed :=
  inferInstanceAs (Decidable (_ ∧ _))

/-- The instruction `base` bytes further on. -/
def rebase (base : Nat) (i : Instruction) : Instruction :=
  { i with pc := base + i.pc }

/-- Name and data as a listing shows them. -/
def text (i : Instruction) : String :=
  if i.immediate.isEmpty then i.mnemonic.text
  else i.mnemonic.text ++ " " ++ Hex.upper i.immediate

/-! ## Reading -/

/-- The instruction whose opcode byte is `opcode` at offset `pc`, when `rest`
are the bytes after it. -/
def read (pc : Nat) (opcode : UInt8) (rest : List UInt8) : Except DecodeFault Instruction :=
  let mnemonic := Mnemonic.ofByte opcode
  let expected := mnemonic.immediateLength
  if rest.length < expected then
    .error (.truncatedOperand pc expected rest.length)
  else
    .ok ⟨pc, opcode, mnemonic, rest.take expected⟩

/-- The instruction at offset `pc` of a code. -/
def at? (code : List UInt8) (pc : Nat) : Except DecodeFault Instruction :=
  match code.drop pc with
  | [] => .error (.outOfBounds pc code.length)
  | opcode :: rest => read pc opcode rest

/-- What reading an instruction establishes. -/
theorem read_eq_ok_iff {pc : Nat} {opcode : UInt8} {rest : List UInt8} {i : Instruction} :
    read pc opcode rest = .ok i ↔
      (Mnemonic.ofByte opcode).immediateLength ≤ rest.length ∧
        i = ⟨pc, opcode, Mnemonic.ofByte opcode,
          rest.take (Mnemonic.ofByte opcode).immediateLength⟩ := by
  simp only [read]
  split
  · rename_i h
    simp only [reduceCtorEq, false_iff, not_and]
    omega
  · rename_i h
    simp only [Except.ok.injEq]
    constructor
    · rintro rfl
      exact ⟨by omega, rfl⟩
    · rintro ⟨_, rfl⟩
      rfl

/-- An instruction that has been read is well formed. -/
theorem wellFormed_of_read {pc : Nat} {opcode : UInt8} {rest : List UInt8} {i : Instruction}
    (h : read pc opcode rest = .ok i) : i.WellFormed := by
  obtain ⟨hle, rfl⟩ := read_eq_ok_iff.1 h
  simp [WellFormed, hle]

end Instruction
end MakeTen
