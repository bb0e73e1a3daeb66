import MakeTen.Bytecode.Instruction
/-!
# Disassembly

Code is split into instructions from its first byte to its last, without
regard to where a run of the code would go.  A push whose data is cut off by
the end of the code fails the whole disassembly.

Three ways of reading stand side by side: the whole code at once, one
instruction after the other, and (with `Instruction.at?`) at any offset.

Main definitions:

- Function `disassemble`: all instructions of a code.
- Function `assemble`: the bytes of a list of instructions.
- Predicate `Contiguous`: a list of instructions that stand side by side.
- Structure `Sweep`: the state of reading one instruction after the other.
-/

namespace MakeTen

/-! ## The whole code at once -/

/-- The instructions of `bytes`, which start at offset `pc`. -/
def disassembleFrom (pc : Nat) : List UInt8 → Except DecodeFault (List Instruction)
  | [] => .ok []
  | opcode :: rest =>
    match Instruction.read pc opcode rest with
    | .error fault => .error fault
    | .ok i =>
      match disassembleFrom i.nextPc (rest.drop i.immediate.length) with
      | .error fault => .error fault
      | .ok is => .ok (i :: is)
termination_by bytes => bytes.length
decreasing_by simp only [List.length_drop, List.length_cons]; omega

/-- All instructions of a code. -/
def disassemble (code : List UInt8) : Except DecodeFault (List Instruction) :=
  disassembleFrom 0 code

/-! ## Back to bytes -/

/-- The bytes of a list of instructions. -/
def assemble (instructions : List Instruction) : List UInt8 :=
  instructions.flatMap Instruction.bytes

/-- Every instruction is well formed and starts where the one before ends, the
first of them at offset `pc`. -/
def Contiguous (pc : Nat) : List Instruction → Prop
  | [] => True
  | i :: is => i.WellFormed ∧ i.pc = pc ∧ Contiguous i.nextPc is

instance decidableContiguous : (pc : Nat) → (is : List Instruction) → Decidable (Contiguous pc is)
  | _, [] => .isTrue trivial
  | _, i :: is =>
    have := decidableContiguous i.nextPc is
    inferInstanceAs (Decidable (_ ∧ _ ∧ _))

/-! ## One instruction after the other -/

/-- The state of reading a code one instruction after the other. -/
structure Sweep where
  /-- The code that is read. -/
  code : List UInt8
  /-- Offset of the next instruction. -/
  cursor : Nat
  /-- Whether reading has failed. -/
  failed : Bool
  deriving Repr, DecidableEq

namespace Sweep

/-- Reading starts at the first byte. -/
def start (code : List UInt8) : Sweep :=
  ⟨code, 0, false⟩

/-- The next item: an instruction, or the one fault after which nothing
follows, or nothing at the end of the code. -/
def next (s : Sweep) : Option (Except DecodeFault Instruction) × Sweep :=
  if s.failed ∨ s.code.length ≤ s.cursor then (none, s)
  else
    match Instruction.at? s.code s.cursor with
    | .ok i => (some (.ok i), { s with cursor := i.nextPc })
    | .error fault => (some (.error fault), { s with failed := true })

/-- The items of `n` calls in a row. -/
def take : Nat → Sweep → List (Option (Except DecodeFault Instruction))
  | 0, _ => []
  | n + 1, s => (s.next).1 :: take n (s.next).2

end Sweep
end MakeTen
