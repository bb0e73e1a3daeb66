import MakeTen.Bytecode.Mnemonic
import MakeTen.Text.Hex
import MakeTen.Text.Utf8
/-!
# Solutions

A player places three of the four basic operators.  A solution is typed as the
three opcode bytes back to back, six hexadecimal digits without anything around
them; every other text is turned away without a reason.

Main definitions:

- Type `Operator`: the four operators.
- Structure `Solution`: three operators in the order in which they were typed.
- Function `Solution.ofText?`: the solution that a text stands for.
-/

namespace MakeTen

/-! ## Operators -/

/-- The operators that a player may place. -/
inductive Operator where
  | add | mul | sub | div
  deriving Repr, DecidableEq

namespace Operator

/-- The opcode byte of an operator. -/
def byte : Operator → UInt8
  | .add => 0x01
  | .mul => 0x02
  | .sub => 0x03
  | .div => 0x04

/-- The operator with an opcode byte. -/
def ofByte? (b : UInt8) : Option Operator :=
  if b = 0x01 then some .add
  else if b = 0x02 then some .mul
  else if b = 0x03 then some .sub
  else if b = 0x04 then some .div
  else none

/-- The instruction that an operator is. -/
def mnemonic (o : Operator) : Mnemonic :=
  Mnemonic.ofByte o.byte

@[simp]
theorem ofByte?_byte (o : Operator) : ofByte? o.byte = some o := by
  cases o <;> rfl

/-- An operator is read back from its own byte only. -/
theorem ofByte?_eq_some_iff {b : UInt8} {o : Operator} : ofByte? b = some o ↔ b = o.byte := by
  constructor
  · intro h
    unfold ofByte? at h
    repeat' split at h
    all_goals simp_all
    all_goals subst h
    all_goals rfl
  · rintro rfl
    exact ofByte?_byte o

/-- No operator is the slot marker. -/
theorem byte_ne_placeholder (o : Operator) : o.byte ≠ placeholder := by
  cases o <;> decide

/-- No operator carries data. -/
@[simp]
theorem immediateLength_mnemonic (o : Operator) : o.mnemonic.immediateLength = 0 := by
  cases o <;> decide

end Operator

/-! ## Solutions -/

/-- Number of operator slots in every puzzle. -/
def slotCount : Nat := 3

/-- Three operators; the first goes into the leftmost slot. -/
structure Solution where
  first : Operator
  second : Operator
  third : Operator
  deriving Repr, DecidableEq

namespace Solution

/-- The operators from left to right. -/
def operators (s : Solution) : List Operator :=
  [s.first, s.second, s.third]

/-- The opcode bytes from left to right. -/
def bytes (s : Solution) : List UInt8 :=
  s.operators.map Operator.byte

/-- The digits that stand for the solution. -/
def text (s : Solution) : String :=
  Hex.lower s.bytes

/-- The operator that two digits stand for. -/
def operator? (high low : UInt8) : Option Operator := do
  let h ← Hex.digitValue? high
  let l ← Hex.digitValue? low
  Operator.ofByte? (h * 16 + l)

/-- The solution that a text stands for: three pairs of digits and nothing
else, each the opcode of an operator. -/
def ofText? (text : String) : Option Solution :=
  match Utf8.encodeString text with
  | [a, b, c, d, e, f] => do
    let first ← operator? a b
    let second ← operator? c d
    let third ← operator? e f
    pure ⟨first, second, third⟩
  | _ => none

/-- What is said of a text that stands for no solution. -/
def invalidMessage : String := "Invalid solution"

@[simp]
theorem length_bytes (s : Solution) : s.bytes.length = slotCount := rfl

end Solution
end MakeTen
