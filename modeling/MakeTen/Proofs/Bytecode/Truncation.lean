import MakeTen.Proofs.Bytecode.Assembly
/-!
# Codes that are cut short

Disassembly fails for one reason only: the last instruction of a code is a push whose
data the end of the code cuts off.  Behind this stands a statement about all codes.
Each of them falls, in one way only, into instructions that stand side by side and a
remnant, which is empty or an opcode byte with too little data behind it.

What the fault reports can be relied on.  It names the offset of that push, the data
that it asks for and the data that is there; the difference is what is missing, so the
code decodes once as many bytes are put behind it, whatever they are.

Main results:

- Structure `FallsInto`: instructions and the remnant of a code.
- Theorems `exists_fallsInto` and `FallsInto.unique`: every code falls into these in one
  way only.
- Theorem `disassembleFrom_eq_error_iff`: disassembly fails exactly with the fault of a
  remnant.
- Theorem `truncation_measures_the_damage`: which codes fail, and what puts them right.
-/

namespace MakeTen

/-! ## Instructions without all their data -/

namespace Instruction

/-- Too little data behind an opcode byte is reported. -/
theorem read_of_short {pc : Nat} {opcode : UInt8} {data : List UInt8}
    (h : data.length < (Mnemonic.ofByte opcode).immediateLength) :
    read pc opcode data =
      .error (.truncatedOperand pc (Mnemonic.ofByte opcode).immediateLength data.length) := by
  unfold read
  exact if_pos h

/-- Enough data behind an opcode byte makes an instruction. -/
theorem exists_read_of_not_short {opcode : UInt8} {data : List UInt8} (pc : Nat)
    (h : ¬ data.length < (Mnemonic.ofByte opcode).immediateLength) :
    ∃ i, read pc opcode data = .ok i :=
  ⟨_, read_eq_ok_iff.2 ⟨Nat.le_of_not_lt h, rfl⟩⟩

end Instruction

/-! ## Instructions and a remnant -/

/-- What disassembly can leave unread at the end of a code. -/
inductive Remnant : List UInt8 → Prop where
  /-- Nothing is left. -/
  | empty : Remnant []
  /-- An opcode byte is left, with less data than it asks for. -/
  | cut {opcode : UInt8} {data : List UInt8}
      (hshort : data.length < (Mnemonic.ofByte opcode).immediateLength) :
      Remnant (opcode :: data)

/-- An opcode byte that is left over lacks data. -/
theorem Remnant.short {opcode : UInt8} {data : List UInt8} (h : Remnant (opcode :: data)) :
    data.length < (Mnemonic.ofByte opcode).immediateLength := by
  cases h with
  | cut hshort => exact hshort

/-- A code that starts at offset `pc` is made of instructions that stand side by side
and, behind them, a remnant. -/
structure FallsInto (pc : Nat) (code : List UInt8) (is : List Instruction)
    (rest : List UInt8) : Prop where
  /-- The instructions stand side by side from the start of the code on. -/
  contiguous : Contiguous pc is
  /-- What is behind them is no instruction. -/
  remnant : Remnant rest
  /-- Nothing else is in the code. -/
  code_eq : code = assemble is ++ rest

namespace FallsInto

/-- An instruction in front of what falls into parts comes in front of the parts. -/
theorem cons {pc : Nat} {opcode : UInt8} {data rest : List UInt8} {i : Instruction}
    {is : List Instruction} (hread : Instruction.read pc opcode data = .ok i)
    (h : FallsInto i.nextPc (data.drop i.immediate.length) is rest) :
    FallsInto pc (opcode :: data) (i :: is) rest where
  contiguous :=
    ⟨Instruction.wellFormed_of_read hread, Instruction.pc_of_read hread, h.contiguous⟩
  remnant := h.remnant
  code_eq := by
    rw [assemble_cons, List.append_assoc, ← h.code_eq,
      Instruction.bytes_append_drop_of_read hread]

/-- A code without a remnant decodes to its instructions. -/
theorem disassembleFrom_eq_ok {pc : Nat} {code : List UInt8} {is : List Instruction}
    (h : FallsInto pc code is []) : disassembleFrom pc code = .ok is := by
  rw [h.code_eq, List.append_nil]
  exact disassembleFrom_assemble h.contiguous

/-- A remnant makes disassembly fail where it stands. -/
theorem disassembleFrom_eq_error {pc : Nat} {code data : List UInt8} {is : List Instruction}
    {opcode : UInt8} (h : FallsInto pc code is (opcode :: data)) :
    disassembleFrom pc code = .error (.truncatedOperand (pc + (assemble is).length)
      (Mnemonic.ofByte opcode).immediateLength data.length) := by
  rw [h.code_eq, disassembleFrom_assemble_append h.contiguous, disassembleFrom,
    Instruction.read_of_short h.remnant.short]
  rfl

end FallsInto

/-- Every code falls into instructions and a remnant. -/
theorem exists_fallsInto (pc : Nat) (code : List UInt8) :
    ∃ is rest, FallsInto pc code is rest := by
  fun_induction disassembleFrom pc code with
  | case1 pc => exact ⟨[], [], trivial, .empty, rfl⟩
  | case2 pc opcode data fault hread =>
    have hshort : data.length < (Mnemonic.ofByte opcode).immediateLength := by
      by_contra henough
      obtain ⟨i, hi⟩ := Instruction.exists_read_of_not_short pc henough
      rw [hi] at hread
      cases hread
    exact ⟨[], opcode :: data, trivial, .cut hshort, rfl⟩
  | case3 pc opcode data i hread fault hrest ih =>
    obtain ⟨is, rest, h⟩ := ih
    exact ⟨i :: is, rest, h.cons hread⟩
  | case4 pc opcode data i hread is' hrest ih =>
    obtain ⟨is, rest, h⟩ := ih
    exact ⟨i :: is, rest, h.cons hread⟩

/-- A code falls into instructions and a remnant in one way only. -/
theorem FallsInto.unique {pc : Nat} {code rest rest' : List UInt8} {is js : List Instruction}
    (h : FallsInto pc code is rest) (h' : FallsInto pc code js rest') :
    is = js ∧ rest = rest' := by
  -- Both ways say how disassembly of the same code ends, so that their remnants start at the
  -- same offset.
  have hlength : (assemble is).length = (assemble js).length := by
    have hcode := congrArg List.length (h.code_eq.symm.trans h'.code_eq)
    cases h.remnant with
    | empty =>
      cases h'.remnant with
      | empty => simpa using hcode
      | cut hshort =>
        have hends := h.disassembleFrom_eq_ok.symm.trans h'.disassembleFrom_eq_error
        cases hends
    | cut hshort =>
      cases h'.remnant with
      | empty =>
        have hends := h'.disassembleFrom_eq_ok.symm.trans h.disassembleFrom_eq_error
        cases hends
      | cut hshort' =>
        have hends := h.disassembleFrom_eq_error.symm.trans h'.disassembleFrom_eq_error
        injection hends with hfault
        injection hfault with hpc
        omega
  obtain ⟨hbytes, hrest⟩ := List.append_inj (h.code_eq.symm.trans h'.code_eq) hlength
  have hdecode := disassembleFrom_assemble h.contiguous
  rw [hbytes, disassembleFrom_assemble h'.contiguous] at hdecode
  injection hdecode with his
  exact ⟨his.symm, hrest⟩

/-- Disassembly fails exactly with the fault of a remnant. -/
theorem disassembleFrom_eq_error_iff {pc : Nat} {code : List UInt8} {fault : DecodeFault} :
    disassembleFrom pc code = .error fault ↔
      ∃ is opcode data, FallsInto pc code is (opcode :: data) ∧
        fault = .truncatedOperand (pc + (assemble is).length)
          (Mnemonic.ofByte opcode).immediateLength data.length := by
  constructor
  · intro hfault
    obtain ⟨is, rest, h⟩ := exists_fallsInto pc code
    cases rest with
    | nil =>
      rw [h.disassembleFrom_eq_ok] at hfault
      cases hfault
    | cons opcode data =>
      rw [h.disassembleFrom_eq_error] at hfault
      injection hfault with hfault
      exact ⟨is, opcode, data, h, hfault.symm⟩
  · rintro ⟨is, opcode, data, h, rfl⟩
    exact h.disassembleFrom_eq_error

/-- A code decodes exactly if it falls into instructions without a remnant. -/
theorem disassemble_eq_ok_iff_fallsInto {code : List UInt8} {is : List Instruction} :
    disassemble code = .ok is ↔ FallsInto 0 code is [] := by
  constructor
  · intro hcode
    obtain ⟨hcontiguous, rfl⟩ := disassemble_eq_ok_iff.1 hcode
    exact ⟨hcontiguous, .empty, (List.append_nil _).symm⟩
  · intro h
    exact h.disassembleFrom_eq_ok

theorem disassemble_eq_error_iff {code : List UInt8} {fault : DecodeFault} :
    disassemble code = .error fault ↔
      ∃ is opcode data, FallsInto 0 code is (opcode :: data) ∧
        fault = .truncatedOperand (assemble is).length
          (Mnemonic.ofByte opcode).immediateLength data.length := by
  unfold disassemble
  simp only [disassembleFrom_eq_error_iff, Nat.zero_add]

/-! ## What puts a code right -/

namespace FallsInto

/-- Bytes behind a remnant that still lacks data belong to its data. -/
theorem append_of_short {pc : Nat} {code data : List UInt8} {is : List Instruction}
    {opcode : UInt8} (h : FallsInto pc code is (opcode :: data)) {more : List UInt8}
    (hmore : data.length + more.length < (Mnemonic.ofByte opcode).immediateLength) :
    FallsInto pc (code ++ more) is (opcode :: (data ++ more)) where
  contiguous := h.contiguous
  remnant := .cut (by rwa [List.length_append])
  code_eq := by rw [h.code_eq, List.append_assoc, List.cons_append]

/-- The missing bytes make an instruction of a remnant. -/
theorem append_of_complete {pc : Nat} {code data : List UInt8} {is : List Instruction}
    {opcode : UInt8} (h : FallsInto pc code is (opcode :: data)) {more : List UInt8}
    (hmore : data.length + more.length = (Mnemonic.ofByte opcode).immediateLength) :
    FallsInto pc (code ++ more)
      (is ++ [⟨pc + (assemble is).length, opcode, Mnemonic.ofByte opcode, data ++ more⟩]) [] where
  contiguous := by
    rw [contiguous_append]
    exact ⟨h.contiguous, ⟨rfl, by rwa [List.length_append]⟩, rfl, trivial⟩
  remnant := .empty
  code_eq := by
    rw [h.code_eq, assemble_append]
    simp [Instruction.bytes]

end FallsInto

/-! ## Main theorem -/

/-- A code is made of bytes that decode and, behind them, an opcode byte with less data
than it asks for. -/
structure Truncated (code front : List UInt8) (opcode : UInt8) (data : List UInt8) : Prop where
  /-- These are the bytes of the code. -/
  code_eq : code = front ++ opcode :: data
  /-- The bytes in front decode. -/
  decodes : ∃ is, disassemble front = .ok is
  /-- The opcode byte lacks data. -/
  short : data.length < (Mnemonic.ofByte opcode).immediateLength

/-- A truncated code is one with a remnant behind its instructions. -/
theorem truncated_iff {code front : List UInt8} {opcode : UInt8} {data : List UInt8} :
    Truncated code front opcode data ↔
      ∃ is, FallsInto 0 code is (opcode :: data) ∧ front = assemble is := by
  constructor
  · rintro ⟨rfl, ⟨is, hfront⟩, hshort⟩
    obtain ⟨hcontiguous, rfl⟩ := disassemble_eq_ok_iff.1 hfront
    exact ⟨is, ⟨hcontiguous, .cut hshort, rfl⟩, rfl⟩
  · rintro ⟨is, h, rfl⟩
    exact ⟨h.code_eq, ⟨is, disassembleFrom_assemble h.contiguous⟩, h.remnant.short⟩

/-- Disassembly fails exactly on a code whose last instruction is cut short, and its
fault measures the damage.

It is never out of bounds.  It reports an instruction that lacks data exactly if the
code is made of bytes that decode, the opcode byte of that instruction at the offset
that is reported, and as much data as is reported, which is less than the opcode table
asks for, and this is so in one way only; no more than thirty-two bytes are ever asked
for.  As many bytes as are missing, whatever they are, complete that instruction, and
the code decodes; fewer bytes are counted as its data, and nothing else changes. -/
theorem truncation_measures_the_damage (code : List UInt8) :
    (∀ pc length, disassemble code ≠ .error (.outOfBounds pc length)) ∧
    (∀ pc expected available,
      disassemble code = .error (.truncatedOperand pc expected available) ↔
        ∃ front opcode data, Truncated code front opcode data ∧ pc = front.length ∧
          expected = (Mnemonic.ofByte opcode).immediateLength ∧ available = data.length) ∧
    (∀ front opcode data, Truncated code front opcode data →
      (Mnemonic.ofByte opcode).immediateLength ≤ 32 ∧
      ∀ front' opcode' data', Truncated code front' opcode' data' →
        front' = front ∧ opcode' = opcode ∧ data' = data) ∧
    (∀ pc expected available,
      disassemble code = .error (.truncatedOperand pc expected available) →
      available < expected ∧
      ∀ more : List UInt8,
        (more.length = expected - available →
          ∃ is i, disassemble (code ++ more) = .ok (is ++ [i]) ∧ i.pc = pc ∧
            i.immediate.length = expected) ∧
        (more.length < expected - available →
          disassemble (code ++ more) =
            .error (.truncatedOperand pc expected (available + more.length)))) := by
  refine ⟨?_, ?_, ?_, ?_⟩
  · intro pc length hcode
    obtain ⟨_, _, _, _, hfault⟩ := disassemble_eq_error_iff.1 hcode
    cases hfault
  · intro pc expected available
    rw [disassemble_eq_error_iff]
    constructor
    · rintro ⟨is, opcode, data, h, hfault⟩
      injection hfault with hpc hexpected havailable
      exact ⟨assemble is, opcode, data, truncated_iff.2 ⟨is, h, rfl⟩, hpc, hexpected, havailable⟩
    · rintro ⟨front, opcode, data, htruncated, rfl, rfl, rfl⟩
      obtain ⟨is, h, rfl⟩ := truncated_iff.1 htruncated
      exact ⟨is, opcode, data, h, rfl⟩
  · intro front opcode data htruncated
    refine ⟨Mnemonic.immediateLength_ofByte_le opcode, ?_⟩
    intro front' opcode' data' htruncated'
    obtain ⟨is, h, rfl⟩ := truncated_iff.1 htruncated
    obtain ⟨js, h', rfl⟩ := truncated_iff.1 htruncated'
    obtain ⟨rfl, hrest⟩ := h'.unique h
    injection hrest with hopcode hdata
    exact ⟨rfl, hopcode, hdata⟩
  · intro pc expected available hcode
    obtain ⟨is, opcode, data, h, hfault⟩ := disassemble_eq_error_iff.1 hcode
    injection hfault with hpc hexpected havailable
    subst hpc hexpected havailable
    have hshort := h.remnant.short
    refine ⟨hshort, ?_⟩
    intro more
    constructor
    · intro hmore
      have hcomplete : data.length + more.length = (Mnemonic.ofByte opcode).immediateLength := by
        omega
      have hdecodes := (h.append_of_complete hcomplete).disassembleFrom_eq_ok
      refine ⟨is, _, hdecodes, Nat.zero_add _, ?_⟩
      rw [List.length_append, hcomplete]
    · intro hmore
      have hstill : data.length + more.length < (Mnemonic.ofByte opcode).immediateLength := by
        omega
      have hfault := (h.append_of_short hstill).disassembleFrom_eq_error
      rw [Nat.zero_add, List.length_append] at hfault
      exact hfault

/-- A push of four bytes behind a push of one that looks like it: two of its bytes are
missing, and any two put it right, although they look like a slot and a push. -/
theorem truncation_of_four_byte_push :
    disassemble [0x60, 0x63, 0x63, 0x01, 0x02] = .error (.truncatedOperand 2 4 2) ∧
      (∃ is i, disassemble ([0x60, 0x63, 0x63, 0x01, 0x02] ++ [0xCC, 0x7F]) = .ok (is ++ [i]) ∧
        i.pc = 2 ∧ i.immediate.length = 4) ∧
      disassemble ([0x60, 0x63, 0x63, 0x01, 0x02] ++ [0xCC]) =
        .error (.truncatedOperand 2 4 3) := by
  have htruncated : Truncated [0x60, 0x63, 0x63, 0x01, 0x02] [0x60, 0x63] 0x63 [0x01, 0x02] :=
    ⟨rfl, ⟨[⟨0, 0x60, .push 1, [0x63]⟩], disassemble_eq_ok_iff.2 (by decide)⟩, by decide⟩
  have hfails : disassemble [0x60, 0x63, 0x63, 0x01, 0x02] = .error (.truncatedOperand 2 4 2) :=
    ((truncation_measures_the_damage _).2.1 2 4 2).2 ⟨_, _, _, htruncated, rfl, rfl, rfl⟩
  obtain ⟨_, hmore⟩ := (truncation_measures_the_damage _).2.2.2 2 4 2 hfails
  exact ⟨hfails, (hmore [0xCC, 0x7F]).1 rfl, (hmore [0xCC]).2 (by decide)⟩

end MakeTen
