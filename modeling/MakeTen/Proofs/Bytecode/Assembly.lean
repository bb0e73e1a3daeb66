import MakeTen.Bytecode.Disassembly
import Mathlib.Data.List.Chain
import Mathlib.Logic.ExistsUnique
/-!
# Disassembly against assembly

Splitting a code into instructions and putting the bytes of instructions side
by side undo each other.  Everything rests on one statement about lists that
stand side by side from some offset on: such a list is what disassembly makes
of its own bytes, whatever follows them.

Main results:

- Theorem `contiguous_iff`: what it means to stand side by side, said of the
  list as a whole.
- Theorem `disassembleFrom_assemble_append`: disassembly takes a contiguous list
  off the front of a code.
- Theorem `disassembleFrom_eq_ok_iff`: disassembly succeeds exactly with the
  contiguous list that has the code for its bytes.
- Theorem `disassemble_iff_segmentation`: codes that decode and well-formed
  instruction sequences correspond one to one, and every byte of a code belongs
  to one instruction.
-/

namespace MakeTen

/-! ## Bytes of instructions -/

namespace Instruction

@[simp]
theorem length_bytes (i : Instruction) : i.bytes.length = i.size := by
  simp [bytes, size, Nat.add_comm]

theorem size_pos (i : Instruction) : 0 < i.size := by
  unfold size
  omega

theorem pc_lt_nextPc (i : Instruction) : i.pc < i.nextPc := by
  have hsize := i.size_pos
  unfold nextPc
  omega

/-- Whether the byte at an offset of the code belongs to the instruction. -/
def Covers (i : Instruction) (offset : Nat) : Prop :=
  i.pc ≤ offset ∧ offset < i.nextPc

end Instruction

@[simp]
theorem assemble_nil : assemble [] = [] := rfl

@[simp]
theorem assemble_cons (i : Instruction) (is : List Instruction) :
    assemble (i :: is) = i.bytes ++ assemble is := rfl

@[simp]
theorem assemble_append (is js : List Instruction) :
    assemble (is ++ js) = assemble is ++ assemble js := by
  simp [assemble]

/-! ## Lists that stand side by side -/

@[simp]
theorem contiguous_nil (pc : Nat) : Contiguous pc [] := trivial

@[simp]
theorem contiguous_cons (pc : Nat) (i : Instruction) (is : List Instruction) :
    Contiguous pc (i :: is) ↔ i.WellFormed ∧ i.pc = pc ∧ Contiguous i.nextPc is :=
  Iff.rfl

/-- Two lists stand side by side one after the other exactly when each does, the
second from where the bytes of the first end. -/
theorem contiguous_append {pc : Nat} {is js : List Instruction} :
    Contiguous pc (is ++ js) ↔
      Contiguous pc is ∧ Contiguous (pc + (assemble is).length) js := by
  induction is generalizing pc with
  | nil => simp
  | cons i is ih =>
    simp only [List.cons_append, contiguous_cons, ih, assemble_cons, List.length_append,
      Instruction.length_bytes, and_assoc]
    refine and_congr_right fun _ => and_congr_right fun hpc => and_congr_right fun _ => ?_
    rw [Instruction.nextPc, hpc, Nat.add_assoc]

/-- Every instruction of a contiguous list is well formed. -/
theorem Contiguous.wellFormed {pc : Nat} {is : List Instruction} (h : Contiguous pc is) :
    ∀ i ∈ is, i.WellFormed := by
  induction is generalizing pc with
  | nil => simp
  | cons i is ih =>
    obtain ⟨hi, _, his⟩ := h
    intro j hj
    rcases List.mem_cons.1 hj with rfl | hj
    · exact hi
    · exact ih his j hj

/-- Standing side by side from an offset on: every instruction is well formed,
the first starts at the offset, and each later one where the one before ends. -/
theorem contiguous_iff {pc : Nat} {is : List Instruction} :
    Contiguous pc is ↔
      (∀ i ∈ is, i.WellFormed) ∧ (∀ i ∈ is.head?, i.pc = pc) ∧
        is.IsChain (fun i j => j.pc = i.nextPc) := by
  induction is generalizing pc with
  | nil => simp
  | cons i is ih =>
    rw [contiguous_cons, ih, List.isChain_cons]
    simp only [List.mem_cons, forall_eq_or_imp, List.head?_cons, Option.mem_some_iff,
      forall_eq']
    tauto

/-- A list of instructions falls into those before an instruction, the
instruction, and those after it. -/
theorem eq_take_append_cons_drop {is : List Instruction} {k : Nat} {i : Instruction}
    (hk : is[k]? = some i) : is = is.take k ++ i :: is.drop (k + 1) := by
  obtain ⟨hlt, rfl⟩ := List.getElem?_eq_some_iff.1 hk
  rw [← List.drop_eq_getElem_cons hlt, List.take_append_drop]

/-- The offset of an instruction is the number of bytes before it. -/
theorem Contiguous.pc_eq {pc : Nat} {is : List Instruction} (h : Contiguous pc is) {k : Nat}
    {i : Instruction} (hk : is[k]? = some i) : i.pc = pc + (assemble (is.take k)).length := by
  rw [eq_take_append_cons_drop hk, contiguous_append, contiguous_cons] at h
  exact h.2.2.1

/-! ## Who owns a byte -/

/-- No instruction starts before the list does. -/
theorem Contiguous.le_pc {pc : Nat} {is : List Instruction} (h : Contiguous pc is) :
    ∀ i ∈ is, pc ≤ i.pc := by
  induction is generalizing pc with
  | nil => simp
  | cons i is ih =>
    obtain ⟨_, rfl, his⟩ := h
    intro j hj
    rcases List.mem_cons.1 hj with rfl | hj
    · exact Nat.le_refl _
    · exact Nat.le_trans (Nat.le_of_lt i.pc_lt_nextPc) (ih his j hj)

/-- Every instruction starts before the list ends. -/
theorem Contiguous.pc_lt {pc : Nat} {is : List Instruction} (h : Contiguous pc is) :
    ∀ i ∈ is, i.pc < pc + (assemble is).length := by
  intro i hi
  obtain ⟨before, after, rfl⟩ := List.append_of_mem hi
  rw [contiguous_append, contiguous_cons] at h
  have hpc : i.pc = pc + (assemble before).length := h.2.2.1
  have hsize := i.size_pos
  rw [assemble_append, assemble_cons, List.length_append, List.length_append,
    Instruction.length_bytes]
  omega

/-- Each instruction of a contiguous list ends before a later one starts. -/
theorem Contiguous.pairwise {pc : Nat} {is : List Instruction} (h : Contiguous pc is) :
    is.Pairwise (fun i j => i.nextPc ≤ j.pc) := by
  induction is generalizing pc with
  | nil => exact List.Pairwise.nil
  | cons i is ih =>
    obtain ⟨_, _, his⟩ := h
    exact List.Pairwise.cons his.le_pc (ih his)

/-- Every byte behind the start of a contiguous list belongs to an instruction. -/
theorem Contiguous.exists_covers {pc offset : Nat} {is : List Instruction}
    (h : Contiguous pc is) (hle : pc ≤ offset) (hlt : offset < pc + (assemble is).length) :
    ∃ (k : Nat) (i : Instruction), is[k]? = some i ∧ i.Covers offset := by
  induction is generalizing pc with
  | nil =>
    rw [assemble_nil, List.length_nil] at hlt
    omega
  | cons i is ih =>
    obtain ⟨_, rfl, his⟩ := h
    by_cases hnext : offset < i.nextPc
    · exact ⟨0, i, rfl, hle, hnext⟩
    · have hrest : offset < i.nextPc + (assemble is).length := by
        rw [assemble_cons, List.length_append, Instruction.length_bytes] at hlt
        unfold Instruction.nextPc
        omega
      obtain ⟨k, j, hk, hj⟩ := ih his (by omega) hrest
      exact ⟨k + 1, j, hk, hj⟩

/-- No byte belongs to two instructions. -/
theorem Contiguous.index_eq_of_covers {pc offset : Nat} {is : List Instruction}
    (h : Contiguous pc is) {k m : Nat} {i j : Instruction} (hk : is[k]? = some i)
    (hm : is[m]? = some j) (hi : i.Covers offset) (hj : j.Covers offset) : k = m := by
  obtain ⟨hklt, rfl⟩ := List.getElem?_eq_some_iff.1 hk
  obtain ⟨hmlt, rfl⟩ := List.getElem?_eq_some_iff.1 hm
  have hpairs := List.pairwise_iff_getElem.1 h.pairwise
  obtain ⟨hi1, hi2⟩ := hi
  obtain ⟨hj1, hj2⟩ := hj
  rcases Nat.lt_trichotomy k m with hlt | heq | hgt
  · have hle := hpairs k m hklt hmlt hlt
    omega
  · exact heq
  · have hle := hpairs m k hmlt hklt hgt
    omega

/-- A byte that belongs to an instruction stands in it at the distance from the
instruction's offset. -/
theorem Contiguous.getElem?_of_covers {pc offset : Nat} {is : List Instruction}
    (h : Contiguous pc is) {k : Nat} {i : Instruction} (hk : is[k]? = some i)
    (hi : i.Covers offset) : i.bytes[offset - i.pc]? = (assemble is)[offset - pc]? := by
  obtain ⟨hle, hlt⟩ := hi
  have hpc := h.pc_eq hk
  have hbytes : assemble is =
      assemble (is.take k) ++ (i.bytes ++ assemble (is.drop (k + 1))) := by
    conv_lhs => rw [eq_take_append_cons_drop hk, assemble_append, assemble_cons]
  have hinside : offset - i.pc < i.bytes.length := by
    rw [Instruction.length_bytes]
    unfold Instruction.nextPc at hlt
    omega
  have hdistance : offset - pc - (assemble (is.take k)).length = offset - i.pc := by omega
  rw [hbytes, List.getElem?_append_right (by omega), hdistance,
    List.getElem?_append_left hinside]

/-! ## Reading back -/

namespace Instruction

/-- A well-formed instruction is read back from its own bytes, whatever follows
them. -/
theorem WellFormed.read_eq {i : Instruction} (h : i.WellFormed) (rest : List UInt8) :
    read i.pc i.opcode (i.immediate ++ rest) = .ok i := by
  obtain ⟨hname, hdata⟩ := h
  rw [read_eq_ok_iff, ← hdata, List.take_left, ← hname]
  exact ⟨by simp, rfl⟩

/-- An instruction that has been read starts where reading starts. -/
theorem pc_of_read {pc : Nat} {opcode : UInt8} {rest : List UInt8} {i : Instruction}
    (h : read pc opcode rest = .ok i) : i.pc = pc := by
  obtain ⟨_, rfl⟩ := read_eq_ok_iff.1 h
  rfl

/-- The bytes of an instruction that has been read, followed by those that it
leaves, are the bytes that were there. -/
theorem bytes_append_drop_of_read {pc : Nat} {opcode : UInt8} {rest : List UInt8}
    {i : Instruction} (h : read pc opcode rest = .ok i) :
    i.bytes ++ rest.drop i.immediate.length = opcode :: rest := by
  obtain ⟨hle, rfl⟩ := read_eq_ok_iff.1 h
  simp only [bytes, List.length_take, Nat.min_eq_left hle, List.cons_append,
    List.take_append_drop]

end Instruction

theorem disassembleFrom_nil (pc : Nat) : disassembleFrom pc [] = .ok [] := by
  rw [disassembleFrom]

/-- Disassembly after an instruction that can be read. -/
theorem disassembleFrom_cons {pc : Nat} {opcode : UInt8} {rest : List UInt8} {i : Instruction}
    (h : Instruction.read pc opcode rest = .ok i) :
    disassembleFrom pc (opcode :: rest) =
      (disassembleFrom i.nextPc (rest.drop i.immediate.length)).map (i :: ·) := by
  rw [disassembleFrom, h]
  dsimp only
  cases disassembleFrom i.nextPc (rest.drop i.immediate.length) <;> rfl

/-- Disassembly takes a contiguous list off the front of a code and goes on
behind it. -/
theorem disassembleFrom_assemble_append {pc : Nat} {is : List Instruction}
    (h : Contiguous pc is) (rest : List UInt8) :
    disassembleFrom pc (assemble is ++ rest) =
      (disassembleFrom (pc + (assemble is).length) rest).map (is ++ ·) := by
  induction is generalizing pc with
  | nil =>
    simp only [assemble_nil, List.nil_append, List.length_nil, Nat.add_zero]
    cases disassembleFrom pc rest <;> rfl
  | cons i is ih =>
    obtain ⟨hi, rfl, his⟩ := h
    have hread := hi.read_eq (assemble is ++ rest)
    have hend : i.nextPc + (assemble is).length = i.pc + (assemble (i :: is)).length := by
      simp [Instruction.nextPc, Nat.add_assoc]
    have hbytes : assemble (i :: is) ++ rest = i.opcode :: (i.immediate ++ (assemble is ++ rest)) := by
      simp [Instruction.bytes]
    rw [hbytes, disassembleFrom_cons hread, List.drop_left, ih his, hend]
    cases disassembleFrom (i.pc + (assemble (i :: is)).length) rest <;> rfl

/-- Disassembly recovers a contiguous list from its bytes. -/
theorem disassembleFrom_assemble {pc : Nat} {is : List Instruction} (h : Contiguous pc is) :
    disassembleFrom pc (assemble is) = .ok is := by
  have happend := disassembleFrom_assemble_append h []
  rw [List.append_nil, disassembleFrom_nil] at happend
  simpa [Except.map] using happend

/-- What disassembly yields stands side by side and has the code for its bytes. -/
theorem contiguous_of_disassembleFrom {pc : Nat} {code : List UInt8} {is : List Instruction}
    (h : disassembleFrom pc code = .ok is) : Contiguous pc is ∧ assemble is = code := by
  fun_induction disassembleFrom pc code generalizing is with
  | case1 pc =>
    obtain rfl : [] = is := by simpa using h
    exact ⟨trivial, rfl⟩
  | case2 pc opcode rest fault hread => simp at h
  | case3 pc opcode rest i hread fault hrest ih => simp at h
  | case4 pc opcode rest i hread is' hrest ih =>
    obtain rfl : i :: is' = is := by simpa using h
    obtain ⟨htail, hbytes⟩ := ih hrest
    refine ⟨⟨Instruction.wellFormed_of_read hread, Instruction.pc_of_read hread, htail⟩, ?_⟩
    rw [assemble_cons, hbytes, Instruction.bytes_append_drop_of_read hread]

/-- Disassembly succeeds exactly with the contiguous list that has the code for
its bytes. -/
theorem disassembleFrom_eq_ok_iff {pc : Nat} {code : List UInt8} {is : List Instruction} :
    disassembleFrom pc code = .ok is ↔ Contiguous pc is ∧ assemble is = code := by
  constructor
  · exact contiguous_of_disassembleFrom
  · rintro ⟨h, rfl⟩
    exact disassembleFrom_assemble h

theorem disassemble_eq_ok_iff {code : List UInt8} {is : List Instruction} :
    disassemble code = .ok is ↔ Contiguous 0 is ∧ assemble is = code :=
  disassembleFrom_eq_ok_iff

/-- Codes that decode and well-formed instruction sequences correspond one to
one.

A list of instructions is the disassembly of a code exactly when every
instruction agrees with the opcode table, the first starts at offset zero and
each later one where the one before ends, and their bytes are the code.  So
disassembly and assembly undo each other; the offset of an instruction counts
the bytes before it; and each byte of the code belongs to exactly one
instruction, in which it stands at its own place. -/
theorem disassemble_iff_segmentation (code : List UInt8) (is : List Instruction) :
    (disassemble code = .ok is ↔
      (∀ i ∈ is, i.mnemonic = Mnemonic.ofByte i.opcode ∧
        i.immediate.length = (Mnemonic.ofByte i.opcode).immediateLength) ∧
      (∀ i ∈ is.head?, i.pc = 0) ∧ is.IsChain (fun i j => j.pc = i.nextPc) ∧
      is.flatMap Instruction.bytes = code) ∧
    (Contiguous 0 is → disassemble (assemble is) = .ok is) ∧
    (disassemble code = .ok is →
      assemble is = code ∧
      (∀ (k : Nat) (i : Instruction), is[k]? = some i →
        i.pc = (assemble (is.take k)).length) ∧
      ∀ offset < code.length, ∃! k : Nat, ∃ i, is[k]? = some i ∧ i.Covers offset ∧
        i.bytes[offset - i.pc]? = code[offset]?) := by
  refine ⟨?_, disassembleFrom_assemble, ?_⟩
  · rw [disassemble_eq_ok_iff, contiguous_iff, and_assoc, and_assoc]
    rfl
  · intro h
    obtain ⟨hcontiguous, rfl⟩ := disassemble_eq_ok_iff.1 h
    refine ⟨rfl, ?_, ?_⟩
    · intro k i hk
      simpa using hcontiguous.pc_eq hk
    · intro offset hoffset
      obtain ⟨k, i, hk, hi⟩ :=
        hcontiguous.exists_covers (Nat.zero_le offset) (by simpa using hoffset)
      refine ⟨k, ⟨i, hk, hi, ?_⟩, ?_⟩
      · simpa using hcontiguous.getElem?_of_covers hk hi
      · rintro m ⟨j, hm, hj, _⟩
        exact hcontiguous.index_eq_of_covers hm hk hj hi

/-- A push whose data looks like a push and a slot is one instruction, and its
last byte belongs to it alone. -/
theorem segmentation_of_push :
    disassemble [0x61, 0x60, 0xCC, 0x01] =
        .ok [⟨0, 0x61, .push 2, [0x60, 0xCC]⟩, ⟨3, 0x01, .add, []⟩] ∧
      ∃! k : Nat, ∃ i, [(⟨0, 0x61, .push 2, [0x60, 0xCC]⟩ : Instruction),
          ⟨3, 0x01, .add, []⟩][k]? = some i ∧ i.Covers 2 ∧
        i.bytes[2 - i.pc]? = [(0x61 : UInt8), 0x60, 0xCC, 0x01][2]? := by
  have hdecodes := (disassemble_iff_segmentation [0x61, 0x60, 0xCC, 0x01]
    [⟨0, 0x61, .push 2, [0x60, 0xCC]⟩, ⟨3, 0x01, .add, []⟩]).2.1 (by decide)
  exact ⟨hdecodes, ((disassemble_iff_segmentation _ _).2.2 hdecodes).2.2 2 (by decide)⟩

end MakeTen
