import MakeTen.Proofs.Bytecode.Truncation
/-!
# Codes put together and taken apart

Disassembly does not know where a code stands.  Instructions that are read from bytes
are read from the same bytes anywhere else, only that their offsets move along, and so
do the offsets in a fault.  A code that decodes can therefore be put in front of any
other without a change to how that is read, and a code that decodes can be cut where
one of its instructions starts.

Main results:

- Theorem `contiguous_map_rebase_iff`: instructions that are moved together still stand
  side by side.
- Theorem `Contiguous.exists_eq_map_rebase`: instructions that start further on are
  moved ones.
- Theorems `FallsInto.rebase` and `FallsInto.append`: the parts of a code that is moved,
  and of one behind instructions.
- Theorem `disassembly_respects_boundaries`: putting codes together puts their
  instructions together, and cutting a code cuts its instructions.
-/

namespace MakeTen

/-! ## Moving instructions -/

namespace Instruction

@[simp]
theorem pc_rebase (base : Nat) (i : Instruction) : (i.rebase base).pc = base + i.pc := rfl

@[simp]
theorem bytes_rebase (base : Nat) (i : Instruction) : (i.rebase base).bytes = i.bytes := rfl

@[simp]
theorem nextPc_rebase (base : Nat) (i : Instruction) :
    (i.rebase base).nextPc = base + i.nextPc :=
  Nat.add_assoc base i.pc i.size

/-- Where an instruction stands has no part in its being well formed. -/
@[simp]
theorem wellFormed_rebase_iff (base : Nat) (i : Instruction) :
    (i.rebase base).WellFormed ↔ i.WellFormed :=
  Iff.rfl

end Instruction

/-- Moved instructions have the bytes that they had. -/
@[simp]
theorem assemble_map_rebase (base : Nat) (is : List Instruction) :
    assemble (is.map (Instruction.rebase base)) = assemble is := by
  induction is with
  | nil => rfl
  | cons i is ih => rw [List.map_cons, assemble_cons, ih, Instruction.bytes_rebase, assemble_cons]

/-- Instructions that are moved together stand side by side exactly if they did. -/
theorem contiguous_map_rebase_iff {base pc : Nat} {is : List Instruction} :
    Contiguous (base + pc) (is.map (Instruction.rebase base)) ↔ Contiguous pc is := by
  induction is generalizing pc with
  | nil => exact Iff.rfl
  | cons i is ih =>
    rw [List.map_cons, contiguous_cons, contiguous_cons, Instruction.wellFormed_rebase_iff,
      Instruction.pc_rebase, Nat.add_left_cancel_iff, Instruction.nextPc_rebase, ih]

/-- Instructions side by side that start further on are moved ones. -/
theorem Contiguous.exists_eq_map_rebase {base pc : Nat} {is : List Instruction}
    (h : Contiguous (base + pc) is) :
    ∃ js, Contiguous pc js ∧ is = js.map (Instruction.rebase base) := by
  induction is generalizing pc with
  | nil => exact ⟨[], trivial, rfl⟩
  | cons i is ih =>
    obtain ⟨hi, hpc, his⟩ := h
    have hnext : i.nextPc = base + (pc + i.size) := by
      rw [Instruction.nextPc, hpc, Nat.add_assoc]
    rw [hnext] at his
    obtain ⟨js, hjs, rfl⟩ := ih his
    refine ⟨{ i with pc := pc } :: js, ⟨hi, rfl, hjs⟩, ?_⟩
    rw [List.map_cons, Instruction.rebase, ← hpc]

/-! ## Moving codes -/

namespace FallsInto

/-- A code that starts further on falls into the same parts, moved along. -/
theorem rebase {pc : Nat} {code rest : List UInt8} {is : List Instruction}
    (h : FallsInto pc code is rest) (base : Nat) :
    FallsInto (base + pc) code (is.map (Instruction.rebase base)) rest where
  contiguous := contiguous_map_rebase_iff.2 h.contiguous
  remnant := h.remnant
  code_eq := by rw [assemble_map_rebase, h.code_eq]

/-- Instructions in front of a code come in front of its parts. -/
theorem append {pc : Nat} {code rest : List UInt8} {is js : List Instruction}
    (his : Contiguous pc is) (h : FallsInto (pc + (assemble is).length) code js rest) :
    FallsInto pc (assemble is ++ code) (is ++ js) rest where
  contiguous := contiguous_append.2 ⟨his, h.contiguous⟩
  remnant := h.remnant
  code_eq := by rw [h.code_eq, assemble_append, List.append_assoc]

/-- A code behind one that decodes keeps its parts, moved behind the instructions of the
first. -/
theorem append_rebase {front back rest : List UInt8} {is js : List Instruction}
    (hfront : disassemble front = .ok is) (h : FallsInto 0 back js rest) :
    FallsInto 0 (front ++ back) (is ++ js.map (Instruction.rebase front.length)) rest := by
  obtain ⟨hcontiguous, rfl⟩ := disassemble_eq_ok_iff.1 hfront
  have hmoved := h.rebase (assemble is).length
  rw [Nat.add_zero] at hmoved
  apply append hcontiguous
  rwa [Nat.zero_add]

end FallsInto

/-! ## Main theorem -/

/-- Disassembly takes codes that are put together for instructions that are put
together, and the other way round.

Behind a code that decodes, any code is read as it is read alone, with its offsets moved
by the length of the first: the instructions of both follow one another, or its fault is
reported further on.  And a code that decodes, cut where any of its instructions starts,
makes two that decode: to the instructions before that one, and to the others, moved
back to the start. -/
theorem disassembly_respects_boundaries :
    (∀ (front back : List UInt8) (is : List Instruction), disassemble front = .ok is →
      (∀ js, disassemble back = .ok js →
        disassemble (front ++ back) = .ok (is ++ js.map (Instruction.rebase front.length))) ∧
      (∀ pc expected available,
        disassemble back = .error (.truncatedOperand pc expected available) →
        disassemble (front ++ back) =
          .error (.truncatedOperand (pc + front.length) expected available))) ∧
    (∀ (code : List UInt8) (is : List Instruction), disassemble code = .ok is →
      ∀ (k : Nat) (i : Instruction), is[k]? = some i →
        disassemble (code.take i.pc) = .ok (is.take k) ∧
        ∃ js, disassemble (code.drop i.pc) = .ok js ∧
          is.drop k = js.map (Instruction.rebase i.pc)) := by
  constructor
  · intro front back is hfront
    constructor
    · intro js hback
      have h := disassemble_eq_ok_iff_fallsInto.1 hback
      exact disassemble_eq_ok_iff_fallsInto.2 (h.append_rebase hfront)
    · intro pc expected available hback
      obtain ⟨js, opcode, data, h, hfault⟩ := disassemble_eq_error_iff.1 hback
      injection hfault with hpc hexpected havailable
      obtain ⟨_, rfl⟩ := disassemble_eq_ok_iff.1 hfront
      rw [disassemble_eq_error_iff]
      refine ⟨_, opcode, data, h.append_rebase hfront, ?_⟩
      rw [assemble_append, assemble_map_rebase, List.length_append, hpc, hexpected, havailable,
        Nat.add_comm]
  · intro code is hcode k i hk
    obtain ⟨hcontiguous, rfl⟩ := disassemble_eq_ok_iff.1 hcode
    have hpc : i.pc = (assemble (is.take k)).length := by simpa using hcontiguous.pc_eq hk
    have hparts := hcontiguous
    rw [← List.take_append_drop k is, contiguous_append, Nat.zero_add, ← hpc] at hparts
    have hbytes : assemble is = assemble (is.take k) ++ assemble (is.drop k) := by
      rw [← assemble_append, List.take_append_drop]
    constructor
    · rw [hbytes, hpc, List.take_left]
      exact disassembleFrom_assemble hparts.1
    · have hrest : Contiguous (i.pc + 0) (is.drop k) := hparts.2
      obtain ⟨js, hjs, hmoved⟩ := hrest.exists_eq_map_rebase
      refine ⟨js, ?_, hmoved⟩
      rw [hbytes, hpc, List.drop_left, hmoved, assemble_map_rebase]
      exact disassembleFrom_assemble hjs

/-- Bytes that look like a push do no harm behind a push that takes them for its data,
and a push that is cut short is reported further on; the code is cut again in front of
its last instruction. -/
theorem boundaries_of_two_pushes :
    disassemble ([0x60, 0x7F] ++ [0x61, 0x60, 0x01, 0x02]) =
        .ok [⟨0, 0x60, .push 1, [0x7F]⟩, ⟨2, 0x61, .push 2, [0x60, 0x01]⟩, ⟨5, 0x02, .mul, []⟩] ∧
      disassemble ([0x60, 0x7F] ++ [0x01, 0x62, 0x60]) = .error (.truncatedOperand 3 3 1) ∧
      disassemble [0x60, 0x7F, 0x61, 0x60, 0x01] =
        .ok [⟨0, 0x60, .push 1, [0x7F]⟩, ⟨2, 0x61, .push 2, [0x60, 0x01]⟩] ∧
      ∃ js, disassemble [0x02] = .ok js ∧
        [⟨5, 0x02, .mul, []⟩] = js.map (Instruction.rebase 5) := by
  have hfront : disassemble [0x60, 0x7F] = .ok [⟨0, 0x60, .push 1, [0x7F]⟩] :=
    disassemble_eq_ok_iff.2 (by decide)
  have hback : disassemble [0x61, 0x60, 0x01, 0x02] =
      .ok [⟨0, 0x61, .push 2, [0x60, 0x01]⟩, ⟨3, 0x02, .mul, []⟩] :=
    disassemble_eq_ok_iff.2 (by decide)
  have hfault : disassemble [0x01, 0x62, 0x60] = .error (.truncatedOperand 1 3 1) :=
    disassemble_eq_error_iff.2 ⟨[⟨0, 0x01, .add, []⟩], 0x62, [0x60],
      ⟨by decide, .cut (by decide), rfl⟩, rfl⟩
  have hwhole := (disassembly_respects_boundaries.1 _ _ _ hfront).1 _ hback
  have hfails := (disassembly_respects_boundaries.1 _ _ _ hfront).2 1 3 1 hfault
  have hcut := disassembly_respects_boundaries.2 _ _ hwhole 2 _ rfl
  exact ⟨hwhole, hfails, hcut.1, hcut.2⟩

end MakeTen
