import MakeTen.Proofs.Puzzle.Filling
/-!
# What is accepted as a template

A code is checked for three things, one after the other: that it decodes, that no
slot marker hides in the data of an instruction, and that it has three slots.  The
first check that fails is the one that is reported, and of several instructions
with a hidden marker it is the leftmost one.

What is accepted can be looked at in two ways.  Slots are found in the bytes, as the
places of the marker, and in the instructions, as those that are named as slots;
the second check is what makes the two agree.

Main results:

- Relation `Template.Refused`: the checks, each with the fault that it reports.
- Theorem `Template.ofCode_eq_error_iff`: which codes are refused, and why.
- Theorem `slotOffsetsFrom_assemble`: the markers of the bytes are at the offsets of
  the slots.
- Theorem `Template.checks_and_views_agree`: what is accepted, what is refused, and
  what holds of a template that was accepted.
-/

namespace MakeTen

/-! ## Places of the marker -/

/-- The places that are found are those of the marker. -/
theorem mem_slotOffsetsFrom_iff {base offset : Nat} {bytes : List UInt8} :
    offset ∈ slotOffsetsFrom base bytes ↔
      ∃ k, offset = base + k ∧ bytes[k]? = some placeholder := by
  fun_induction slotOffsetsFrom base bytes with
  | case1 base => simp
  | case2 base bytes ih =>
    rw [List.mem_cons, ih]
    constructor
    · rintro (rfl | ⟨k, rfl, hk⟩)
      · exact ⟨0, rfl, rfl⟩
      · exact ⟨k + 1, by omega, hk⟩
    · rintro ⟨k, rfl, hk⟩
      cases k with
      | zero => exact .inl rfl
      | succ k => exact .inr ⟨k, by omega, hk⟩
  | case3 base b bytes hb ih =>
    rw [ih]
    constructor
    · rintro ⟨k, rfl, hk⟩
      exact ⟨k + 1, by omega, hk⟩
    · rintro ⟨k, rfl, hk⟩
      cases k with
      | zero => exact absurd (Option.some.inj hk) hb
      | succ k => exact ⟨k, by omega, hk⟩

/-- The places are found from left to right, and none of them twice. -/
theorem pairwise_slotOffsetsFrom (base : Nat) (bytes : List UInt8) :
    (slotOffsetsFrom base bytes).Pairwise (· < ·) := by
  fun_induction slotOffsetsFrom base bytes with
  | case1 base => exact .nil
  | case2 base bytes ih =>
    refine .cons ?_ ih
    intro offset hoffset
    obtain ⟨k, rfl, _⟩ := mem_slotOffsetsFrom_iff.1 hoffset
    omega
  | case3 base b bytes hb ih => exact ih

/-- In bytes without the marker no place is found, and those behind them are found
further on. -/
theorem slotOffsetsFrom_append_of_not_mem {bytes : List UInt8} (h : placeholder ∉ bytes)
    (base : Nat) (rest : List UInt8) :
    slotOffsetsFrom base (bytes ++ rest) = slotOffsetsFrom (base + bytes.length) rest := by
  induction bytes generalizing base with
  | nil => rfl
  | cons b bytes ih =>
    rw [List.mem_cons, not_or] at h
    rw [List.cons_append, slotOffsetsFrom, if_neg (Ne.symm h.1), ih h.2, List.length_cons,
      Nat.add_comm bytes.length 1, Nat.add_assoc]

/-- The markers of the bytes are at the offsets of the slots. -/
theorem slotOffsetsFrom_assemble {pc : Nat} {is : List Instruction} (h : Contiguous pc is)
    (hhidden : ∀ i ∈ is, placeholder ∉ i.immediate) :
    slotOffsetsFrom pc (assemble is) = (is.filter Instruction.isSlot).map Instruction.pc := by
  induction is generalizing pc with
  | nil => rfl
  | cons i is ih =>
    obtain ⟨hi, rfl, his⟩ := h
    have hrest := ih his fun j hj => hhidden j (List.mem_cons_of_mem i hj)
    cases hslot : i.isSlot with
    | true =>
      -- A slot is its marker and nothing else, so that the next byte starts the next one.
      have hbytes : i.bytes = [placeholder] := by
        rw [hi.eq_bare_of_slot hslot]
        rfl
      have hnext : i.pc + 1 = i.nextPc := by
        rw [Instruction.nextPc, ← Instruction.length_bytes, hbytes]
        rfl
      rw [assemble_cons, hbytes, List.singleton_append, slotOffsetsFrom, if_pos rfl, hnext, hrest,
        List.filter_cons_of_pos hslot, List.map_cons]
    | false =>
      have hbytes := hi.placeholder_not_mem_bytes hslot (hhidden i List.mem_cons_self)
      rw [assemble_cons, slotOffsetsFrom_append_of_not_mem hbytes, Instruction.length_bytes,
        List.filter_cons_of_neg (by simp [hslot])]
      exact hrest

namespace Template

/-- The two views of a playable template agree: markers stand where slots are. -/
theorem Playable.slots_eq {t : Template} (h : t.Playable) :
    t.slots = (t.instructions.filter Instruction.isSlot).map Instruction.pc := by
  obtain ⟨hcontiguous, hcode⟩ := disassemble_eq_ok_iff.1 h.decodes
  rw [slots, slotOffsets, ← hcode, slotOffsetsFrom_assemble hcontiguous h.noneHidden]

/-! ## Checks -/

/-- The checks of a code, each with the fault that it reports; a later check takes
for granted what the earlier ones have found. -/
inductive Refused (code : List UInt8) : PuzzleFault → Prop where
  | undecodable {fault : DecodeFault} (hcode : disassemble code = .error fault) :
      Refused code (.decode fault)
  /-- The code decodes, and this is the first instruction with a marker in its
  data. -/
  | hidden {before after : List Instruction} {i : Instruction}
      (hcode : disassemble code = .ok (before ++ i :: after))
      (hbefore : ∀ j ∈ before, placeholder ∉ j.immediate) (hi : placeholder ∈ i.immediate) :
      Refused code (.placeholderInImmediate i.pc)
  | miscounted {is : List Instruction} (hcode : disassemble code = .ok is)
      (hhidden : ∀ i ∈ is, placeholder ∉ i.immediate)
      (hcount : is.countP Instruction.isSlot ≠ 3) :
      Refused code (.wrongPlaceholderCount 3 (is.countP Instruction.isSlot))

/-- A code is refused exactly for what a check reports. -/
theorem ofCode_eq_error_iff {id : Nat} {code : List UInt8} {fault : PuzzleFault} :
    ofCode id code = .error fault ↔ Refused code fault := by
  constructor
  · intro h
    unfold ofCode at h
    split at h
    · rename_i reason hcode
      obtain rfl : PuzzleFault.decode reason = fault := by simpa using h
      exact .undecodable hcode
    · rename_i is hcode
      split at h
      · rename_i i hfind
        obtain rfl : PuzzleFault.placeholderInImmediate i.pc = fault := by simpa using h
        obtain ⟨hi, before, after, rfl, hbefore⟩ := List.find?_eq_some_iff_append.1 hfind
        exact .hidden hcode (by simpa using hbefore) (by simpa using hi)
      · rename_i hfind
        dsimp only at h
        split at h
        · simp at h
        · rename_i hcount
          obtain rfl : PuzzleFault.wrongPlaceholderCount slotCount _ = fault := by simpa using h
          exact .miscounted hcode (by simpa using hfind) hcount
  · intro h
    cases h with
    | undecodable hcode => simp only [ofCode, hcode]
    | @hidden before after i hcode hbefore hi =>
      have hfind : (before ++ i :: after).find? (·.immediate.contains placeholder) = some i := by
        rw [List.find?_eq_some_iff_append]
        exact ⟨by simpa using hi, before, after, rfl, by simpa using hbefore⟩
      simp only [ofCode, hcode, hfind]
    | @miscounted is hcode hhidden hcount =>
      have hfind : is.find? (·.immediate.contains placeholder) = none := by
        simpa using hhidden
      simp only [ofCode, hcode, hfind]
      exact if_neg hcount

/-! ## Main theorem -/

/-- What is accepted as a template, and what holds of it.

A code is accepted exactly if it decodes, no marker hides in the data of an
instruction, and three of the instructions are slots; it is kept as it is, beside
its instructions.  It is refused exactly for the first check that fails.  The two
views of what is accepted agree: the slots are found from left to right where the
marker stands in the bytes, which is at the offsets of the three instructions that
are slots. -/
theorem checks_and_views_agree (id : Nat) (code : List UInt8) :
    (∀ t, ofCode id code = .ok t ↔
      ∃ is, disassemble code = .ok is ∧ (∀ i ∈ is, placeholder ∉ i.immediate) ∧
        is.countP Instruction.isSlot = 3 ∧ t = ⟨id, code, is⟩) ∧
    (∀ fault, ofCode id code = .error fault ↔ Refused code fault) ∧
    (∀ t, ofCode id code = .ok t →
      t.code = code ∧ disassemble t.code = .ok t.instructions ∧
        (∀ offset, offset ∈ t.slots ↔ t.code[offset]? = some placeholder) ∧
        t.slots = (t.instructions.filter Instruction.isSlot).map Instruction.pc ∧
        t.slots.length = 3 ∧ t.slots.Pairwise (· < ·)) := by
  refine ⟨fun t => ?_, fun fault => ofCode_eq_error_iff, fun t h => ?_⟩
  · rw [ofCode_eq_ok_iff]
    constructor
    · rintro ⟨rfl, rfl, h⟩
      exact ⟨t.instructions, h.decodes, h.noneHidden, h.slotCount_eq, rfl⟩
    · rintro ⟨is, hcode, hhidden, hcount, rfl⟩
      exact ⟨rfl, rfl, hcode, hhidden, hcount⟩
  · obtain ⟨_, rfl, hplayable⟩ := ofCode_eq_ok_iff.1 h
    have hslots := hplayable.slots_eq
    refine ⟨rfl, hplayable.decodes, fun offset => ?_, hslots, ?_, pairwise_slotOffsetsFrom 0 t.code⟩
    · simp [slots, slotOffsets, mem_slotOffsetsFrom_iff]
    · rw [hslots, List.length_map, ← List.countP_eq_length_filter]
      exact hplayable.slotCount_eq

/-- A code with a push between its slots is accepted, and so it has its slots where
the marker stands; one that hides markers in two pushes and has a single slot is
refused for the first of the pushes. -/
theorem checks_of_two_codes :
    ofCode 4 [0xCC, 0x61, 0x60, 0x01, 0xCC, 0xCC] = .ok ⟨4, [0xCC, 0x61, 0x60, 0x01, 0xCC, 0xCC],
        [.bare 0 0xCC, ⟨1, 0x61, .push 2, [0x60, 0x01]⟩, .bare 4 0xCC, .bare 5 0xCC]⟩ ∧
      slotOffsets [0xCC, 0x61, 0x60, 0x01, 0xCC, 0xCC] = [0, 4, 5] ∧
      ofCode 4 [0xCC, 0x60, 0xCC, 0x60, 0xCC] = .error (.placeholderInImmediate 1) := by
  have hcode : ofCode 4 [0xCC, 0x61, 0x60, 0x01, 0xCC, 0xCC] = .ok
      ⟨4, [0xCC, 0x61, 0x60, 0x01, 0xCC, 0xCC],
        [.bare 0 0xCC, ⟨1, 0x61, .push 2, [0x60, 0x01]⟩, .bare 4 0xCC, .bare 5 0xCC]⟩ :=
    ((checks_and_views_agree 4 _).1 _).2
      ⟨_, disassemble_eq_ok_iff.2 (by decide), by decide, rfl, rfl⟩
  obtain ⟨_, _, _, hslots, _⟩ := (checks_and_views_agree 4 _).2.2 _ hcode
  refine ⟨hcode, hslots, ((checks_and_views_agree 4 _).2.1 _).2 ?_⟩
  have hdecodes : disassemble [0xCC, 0x60, 0xCC, 0x60, 0xCC] =
      .ok ([.bare 0 0xCC] ++ ⟨1, 0x60, .push 1, [0xCC]⟩ :: [⟨3, 0x60, .push 1, [0xCC]⟩]) :=
    disassemble_eq_ok_iff.2 (by decide)
  exact .hidden hdecodes (by decide) (by decide)

end Template
end MakeTen
