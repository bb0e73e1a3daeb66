import MakeTen.Proofs.Bytecode.Assembly
import MakeTen.Puzzle.Template
/-!
# Filling slots

Operators are put into the bytes of a code, while a template is accepted for
what its instructions look like.  The two views agree as long as no slot marker
hides in the data of an instruction: then filling the markers of the bytes is
filling the slots of the instructions, and everything else stays where it is.

Main results:

- Function `fillSlots`: a list of instructions with its slots filled.
- Theorem `assemble_fillSlots`: filling the slots of instructions fills the
  markers of their bytes.
- Theorem `contiguous_fillSlots`: the filled instructions still stand side by
  side.
- Theorem `Template.ofCode_eq_ok_iff`: which templates are accepted.
- Theorem `substitute_commutes_with_disassembly`: a filled code decodes to the
  filled instructions, and every solution resolves every accepted template.
-/

namespace MakeTen

/-! ## Filling the markers of a code -/

@[simp]
theorem fill_nil_right (bytes : List UInt8) : fill bytes [] = bytes := by
  induction bytes with
  | nil => rfl
  | cons b bytes ih => rw [fill, ih]

@[simp]
theorem fill_placeholder_cons (rest : List UInt8) (operator : UInt8) (operators : List UInt8) :
    fill (placeholder :: rest) (operator :: operators) = operator :: fill rest operators := by
  rw [fill, if_pos rfl]

/-- Bytes without a marker are passed over. -/
theorem fill_append_of_not_mem {bytes : List UInt8} (h : placeholder ∉ bytes)
    (rest operators : List UInt8) :
    fill (bytes ++ rest) operators = bytes ++ fill rest operators := by
  induction bytes with
  | nil => rfl
  | cons b bytes ih =>
    rw [List.mem_cons, not_or] at h
    cases operators with
    | nil => simp only [fill_nil_right]
    | cons operator operators =>
      rw [List.cons_append, fill, if_neg (Ne.symm h.1), ih h.2, List.cons_append]

@[simp]
theorem length_fill (bytes operators : List UInt8) :
    (fill bytes operators).length = bytes.length := by
  fun_induction fill bytes operators with
  | case1 => rfl
  | case2 b bytes ih => rw [List.length_cons, ih, List.length_cons]
  | case3 bytes operator operators ih => rw [List.length_cons, ih, List.length_cons]
  | case4 b bytes operator operators hb ih => rw [List.length_cons, ih, List.length_cons]

/-! ## Filling the slots of instructions -/

/-- The instruction of an opcode byte without data. -/
def Instruction.bare (pc : Nat) (opcode : UInt8) : Instruction :=
  ⟨pc, opcode, Mnemonic.ofByte opcode, []⟩

/-- The instructions with their slots replaced from left to right; slots beyond
the operators stay. -/
def fillSlots : List Instruction → List UInt8 → List Instruction
  | [], _ => []
  | i :: is, [] => i :: is
  | i :: is, operator :: operators =>
    if i.isSlot then .bare i.pc operator :: fillSlots is operators
    else i :: fillSlots is (operator :: operators)

@[simp]
theorem fillSlots_nil_right (is : List Instruction) : fillSlots is [] = is := by
  cases is <;> rfl

@[simp]
theorem length_fillSlots (is : List Instruction) (operators : List UInt8) :
    (fillSlots is operators).length = is.length := by
  fun_induction fillSlots is operators with
  | case1 => rfl
  | case2 => rfl
  | case3 i is operator operators hi ih => rw [List.length_cons, ih, List.length_cons]
  | case4 i is operator operators hi ih => rw [List.length_cons, ih, List.length_cons]

/-- Instructions that are no slots are passed over, and the first slot receives
the first operator. -/
theorem fillSlots_append_cons {before : List Instruction} {slot : Instruction}
    (hbefore : ∀ i ∈ before, i.isSlot = false) (hslot : slot.isSlot = true)
    (after : List Instruction) (operator : UInt8) (operators : List UInt8) :
    fillSlots (before ++ slot :: after) (operator :: operators) =
      before ++ .bare slot.pc operator :: fillSlots after operators := by
  induction before with
  | nil => rw [List.nil_append, fillSlots, if_pos hslot, List.nil_append]
  | cons i before ih =>
    have hi : ¬ i.isSlot = true := by simp [hbefore i List.mem_cons_self]
    rw [List.cons_append, fillSlots, if_neg hi,
      ih fun j hj => hbefore j (List.mem_cons_of_mem i hj), List.cons_append]

/-- What is no slot stays where it is. -/
theorem getElem?_fillSlots_of_not_slot {is : List Instruction} {k : Nat} {i : Instruction}
    (hk : is[k]? = some i) (hi : i.isSlot = false) (operators : List UInt8) :
    (fillSlots is operators)[k]? = some i := by
  fun_induction fillSlots is operators generalizing k with
  | case1 => exact hk
  | case2 => exact hk
  | case3 first is operator operators hfirst ih =>
    cases k with
    | zero =>
      obtain rfl : first = i := by simpa using hk
      simp [hi] at hfirst
    | succ k => exact ih hk
  | case4 first is operator operators hfirst ih =>
    cases k with
    | zero => exact hk
    | succ k => exact ih hk

/-- A slot receives the operator whose place is the number of slots before it. -/
theorem getElem?_fillSlots_of_slot {is : List Instruction} {k : Nat} {i : Instruction}
    (hk : is[k]? = some i) (hi : i.isSlot = true) {operators : List UInt8} {operator : UInt8}
    (hoperator : operators[(is.take k).countP Instruction.isSlot]? = some operator) :
    (fillSlots is operators)[k]? = some (.bare i.pc operator) := by
  fun_induction fillSlots is operators generalizing k with
  | case1 => simp at hk
  | case2 => simp at hoperator
  | case3 first is next operators hfirst ih =>
    cases k with
    | zero =>
      obtain rfl : first = i := by simpa using hk
      obtain rfl : next = operator := by simpa using hoperator
      rfl
    | succ k => exact ih hk (by simpa [hfirst] using hoperator)
  | case4 first is next operators hfirst ih =>
    cases k with
    | zero =>
      obtain rfl : first = i := by simpa using hk
      exact absurd hi hfirst
    | succ k => exact ih hk (by simpa [hfirst] using hoperator)

/-- There are more slots in a list than before one of them. -/
theorem countP_take_lt_of_slot {is : List Instruction} {k : Nat} {i : Instruction}
    (hk : is[k]? = some i) (hi : i.isSlot = true) :
    (is.take k).countP Instruction.isSlot < is.countP Instruction.isSlot := by
  conv_rhs => rw [eq_take_append_cons_drop hk]
  rw [List.countP_append, List.countP_cons_of_pos hi]
  omega

/-- A list in which `n + 1` elements satisfy `p` falls into those before the first of
them, which do not, that element, and the rest, in which `n` do. -/
theorem exists_split_of_countP {α : Type} {p : α → Bool} {xs : List α} {n : Nat}
    (h : xs.countP p = n + 1) :
    ∃ before x after, xs = before ++ x :: after ∧ (∀ y ∈ before, p y = false) ∧ p x = true ∧
      after.countP p = n := by
  have hpos : 0 < xs.countP p := by omega
  obtain ⟨y, hy, hp⟩ := List.countP_pos_iff.1 hpos
  obtain ⟨x, hfind⟩ := Option.isSome_iff_exists.1 (List.find?_isSome.2 ⟨y, hy, hp⟩)
  obtain ⟨hx, before, after, rfl, hbefore⟩ := List.find?_eq_some_iff_append.1 hfind
  have hnone : ∀ y ∈ before, p y = false := by simpa using hbefore
  refine ⟨before, x, after, rfl, hnone, hx, ?_⟩
  have hcount : before.countP p = 0 := by
    rw [List.countP_eq_zero]
    intro y hy
    simp [hnone y hy]
  rw [List.countP_append, hcount, List.countP_cons_of_pos hx] at h
  omega

/-! ## The two views -/

namespace Instruction

/-- A well-formed slot is the slot marker and nothing else. -/
theorem WellFormed.eq_bare_of_slot {i : Instruction} (h : i.WellFormed) (hi : i.isSlot = true) :
    i = .bare i.pc placeholder := by
  obtain ⟨pc, opcode, mnemonic, immediate⟩ := i
  obtain ⟨hname, hdata⟩ := h
  obtain rfl : mnemonic = .insert := by simpa [isSlot] using hi
  obtain rfl : opcode = placeholder := (Mnemonic.ofByte_eq_insert_iff opcode).1 hname.symm
  rw [Mnemonic.immediateLength_ofByte_placeholder] at hdata
  obtain rfl : immediate = [] := List.length_eq_zero_iff.1 hdata
  rw [bare, ← hname]

/-- Outside the slots a marker can only hide in data. -/
theorem WellFormed.placeholder_not_mem_bytes {i : Instruction} (h : i.WellFormed)
    (hi : i.isSlot = false) (hhidden : placeholder ∉ i.immediate) : placeholder ∉ i.bytes := by
  have hopcode : i.opcode ≠ placeholder := by
    intro hopcode
    have hname := h.1
    rw [hopcode] at hname
    rw [isSlot, hname] at hi
    exact absurd hi (by decide)
  rw [bytes, List.mem_cons, not_or]
  exact ⟨Ne.symm hopcode, hhidden⟩

/-- An opcode byte that asks for no data makes a well-formed instruction. -/
theorem wellFormed_bare {pc : Nat} {opcode : UInt8}
    (h : (Mnemonic.ofByte opcode).immediateLength = 0) : (bare pc opcode).WellFormed :=
  ⟨rfl, h.symm⟩

end Instruction

/-- The markers of the bytes are the slots of the instructions. -/
theorem count_assemble {is : List Instruction} (hformed : ∀ i ∈ is, i.WellFormed)
    (hhidden : ∀ i ∈ is, placeholder ∉ i.immediate) :
    (assemble is).count placeholder = is.countP Instruction.isSlot := by
  induction is with
  | nil => rfl
  | cons i is ih =>
    have hrest := ih (fun j hj => hformed j (List.mem_cons_of_mem i hj))
      fun j hj => hhidden j (List.mem_cons_of_mem i hj)
    have hi := hformed i List.mem_cons_self
    rw [assemble_cons, List.count_append, hrest, List.countP_cons]
    cases hslot : i.isSlot with
    | true =>
      rw [hi.eq_bare_of_slot hslot]
      simp [Instruction.bare, Instruction.bytes, Nat.add_comm]
    | false =>
      have hbytes := hi.placeholder_not_mem_bytes hslot (hhidden i List.mem_cons_self)
      simp [List.count_eq_zero.2 hbytes]

/-- Filling the slots of instructions fills the markers of their bytes. -/
theorem assemble_fillSlots {is : List Instruction} (hformed : ∀ i ∈ is, i.WellFormed)
    (hhidden : ∀ i ∈ is, placeholder ∉ i.immediate) (operators : List UInt8) :
    assemble (fillSlots is operators) = fill (assemble is) operators := by
  fun_induction fillSlots is operators with
  | case1 operators => rfl
  | case2 i is => rw [fill_nil_right]
  | case3 i is operator operators hi ih =>
    have hrest := ih (fun j hj => hformed j (List.mem_cons_of_mem i hj))
      fun j hj => hhidden j (List.mem_cons_of_mem i hj)
    have hbytes : i.bytes = [placeholder] := by
      rw [(hformed i List.mem_cons_self).eq_bare_of_slot hi]
      rfl
    rw [assemble_cons, hrest, assemble_cons, hbytes, List.singleton_append,
      fill_placeholder_cons]
    rfl
  | case4 i is operator operators hi ih =>
    have hrest := ih (fun j hj => hformed j (List.mem_cons_of_mem i hj))
      fun j hj => hhidden j (List.mem_cons_of_mem i hj)
    have hbytes := (hformed i List.mem_cons_self).placeholder_not_mem_bytes
      (Bool.eq_false_iff.2 hi) (hhidden i List.mem_cons_self)
    rw [assemble_cons, hrest, assemble_cons, fill_append_of_not_mem hbytes]

/-- Filled instructions stand side by side as the old ones did. -/
theorem contiguous_fillSlots {pc : Nat} {is : List Instruction} {operators : List UInt8}
    (h : Contiguous pc is)
    (hoperators : ∀ operator ∈ operators, (Mnemonic.ofByte operator).immediateLength = 0) :
    Contiguous pc (fillSlots is operators) := by
  fun_induction fillSlots is operators generalizing pc with
  | case1 operators => trivial
  | case2 i is => exact h
  | case3 i is operator operators hi ih =>
    obtain ⟨hformed, rfl, his⟩ := h
    have hnext : i.nextPc = (Instruction.bare i.pc operator).nextPc := by
      conv_lhs => rw [hformed.eq_bare_of_slot hi]
      rfl
    rw [hnext] at his
    refine ⟨Instruction.wellFormed_bare (hoperators operator List.mem_cons_self), rfl, ?_⟩
    exact ih his fun o ho => hoperators o (List.mem_cons_of_mem operator ho)
  | case4 i is operator operators hi ih =>
    obtain ⟨hformed, hpc, his⟩ := h
    exact ⟨hformed, hpc, ih his hoperators⟩

/-- No marker hides in data after filling if none did before. -/
theorem noneHidden_fillSlots {is : List Instruction}
    (hhidden : ∀ i ∈ is, placeholder ∉ i.immediate) (operators : List UInt8) :
    ∀ i ∈ fillSlots is operators, placeholder ∉ i.immediate := by
  fun_induction fillSlots is operators with
  | case1 operators => exact hhidden
  | case2 i is => exact hhidden
  | case3 i is operator operators hi ih =>
    rw [List.forall_mem_cons] at hhidden ⊢
    exact ⟨List.not_mem_nil, ih hhidden.2⟩
  | case4 i is operator operators hi ih =>
    rw [List.forall_mem_cons] at hhidden ⊢
    exact ⟨hhidden.1, ih hhidden.2⟩

/-- A code without hidden markers that is filled with bare operators decodes to
its filled instructions. -/
theorem disassemble_fill {code operators : List UInt8} {is : List Instruction}
    (hcode : disassemble code = .ok is) (hhidden : ∀ i ∈ is, placeholder ∉ i.immediate)
    (hoperators : ∀ operator ∈ operators, (Mnemonic.ofByte operator).immediateLength = 0) :
    disassemble (fill code operators) = .ok (fillSlots is operators) := by
  obtain ⟨hcontiguous, rfl⟩ := disassemble_eq_ok_iff.1 hcode
  rw [disassemble_eq_ok_iff]
  exact ⟨contiguous_fillSlots hcontiguous hoperators,
    assemble_fillSlots hcontiguous.wellFormed hhidden operators⟩

/-! ## Templates and solutions -/

namespace Solution

/-- The operators of a solution ask for no data. -/
theorem immediateLength_of_mem_bytes {s : Solution} :
    ∀ operator ∈ s.bytes, (Mnemonic.ofByte operator).immediateLength = 0 := by
  intro operator hoperator
  obtain ⟨o, _, rfl⟩ := List.mem_map.1 hoperator
  exact o.immediateLength_mnemonic

end Solution

/-- The instruction of an operator is no slot. -/
theorem Operator.isSlot_bare (pc : Nat) (o : Operator) :
    (Instruction.bare pc o.byte).isSlot = false := by
  cases o <;> rfl

namespace Template

/-- What a template has to be like: its instructions are those of its code, no
marker hides in data, and there are as many slots as every puzzle has. -/
structure Playable (t : Template) : Prop where
  decodes : disassemble t.code = .ok t.instructions
  noneHidden : ∀ i ∈ t.instructions, placeholder ∉ i.immediate
  slotCount_eq : t.instructions.countP Instruction.isSlot = slotCount

/-- Exactly the playable templates are accepted. -/
theorem ofCode_eq_ok_iff {id : Nat} {code : List UInt8} {t : Template} :
    ofCode id code = .ok t ↔ t.id = id ∧ t.code = code ∧ t.Playable := by
  constructor
  · intro h
    unfold ofCode at h
    split at h
    · simp at h
    · rename_i instructions hcode
      split at h
      · simp at h
      · rename_i hfind
        simp only at h
        split at h
        · rename_i hcount
          obtain rfl : ⟨id, code, instructions⟩ = t := by simpa using h
          exact ⟨rfl, rfl, hcode, by simpa using hfind, hcount⟩
        · simp at h
  · rintro ⟨rfl, rfl, hcode, hhidden, hcount⟩
    have hfind : t.instructions.find? (·.immediate.contains placeholder) = none := by
      simpa using hhidden
    simp only [ofCode, hcode, hfind, hcount, if_true]

/-- The markers of a playable template are its slots. -/
theorem Playable.count_placeholder {t : Template} (h : t.Playable) :
    t.code.count placeholder = slotCount := by
  obtain ⟨hcontiguous, hcode⟩ := disassemble_eq_ok_iff.1 h.decodes
  rw [← hcode, count_assemble hcontiguous.wellFormed h.noneHidden, h.slotCount_eq]

/-- Every solution resolves a playable template. -/
theorem Playable.resolve_eq {t : Template} (h : t.Playable) (s : Solution) :
    t.resolve s = .ok (fill t.code s.bytes) := by
  rw [resolve, substitute, if_pos]
  rw [h.count_placeholder, Solution.length_bytes]

/-- A playable template has three slots, each of them the slot marker alone. -/
theorem Playable.exists_slots {t : Template} (h : t.Playable) :
    ∃ a b c d p q r, (∀ i ∈ a ++ b ++ c ++ d, i.isSlot = false) ∧
      t.instructions = a ++ .bare p placeholder :: (b ++ .bare q placeholder ::
        (c ++ .bare r placeholder :: d)) := by
  have hformed := (disassemble_eq_ok_iff.1 h.decodes).1.wellFormed
  obtain ⟨a, slot₁, rest₁, hsplit₁, ha, hslot₁, hcount₁⟩ := exists_split_of_countP h.slotCount_eq
  obtain ⟨b, slot₂, rest₂, rfl, hb, hslot₂, hcount₂⟩ := exists_split_of_countP hcount₁
  obtain ⟨c, slot₃, d, rfl, hc, hslot₃, hcount₃⟩ := exists_split_of_countP hcount₂
  have hd : ∀ i ∈ d, i.isSlot = false := by simpa using hcount₃
  refine ⟨a, b, c, d, slot₁.pc, slot₂.pc, slot₃.pc, ?_, ?_⟩
  · simp only [List.forall_mem_append]
    exact ⟨⟨⟨ha, hb⟩, hc⟩, hd⟩
  · rw [hsplit₁] at hformed ⊢
    rw [← (hformed slot₁ (by simp)).eq_bare_of_slot hslot₁,
      ← (hformed slot₂ (by simp)).eq_bare_of_slot hslot₂,
      ← (hformed slot₃ (by simp)).eq_bare_of_slot hslot₃]

/-- A resolved template has the operators of the solution in its three slots, in
their order, and is otherwise unchanged. -/
theorem Playable.exists_fillSlots_eq {t : Template} (h : t.Playable) (s : Solution) :
    ∃ a b c d p q r, (∀ i ∈ a ++ b ++ c ++ d, i.isSlot = false) ∧
      t.instructions = a ++ .bare p placeholder :: (b ++ .bare q placeholder ::
        (c ++ .bare r placeholder :: d)) ∧
      fillSlots t.instructions s.bytes = a ++ .bare p s.first.byte ::
        (b ++ .bare q s.second.byte :: (c ++ .bare r s.third.byte :: d)) := by
  obtain ⟨a, b, c, d, p, q, r, hrest, hinstructions⟩ := h.exists_slots
  refine ⟨a, b, c, d, p, q, r, hrest, hinstructions, ?_⟩
  simp only [List.forall_mem_append] at hrest
  obtain ⟨⟨⟨ha, hb⟩, hc⟩, _⟩ := hrest
  have hslot : ∀ pc, (Instruction.bare pc placeholder).isSlot = true := fun _ => rfl
  have hbytes : s.bytes = [s.first.byte, s.second.byte, s.third.byte] := rfl
  rw [hinstructions, hbytes, fillSlots_append_cons ha (hslot p),
    fillSlots_append_cons hb (hslot q), fillSlots_append_cons hc (hslot r), fillSlots_nil_right]
  rfl

/-- The code of a resolved template decodes to its filled instructions. -/
theorem Playable.disassemble_resolved {t : Template} (h : t.Playable) (s : Solution) :
    disassemble (fill t.code s.bytes) = .ok (fillSlots t.instructions s.bytes) :=
  disassemble_fill h.decodes h.noneHidden s.immediateLength_of_mem_bytes

/-- A resolved template shows no slot. -/
theorem Playable.isSlot_of_mem_fillSlots {t : Template} (h : t.Playable) (s : Solution) :
    ∀ i ∈ fillSlots t.instructions s.bytes, i.isSlot = false := by
  obtain ⟨a, b, c, d, p, q, r, hrest, _, hfilled⟩ := h.exists_fillSlots_eq s
  simp only [List.forall_mem_append] at hrest
  obtain ⟨⟨⟨ha, hb⟩, hc⟩, hd⟩ := hrest
  rw [hfilled]
  simp only [List.forall_mem_append, List.forall_mem_cons]
  exact ⟨ha, s.first.isSlot_bare p, hb, s.second.isSlot_bare q, hc, s.third.isSlot_bare r, hd⟩

/-- The code of a resolved template holds no marker. -/
theorem Playable.placeholder_not_mem_resolved {t : Template} (h : t.Playable) (s : Solution) :
    placeholder ∉ fill t.code s.bytes := by
  obtain ⟨hcontiguous, hbytes⟩ := disassemble_eq_ok_iff.1 (h.disassemble_resolved s)
  have hcount := count_assemble hcontiguous.wellFormed (noneHidden_fillSlots h.noneHidden s.bytes)
  rw [hbytes, List.countP_eq_zero.2] at hcount
  · exact List.count_eq_zero.1 hcount
  · intro i hi
    rw [h.isSlot_of_mem_fillSlots s i hi]
    exact Bool.false_ne_true

end Template

/-! ## Main theorem -/

/-- Filling a code and decoding it commute.

A code that decodes, with no marker in the data of an instruction, filled with
one bare opcode for each marker, decodes again: the slots have become, from left
to right, the instructions of the opcodes at the same offsets, and every other
instruction is the same.  So every solution resolves every accepted template:
the code keeps its length, has no marker and no slot left, and differs in its
three slots only, which hold the operators in the order of the solution. -/
theorem substitute_commutes_with_disassembly :
    (∀ (code operators : List UInt8) (is : List Instruction), disassemble code = .ok is →
      (∀ i ∈ is, placeholder ∉ i.immediate) →
      (∀ operator ∈ operators, (Mnemonic.ofByte operator).immediateLength = 0) →
      operators.length = code.count placeholder →
      ∃ filled js, substitute code operators = .ok filled ∧ disassemble filled = .ok js ∧
        js.length = is.length ∧
        ∀ (k : Nat) (i : Instruction), is[k]? = some i →
          (i.isSlot = false → js[k]? = some i) ∧
          (i.isSlot = true →
            ∃ operator, operators[(is.take k).countP Instruction.isSlot]? = some operator ∧
              js[k]? = some ⟨i.pc, operator, Mnemonic.ofByte operator, []⟩)) ∧
    (∀ (id : Nat) (code : List UInt8) (t : Template) (s : Solution),
      Template.ofCode id code = .ok t →
      ∃ filled js, t.resolve s = .ok filled ∧ filled.length = t.code.length ∧
        placeholder ∉ filled ∧ disassemble filled = .ok js ∧ (∀ j ∈ js, j.isSlot = false) ∧
        ∃ a b c d p q r, (∀ i ∈ a ++ b ++ c ++ d, i.isSlot = false) ∧
          t.instructions = a ++ ⟨p, placeholder, .insert, []⟩ ::
            (b ++ ⟨q, placeholder, .insert, []⟩ :: (c ++ ⟨r, placeholder, .insert, []⟩ :: d)) ∧
          js = a ++ ⟨p, s.first.byte, s.first.mnemonic, []⟩ ::
            (b ++ ⟨q, s.second.byte, s.second.mnemonic, []⟩ ::
              (c ++ ⟨r, s.third.byte, s.third.mnemonic, []⟩ :: d))) := by
  constructor
  · intro code operators is hcode hhidden hoperators hlength
    obtain ⟨hcontiguous, hbytes⟩ := disassemble_eq_ok_iff.1 hcode
    have hcount : is.countP Instruction.isSlot = operators.length := by
      rw [← count_assemble hcontiguous.wellFormed hhidden, hbytes, hlength]
    refine ⟨fill code operators, fillSlots is operators, ?_,
      disassemble_fill hcode hhidden hoperators, length_fillSlots is operators, ?_⟩
    · rw [substitute, if_pos hlength.symm]
    · intro k i hk
      refine ⟨fun hi => getElem?_fillSlots_of_not_slot hk hi operators, fun hi => ?_⟩
      have hlt := countP_take_lt_of_slot hk hi
      rw [hcount] at hlt
      have hoperator := List.getElem?_eq_getElem hlt
      exact ⟨_, hoperator, getElem?_fillSlots_of_slot hk hi hoperator⟩
  · intro id code t s hcode
    obtain ⟨_, _, h⟩ := Template.ofCode_eq_ok_iff.1 hcode
    obtain ⟨a, b, c, d, p, q, r, hrest, hinstructions, hfilled⟩ := h.exists_fillSlots_eq s
    exact ⟨fill t.code s.bytes, fillSlots t.instructions s.bytes, h.resolve_eq s,
      length_fill t.code s.bytes, h.placeholder_not_mem_resolved s, h.disassemble_resolved s,
      h.isSlot_of_mem_fillSlots s, a, b, c, d, p, q, r, hrest, hinstructions, hfilled⟩

/-- A code with a look-alike in its data takes an operator and a new marker, and
a template is resolved. -/
theorem filled_sample_decodes :
    (∃ filled js, substitute [0x61, 0x60, 0x01, 0xCC, 0x5B, 0xCC] [0x02, 0xCC] = .ok filled ∧
      disassemble filled = .ok js ∧ js[0]? = some ⟨0, 0x61, .push 2, [0x60, 0x01]⟩ ∧
      js[1]? = some ⟨3, 0x02, .mul, []⟩ ∧ js[3]? = some ⟨5, 0xCC, .insert, []⟩) ∧
    ∃ t filled js, Template.ofCode 7 [0xCC, 0x60, 0x01, 0xCC, 0xCC] = .ok t ∧
      t.resolve ⟨.div, .sub, .add⟩ = .ok filled ∧ placeholder ∉ filled ∧
      disassemble filled = .ok js ∧ ∀ j ∈ js, j.isSlot = false := by
  constructor
  · have hcode : disassemble [0x61, 0x60, 0x01, 0xCC, 0x5B, 0xCC] = .ok
        [⟨0, 0x61, .push 2, [0x60, 0x01]⟩, .bare 3 0xCC, .bare 4 0x5B, .bare 5 0xCC] :=
      disassemble_eq_ok_iff.2 (by decide)
    have hbare : ∀ operator ∈ ([0x02, 0xCC] : List UInt8),
        (Mnemonic.ofByte operator).immediateLength = 0 := by
      rw [List.forall_mem_cons, List.forall_mem_singleton]
      exact ⟨rfl, rfl⟩
    obtain ⟨filled, js, hfilled, hjs, _, hplaces⟩ :=
      substitute_commutes_with_disassembly.1 _ [0x02, 0xCC] _ hcode (by decide) hbare rfl
    obtain ⟨_, ⟨⟩, hfirst⟩ := (hplaces 1 _ rfl).2 rfl
    obtain ⟨_, ⟨⟩, hsecond⟩ := (hplaces 3 _ rfl).2 rfl
    exact ⟨filled, js, hfilled, hjs, (hplaces 0 _ rfl).1 rfl, hfirst, hsecond⟩
  · let t : Template := ⟨7, [0xCC, 0x60, 0x01, 0xCC, 0xCC],
      [.bare 0 0xCC, ⟨1, 0x60, .push 1, [0x01]⟩, .bare 3 0xCC, .bare 4 0xCC]⟩
    have ht : Template.ofCode 7 [0xCC, 0x60, 0x01, 0xCC, 0xCC] = .ok t :=
      Template.ofCode_eq_ok_iff.2 ⟨rfl, rfl, disassemble_eq_ok_iff.2 (by decide), by decide, rfl⟩
    obtain ⟨filled, js, hresolve, _, hmarker, hjs, hslot, _⟩ :=
      substitute_commutes_with_disassembly.2 7 _ t ⟨.div, .sub, .add⟩ ht
    exact ⟨t, filled, js, ht, hresolve, hmarker, hjs, hslot⟩

end MakeTen
