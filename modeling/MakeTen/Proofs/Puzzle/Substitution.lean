import MakeTen.Proofs.Puzzle.Acceptance
/-!
# Substitution in any code

Markers are filled by their order alone: whether the code decodes, what the operators
mean, and whether one of them is the marker again plays no part.  All that matters is
that there is one operator for each marker, and a code and its operators that fit in
this sense are built up byte by byte.  So what a fill does is shown along that build:
it puts the operators where the markers were, in their order, and changes nothing else.

Main results:

- Relation `Fits` and theorem `fits_iff`: one operator for each marker.
- Theorem `Fits.fill_append`: filling a code in two parts.
- Theorem `Fits.map_getElem?_fill`: the operators are read back at the slots.
- Theorem `Fits.slotOffsets_fill`: the slots that are left.
- Theorem `substitution_is_ordered_and_lossless`: what substitution does to any code.
-/

namespace MakeTen

/-! ## Operators that fit a code -/

/-- There is one operator for each marker of the code. -/
inductive Fits : List UInt8 → List UInt8 → Prop where
  | nil : Fits [] []
  | slot {code operators : List UInt8} (operator : UInt8) (h : Fits code operators) :
      Fits (placeholder :: code) (operator :: operators)
  | other {b : UInt8} {code operators : List UInt8} (hb : b ≠ placeholder)
      (h : Fits code operators) : Fits (b :: code) operators

/-- Operators fit if there are as many of them as markers. -/
theorem fits_iff {code operators : List UInt8} :
    Fits code operators ↔ code.count placeholder = operators.length := by
  constructor
  · intro h
    induction h with
    | nil => rfl
    | slot operator h ih => rw [List.count_cons_self, List.length_cons, ih]
    | other hb h ih => rw [List.count_cons_of_ne hb, ih]
  · intro h
    induction code generalizing operators with
    | nil =>
      obtain rfl := List.length_eq_zero_iff.1 h.symm
      exact .nil
    | cons b code ih =>
      by_cases hb : b = placeholder
      · subst hb
        rw [List.count_cons_self] at h
        cases operators with
        | nil => cases h
        | cons operator operators => exact .slot operator (ih (Nat.succ.inj h))
      · rw [List.count_cons_of_ne hb] at h
        exact .other hb (ih h)

/-- A substitution succeeds if the operators fit, and gives the filled code. -/
theorem substitute_eq_ok_iff {code operators filled : List UInt8} :
    substitute code operators = .ok filled ↔
      Fits code operators ∧ filled = fill code operators := by
  rw [substitute, fits_iff]
  split
  · rename_i hcount
    simp [hcount, eq_comm]
  · rename_i hcount
    simp [hcount]

/-! ## Slots and fills, byte by byte -/

/-- The slots of bytes that start one byte further on. -/
theorem slotOffsetsFrom_succ (base : Nat) (bytes : List UInt8) :
    slotOffsetsFrom (base + 1) bytes = (slotOffsetsFrom base bytes).map (· + 1) := by
  fun_induction slotOffsetsFrom base bytes with
  | case1 base => rfl
  | case2 base bytes ih => rw [slotOffsetsFrom, if_pos rfl, ih, List.map_cons]
  | case3 base b bytes hb ih => rw [slotOffsetsFrom, if_neg hb, ih]

theorem slotOffsets_placeholder_cons (code : List UInt8) :
    slotOffsets (placeholder :: code) = 0 :: (slotOffsets code).map (· + 1) := by
  rw [slotOffsets, slotOffsetsFrom, if_pos rfl, slotOffsetsFrom_succ, slotOffsets]

theorem slotOffsets_cons_of_ne {b : UInt8} (hb : b ≠ placeholder) (code : List UInt8) :
    slotOffsets (b :: code) = (slotOffsets code).map (· + 1) := by
  rw [slotOffsets, slotOffsetsFrom, if_neg hb, slotOffsetsFrom_succ, slotOffsets]

/-- The slots of a code are where its marker stands. -/
theorem mem_slotOffsets_iff {code : List UInt8} {offset : Nat} :
    offset ∈ slotOffsets code ↔ code[offset]? = some placeholder := by
  simp [slotOffsets, mem_slotOffsetsFrom_iff]

theorem fill_cons_of_ne {b : UInt8} (hb : b ≠ placeholder) (code operators : List UInt8) :
    fill (b :: code) operators = b :: fill code operators := by
  have hnone : placeholder ∉ [b] := by simpa using hb.symm
  exact fill_append_of_not_mem hnone code operators

/-- The slots, out of these, whose operator is the marker again. -/
def slotsLeft (offsets : List Nat) (operators : List UInt8) : List Nat :=
  ((offsets.zip operators).filter fun p => p.2 = placeholder).map Prod.fst

/-- Which slots are left does not depend on where they are. -/
theorem slotsLeft_map_succ (offsets : List Nat) (operators : List UInt8) :
    slotsLeft (offsets.map (· + 1)) operators = (slotsLeft offsets operators).map (· + 1) := by
  simp [slotsLeft, List.zip_map_left, List.filter_map, Function.comp_def]

/-! ## What a fill does -/

namespace Fits

/-- Where a code with its operators ends, filling starts anew. -/
theorem fill_append {code operators : List UInt8} (h : Fits code operators)
    (back others : List UInt8) :
    fill (code ++ back) (operators ++ others) = fill code operators ++ fill back others := by
  induction h with
  | nil => rfl
  | slot operator h ih =>
    rw [List.cons_append, List.cons_append, fill_placeholder_cons, ih, fill_placeholder_cons,
      List.cons_append]
  | other hb h ih =>
    rw [List.cons_append, fill_cons_of_ne hb, ih, fill_cons_of_ne hb, List.cons_append]

/-- Outside the slots nothing changes. -/
theorem getElem?_fill {code operators : List UInt8} (h : Fits code operators) {offset : Nat}
    (hoffset : offset ∉ slotOffsets code) :
    (fill code operators)[offset]? = code[offset]? := by
  rw [mem_slotOffsets_iff] at hoffset
  induction h generalizing offset with
  | nil => rfl
  | slot operator h ih =>
    rw [fill_placeholder_cons]
    cases offset with
    | zero => exact absurd rfl hoffset
    | succ offset => exact ih hoffset
  | other hb h ih =>
    rw [fill_cons_of_ne hb]
    cases offset with
    | zero => rfl
    | succ offset => exact ih hoffset

/-- At the slots, from left to right, the operators are read back. -/
theorem map_getElem?_fill {code operators : List UInt8} (h : Fits code operators) :
    (slotOffsets code).map (fun offset => (fill code operators)[offset]?) =
      operators.map some := by
  induction h with
  | nil => rfl
  | slot operator h ih =>
    rw [slotOffsets_placeholder_cons, fill_placeholder_cons, List.map_cons, List.map_map,
      List.map_cons, ← ih]
    rfl
  | other hb h ih =>
    rw [slotOffsets_cons_of_ne hb, fill_cons_of_ne hb, List.map_map, ← ih]
    rfl

/-- The slots of the filled code are those whose operator is the marker again. -/
theorem slotOffsets_fill {code operators : List UInt8} (h : Fits code operators) :
    slotOffsets (fill code operators) = slotsLeft (slotOffsets code) operators := by
  induction h with
  | nil => rfl
  | @slot code operators operator h ih =>
    rw [fill_placeholder_cons, slotOffsets_placeholder_cons code]
    -- An operator that is the marker leaves its slot open, any other one closes it.
    by_cases hoperator : operator = placeholder
    · have hhead : slotsLeft (0 :: (slotOffsets code).map (· + 1)) (operator :: operators) =
          0 :: slotsLeft ((slotOffsets code).map (· + 1)) operators := by
        simp [slotsLeft, hoperator]
      rw [hhead, slotsLeft_map_succ, ← ih, hoperator, slotOffsets_placeholder_cons]
    · have hhead : slotsLeft (0 :: (slotOffsets code).map (· + 1)) (operator :: operators) =
          slotsLeft ((slotOffsets code).map (· + 1)) operators := by
        simp [slotsLeft, hoperator]
      rw [hhead, slotsLeft_map_succ, ← ih, slotOffsets_cons_of_ne hoperator]
  | other hb h ih =>
    rw [fill_cons_of_ne hb, slotOffsets_cons_of_ne hb, slotOffsets_cons_of_ne hb,
      slotsLeft_map_succ, ih]

/-- The operators can be told from the filled code. -/
theorem eq_of_fill_eq {code operators others : List UInt8} (h : Fits code operators)
    (h' : Fits code others) (hfill : fill code operators = fill code others) :
    operators = others := by
  have hread : operators.map some = others.map some := by
    rw [← h.map_getElem?_fill, ← h'.map_getElem?_fill, hfill]
  exact List.map_injective_iff.2 (fun _ _ => Option.some.inj) hread

end Fits

/-! ## Main theorem -/

/-- Substitution is an ordered fill that loses nothing, for any code and operators.

It succeeds exactly if there are as many operators as markers, and otherwise reports the
two numbers.  What it gives has the length of the code and its bytes outside the slots;
at the slots, from left to right, stand the operators, which can therefore be told from
it; and the slots that it has itself are those whose operator is the marker again.
Filling codes that are put together puts the filled codes together.  Operators in
another order fill the code as well, with a difference at the slots only, and with one
at all exactly if the order differs. -/
theorem substitution_is_ordered_and_lossless (code operators : List UInt8) :
    ((∃ filled, substitute code operators = .ok filled) ↔
      operators.length = code.count placeholder) ∧
    (operators.length ≠ code.count placeholder →
      substitute code operators =
        .error (.placeholderCountMismatch (code.count placeholder) operators.length)) ∧
    (∀ filled, substitute code operators = .ok filled →
      filled.length = code.length ∧
      (∀ offset, offset ∉ slotOffsets code → filled[offset]? = code[offset]?) ∧
      (slotOffsets code).map (fun offset => filled[offset]?) = operators.map some ∧
      slotOffsets filled = slotsLeft (slotOffsets code) operators ∧
      (∀ others, substitute code others = .ok filled → others = operators) ∧
      (∀ back others filledBack, substitute back others = .ok filledBack →
        substitute (code ++ back) (operators ++ others) = .ok (filled ++ filledBack)) ∧
      (∀ others : List UInt8, others.Perm operators →
        ∃ filled', substitute code others = .ok filled' ∧
          (∀ offset, offset ∉ slotOffsets code → filled'[offset]? = filled[offset]?) ∧
          (filled' = filled ↔ others = operators))) := by
  refine ⟨?_, ?_, ?_⟩
  · simp only [substitute_eq_ok_iff, exists_and_left, exists_eq, and_true, fits_iff]
    exact eq_comm
  · intro hlength
    rw [substitute, if_neg hlength.symm]
  · intro filled hfilled
    obtain ⟨h, rfl⟩ := substitute_eq_ok_iff.1 hfilled
    refine ⟨length_fill code operators, fun offset => h.getElem?_fill, h.map_getElem?_fill,
      h.slotOffsets_fill, ?_, ?_, ?_⟩
    · intro others hothers
      obtain ⟨h', hsame⟩ := substitute_eq_ok_iff.1 hothers
      exact h'.eq_of_fill_eq h hsame.symm
    · intro back others filledBack hback
      obtain ⟨h', rfl⟩ := substitute_eq_ok_iff.1 hback
      refine substitute_eq_ok_iff.2 ⟨?_, (h.fill_append back others).symm⟩
      rw [fits_iff, List.count_append, List.length_append, fits_iff.1 h, fits_iff.1 h']
    · intro others hperm
      have h' : Fits code others := by
        rw [fits_iff, hperm.length_eq]
        exact fits_iff.1 h
      refine ⟨fill code others, substitute_eq_ok_iff.2 ⟨h', rfl⟩, ?_, ?_⟩
      · intro offset hoffset
        rw [h'.getElem?_fill hoffset, h.getElem?_fill hoffset]
      · exact ⟨h'.eq_of_fill_eq h, fun hsame => hsame ▸ rfl⟩

/-- A code that does not decode, with a marker in the data of a push, takes the marker
and a push for operators, and takes them in the other order for another code. -/
theorem substitution_of_marker_and_push :
    substitute [0x60, 0xCC, 0xCC, 0x61] [0xCC, 0x7F] = .ok [0x60, 0xCC, 0x7F, 0x61] ∧
      slotOffsets [0x60, 0xCC, 0x7F, 0x61] = [1] ∧
      substitute ([0x60, 0xCC, 0xCC, 0x61] ++ [0xCC]) ([0xCC, 0x7F] ++ [0x60]) =
        .ok ([0x60, 0xCC, 0x7F, 0x61] ++ [0x60]) ∧
      (∃ filled, substitute [0x60, 0xCC, 0xCC, 0x61] [0x7F, 0xCC] = .ok filled ∧
        filled[3]? = some 0x61 ∧ filled ≠ [0x60, 0xCC, 0x7F, 0x61]) ∧
      substitute [0x60, 0xCC, 0xCC, 0x61] [0x01] = .error (.placeholderCountMismatch 2 1) := by
  have hfilled : substitute [0x60, 0xCC, 0xCC, 0x61] [0xCC, 0x7F] =
      .ok [0x60, 0xCC, 0x7F, 0x61] := by decide
  have hback : substitute [0xCC] [0x60] = .ok [0x60] := by decide
  obtain ⟨_, _, _, hslots, _, happend, hperm⟩ :=
    (substitution_is_ordered_and_lossless _ _).2.2 _ hfilled
  obtain ⟨filled, hother, houtside, hsame⟩ := hperm [0x7F, 0xCC] (.swap _ _ _)
  refine ⟨hfilled, hslots, happend _ _ _ hback, ⟨filled, hother, houtside 3 (by decide), ?_⟩,
    (substitution_is_ordered_and_lossless _ [0x01]).2.1 (by decide)⟩
  rw [Ne, hsame]
  decide

end MakeTen
