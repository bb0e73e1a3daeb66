import MakeTen.Text.Replace
import Mathlib.Data.List.Infix
/-!
# Parts of a text

A part of a text stands in it without a gap.  A part that does not hold some character
cannot reach over it, so that it lies wholly before or wholly behind each place where the
character stands.  With the two characters that end lines, this says that a part without
them is found line by line exactly where it is found in the text as a whole.

Main results:

- Theorem `Replace.hasPart_iff`: looking for a part finds it.
- Theorem `Replace.infix_append_cons_iff`: a part does not reach over what it does not hold.
- Theorem `Replace.exists_infix_lines_iff`: the parts of the lines are those of the text.
-/

namespace MakeTen
namespace Replace

variable {part text line rest : List Char}

/-! ## Looking for a part -/

/-- A part is found exactly if it is there. -/
theorem hasPart_iff : hasPart part text = true ↔ part <:+: text := by
  induction text with
  | nil => rw [hasPart, List.isEmpty_iff, List.infix_nil]
  | cons c cs ih =>
    rw [hasPart, Bool.or_eq_true, ih, List.isPrefixOf_iff_prefix, List.infix_cons_iff]

/-- A part does not reach over a character that it does not hold. -/
theorem infix_append_cons_iff {c : Char} (h : c ∉ part) :
    part <:+: line ++ c :: rest ↔ part <:+: line ∨ part <:+: rest := by
  constructor
  · intro hpart
    rcases List.infix_append_iff.1 hpart with hline | hrest | ⟨front, back, rfl, hfront, hback⟩
    · exact .inl hline
    · -- Inside `c :: rest` the part can begin at `c` or behind it.
      rcases List.infix_cons_iff.1 hrest with hprefix | hinfix
      · rcases List.prefix_cons_iff.1 hprefix with rfl | ⟨_, rfl, -⟩
        · exact .inr List.nil_infix
        · exact absurd List.mem_cons_self h
      · exact .inr hinfix
    · -- The part ends inside `c :: rest`, and so before `c`.
      rcases List.prefix_cons_iff.1 hback with rfl | ⟨_, rfl, -⟩
      · rw [List.append_nil]
        exact .inl hfront.isInfix
      · exact absurd (List.mem_append_right _ List.mem_cons_self) h
  · rintro (hline | hrest)
    · exact hline.trans (List.prefix_append _ _).isInfix
    · exact hrest.trans ((List.suffix_cons _ _).trans (List.suffix_append _ _)).isInfix

/-! ## Lines -/

/-- A text is split behind its first line. -/
theorem splitLines_append_cons {line : List Char} (h : '\n' ∉ line) (rest : List Char) :
    splitLines (line ++ '\n' :: rest) = (line :: (splitLines rest).1, (splitLines rest).2) := by
  induction line with
  | nil => rfl
  | cons c line ih =>
    rw [List.mem_cons, not_or] at h
    rw [List.cons_append, splitLines, ih h.2]
    exact if_neg (Ne.symm h.1)

/-- Lines, each of them ended by a line feed, are found again. -/
theorem splitLines_flatMap {lines : List (List Char)} (h : ∀ line ∈ lines, '\n' ∉ line) :
    splitLines (lines.flatMap (· ++ ['\n'])) = (lines, []) := by
  induction lines with
  | nil => rfl
  | cons line lines ih =>
    rw [List.forall_mem_cons] at h
    rw [List.flatMap_cons, List.append_assoc, List.singleton_append,
      splitLines_append_cons h.1, ih h.2]

/-- A text without a line feed is not split. -/
theorem splitLines_of_not_mem (h : '\n' ∉ text) : splitLines text = ([], text) := by
  induction text with
  | nil => rfl
  | cons c text ih =>
    rw [List.mem_cons, not_or] at h
    rw [splitLines, ih h.2]
    exact if_neg (Ne.symm h.1)

/-- The lines of a text are its first line and those of the rest. -/
theorem lines_append_cons (h : '\n' ∉ line) (rest : List Char) :
    lines (line ++ '\n' :: rest) = dropReturn line :: lines rest := by
  simp only [lines, splitLines_append_cons h, List.map_cons, List.cons_append]

/-- The parts of a text without a line feed are those of its line, if there is one. -/
theorem exists_infix_lines_of_not_mem (hne : part ≠ []) (h : '\n' ∉ text) :
    (∃ line ∈ lines text, part <:+: line) ↔ part <:+: text := by
  simp only [lines, splitLines_of_not_mem h, List.map_nil, List.nil_append]
  cases text with
  | nil => simp [hne]
  | cons c text => simp

/-- The carriage return of a line ending belongs to no part without one. -/
theorem infix_dropReturn_iff (hne : part ≠ []) (hreturn : '\r' ∉ part) :
    part <:+: dropReturn line ↔ part <:+: line := by
  rw [dropReturn]
  split
  · rename_i hlast
    obtain ⟨front, rfl⟩ := List.getLast?_eq_some_iff.1 hlast
    rw [List.dropLast_concat, infix_append_cons_iff hreturn, List.infix_nil]
    exact ⟨.inl, fun h => h.resolve_right hne⟩
  · rfl

/-- A part that holds no line ending is in some line exactly if it is in the text. -/
theorem exists_infix_lines_iff (hne : part ≠ []) (hfeed : '\n' ∉ part)
    (hreturn : '\r' ∉ part) : (∃ line ∈ lines text, part <:+: line) ↔ part <:+: text := by
  -- The induction is on the length: a line feed splits the text into its first line,
  -- which holds none, and a shorter rest.
  induction hlength : text.length using Nat.strong_induction_on generalizing text with
  | h n ih =>
    by_cases hmem : '\n' ∈ text
    · obtain ⟨line, rest, rfl, hline⟩ := List.eq_append_cons_of_mem hmem
      have hshorter : rest.length < n := by
        rw [← hlength, List.length_append, List.length_cons]
        omega
      simp only [lines_append_cons hline, List.mem_cons, exists_eq_or_imp]
      rw [infix_append_cons_iff hfeed, infix_dropReturn_iff hne hreturn, ih _ hshorter rfl]
    · exact exists_infix_lines_of_not_mem hne hmem

end Replace
end MakeTen
