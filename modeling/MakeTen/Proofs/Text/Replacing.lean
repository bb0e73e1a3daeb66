import MakeTen.Text.Replace
import Mathlib.Data.List.Infix
/-!
# Replacing a pattern

A pattern is replaced from the left and without overlaps.  If its first character comes up
nowhere else in it, then neither can it overlap itself nor begin inside a text without that
character, so that a text can be replaced piece by piece.

Main results:

- Theorems `Replace.all_cons_of_not_prefix`, `Replace.all_append_self`,
  `Replace.all_append_of_not_mem`: replacing, one piece of a text after the other.
- Function `Replace.occurrences`: how often a pattern occurs.
-/

namespace MakeTen
namespace Replace

variable {pattern value text : List Char} {c : Char}

/-! ## Replacing piece by piece -/

/-- What belongs to an occurrence already replaced is passed over. -/
theorem allAfter_append (pattern value front rest : List Char) :
    allAfter pattern value front.length (front ++ rest) = all pattern value rest := by
  induction front with
  | nil => rfl
  | cons c front ih =>
    rw [List.cons_append, List.length_cons, allAfter]
    exact ih

/-- A character at which the pattern does not begin stays. -/
theorem all_cons_of_not_prefix (h : ¬ pattern <+: c :: text) :
    all pattern value (c :: text) = c :: all pattern value text := by
  rw [← List.isPrefixOf_iff_prefix] at h
  exact if_neg h

/-- The pattern at the head of a text is replaced. -/
theorem all_append_self (rest : List Char) :
    all (c :: pattern) value (c :: pattern ++ rest) =
      value ++ all (c :: pattern) value rest := by
  have hprefix : (c :: pattern).isPrefixOf (c :: (pattern ++ rest)) = true :=
    List.isPrefixOf_iff_prefix.2 (List.prefix_append (c :: pattern) rest)
  rw [← allAfter_append (c :: pattern) value pattern rest]
  exact if_pos hprefix

/-- No pattern begins inside a text without its first character. -/
theorem all_append_of_not_mem (h : c ∉ text) (rest : List Char) :
    all (c :: pattern) value (text ++ rest) = text ++ all (c :: pattern) value rest := by
  induction text with
  | nil => rfl
  | cons d text ih =>
    rw [List.mem_cons, not_or] at h
    rw [List.cons_append, all_cons_of_not_prefix, ih h.2, List.cons_append]
    exact fun hprefix => h.1 (List.cons_prefix_cons.1 hprefix).1

/-! ## Counting -/

/-- How often a non-empty pattern occurs in a text: the number of places at which it
begins. -/
def occurrences (pattern : List Char) : List Char → Nat
  | [] => 0
  | c :: cs => (if pattern <+: c :: cs then 1 else 0) + occurrences pattern cs

/-- No pattern begins inside a text without its first character. -/
theorem occurrences_append_of_not_mem (h : c ∉ text) (rest : List Char) :
    occurrences (c :: pattern) (text ++ rest) = occurrences (c :: pattern) rest := by
  induction text with
  | nil => rfl
  | cons d text ih =>
    rw [List.mem_cons, not_or] at h
    rw [List.cons_append, occurrences, ih h.2, if_neg, Nat.zero_add]
    exact fun hprefix => h.1 (List.cons_prefix_cons.1 hprefix).1

end Replace
end MakeTen
