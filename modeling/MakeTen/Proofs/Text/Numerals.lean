import MakeTen.Proofs.Text.Words
/-!
# Numbers in hexadecimal

A number is written in the digits that denote it, with one zero in front if there is only one
digit.  What digits denote is said here for itself, by their places in the alphabet of the
digits, so that it can be held against what is written.

Main results:

- Function `Hex.value`: the number that digits denote.
- Theorem `Hex.value_toDigits`: the digits of a number denote it, in either letter case.
- Theorem `Hex.value_natUpper`: so does a number as it is written.
-/

namespace MakeTen
namespace Hex

/-- The value of a digit, in either letter case, by its place in the alphabet. -/
def digitValue (c : Char) : Nat :=
  "0123456789abcdef".toList.idxOf c.toLower

/-- The number that digits denote, the highest first. -/
def value (digits : List Char) : Nat :=
  digits.foldl (fun n c => 16 * n + digitValue c) 0

theorem value_concat (digits : List Char) (c : Char) :
    value (digits ++ [c]) = 16 * value digits + digitValue c := by
  rw [value, List.foldl_append]
  rfl

/-- A zero in front does not count. -/
theorem value_cons_zero (digits : List Char) : value ('0' :: digits) = value digits := rfl

theorem digitValue_digitChar {k : Nat} (h : k < 16) :
    digitValue (Nat.digitChar k) = k ∧ digitValue (upperDigit k) = k := by
  have table : ∀ k : Fin 16, digitValue (Nat.digitChar k) = k ∧ digitValue (upperDigit k) = k := by
    decide
  exact table ⟨k, h⟩

/-- The digits of a number denote it, in either letter case. -/
theorem value_toDigits (n : Nat) :
    value (Nat.toDigits 16 n) = n ∧ value ((Nat.toDigits 16 n).map Char.toUpper) = n := by
  induction n using Nat.strong_induction_on with
  | h n ih =>
    rw [Nat.toDigits_eq_if (by decide)]
    split
    · rename_i hlt
      obtain ⟨hlower, hupper⟩ := digitValue_digitChar hlt
      exact ⟨(Nat.zero_add _).trans hlower, (Nat.zero_add _).trans hupper⟩
    · rename_i hge
      obtain ⟨hlower, hupper⟩ := digitValue_digitChar (Nat.mod_lt n (by decide : 0 < 16))
      obtain ⟨hfront, hfront'⟩ := ih (n / 16) (Nat.div_lt_self (by omega) (by decide))
      rw [List.map_append, List.map_singleton, value_concat, value_concat, hfront, hfront',
        hlower, ← upperDigit, hupper, Nat.div_add_mod]
      exact ⟨rfl, rfl⟩

theorem value_atLeastTwo (digits : List Char) : value (atLeastTwo digits) = value digits := by
  unfold atLeastTwo
  split
  · exact value_cons_zero digits
  · rfl

theorem value_natUpper (n : Nat) : value (natUpper n).toList = n := by
  rw [natUpper, String.toList_ofList, value_atLeastTwo, (value_toDigits n).2]

/-- A number is written in digits and capital letters. -/
theorem mem_natUpper {n : Nat} {c : Char} (h : c ∈ (natUpper n).toList) :
    c ∈ "0123456789ABCDEF".toList := by
  have hdigit : ∀ k : Fin 16, upperDigit k ∈ "0123456789ABCDEF".toList := by decide
  have hdigits : ∀ c ∈ (Nat.toDigits 16 n).map Char.toUpper, c ∈ "0123456789ABCDEF".toList := by
    intro c hc
    obtain ⟨d, hd, rfl⟩ := List.mem_map.1 hc
    obtain ⟨k, hk, rfl⟩ := exists_digitChar_of_mem_toDigits (by decide) hd
    exact hdigit ⟨k, hk⟩
  rw [natUpper, String.toList_ofList, atLeastTwo] at h
  split at h
  · rcases List.mem_cons.1 h with rfl | hc
    · decide
    · exact hdigits c hc
  · exact hdigits c h

/-- A number is written in two digits at least. -/
theorem two_le_length_natUpper (n : Nat) : 2 ≤ (natUpper n).toList.length := by
  have hpos : 0 < (Nat.toDigits 16 n).length := Nat.length_toDigits_pos
  rw [natUpper, String.toList_ofList, atLeastTwo, List.length_map]
  split
  · rw [List.length_cons, List.length_map]
    omega
  · rw [List.length_map]
    omega

end Hex
end MakeTen
