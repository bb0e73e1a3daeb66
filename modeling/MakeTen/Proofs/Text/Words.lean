import MakeTen.Bytecode.Instruction
import Mathlib.Data.Nat.Init
/-!
# Words

Numbers, bytes in hexadecimal and names of instructions are written with letters and
digits alone.  Nothing that separates or tints words can therefore be found in them.

Main results:

- Predicate `IsWord`: letters and digits alone.
- Theorem `IsWord.not_mem`: what is neither is not in a word.
- Theorems `isWord_natUpper`, `isWord_upper`, `isWord_lower`, `Mnemonic.isWord_text`: what
  words there are.
-/

namespace MakeTen

/-- The text holds letters and digits alone. -/
def IsWord (text : String) : Prop :=
  ∀ c ∈ text.toList, c.isAlphanum = true

instance (text : String) : Decidable (IsWord text) :=
  List.decidableBAll _ _

/-- What is neither a letter nor a digit is not in a word. -/
theorem IsWord.not_mem {text : String} (h : IsWord text) {c : Char}
    (hc : c.isAlphanum = false) : c ∉ text.toList := by
  intro hmem
  rw [h c hmem] at hc
  exact absurd hc (by decide)

/-- A word does not begin with it. -/
theorem IsWord.head?_ne {text : String} (h : IsWord text) {c : Char}
    (hc : c.isAlphanum = false) : text.toList.head? ≠ some c := by
  intro hhead
  exact h.not_mem hc (List.mem_of_mem_head? hhead)

@[simp]
theorem isWord_append (s t : String) : IsWord (s ++ t) ↔ IsWord s ∧ IsWord t := by
  simp only [IsWord, String.toList_append, List.forall_mem_append]

/-! ## Numbers -/

/-- The digits of a number are digits of values below the base. -/
theorem exists_digitChar_of_mem_toDigits {base : Nat} (hbase : 1 < base) {n : Nat} {c : Char}
    (h : c ∈ Nat.toDigits base n) : ∃ k < base, c = Nat.digitChar k := by
  induction n using Nat.strong_induction_on with
  | h n ih =>
    rw [Nat.toDigits_eq_if hbase] at h
    split at h
    · rename_i hlt
      exact ⟨n, hlt, List.mem_singleton.1 h⟩
    · rename_i hge
      rcases List.mem_append.1 h with hfront | hlast
      · exact ih (n / base) (Nat.div_lt_self (by omega) hbase) hfront
      · exact ⟨n % base, Nat.mod_lt n (by omega), List.mem_singleton.1 hlast⟩

/-- Digits are letters or digits, in either letter case. -/
theorem isAlphanum_digit {k : Nat} (h : k < 16) :
    (Nat.digitChar k).isAlphanum = true ∧ (Hex.upperDigit k).isAlphanum = true := by
  have table : ∀ k : Fin 16,
      (Nat.digitChar k).isAlphanum = true ∧ (Hex.upperDigit k).isAlphanum = true := by decide
  exact table ⟨k, h⟩

theorem isWord_toString (n : Nat) : IsWord (toString n) := by
  intro c hc
  rw [Nat.toString_eq_repr, Nat.toList_repr] at hc
  obtain ⟨k, hk, rfl⟩ := exists_digitChar_of_mem_toDigits (by decide) hc
  exact (isAlphanum_digit (by omega)).1

theorem isWord_natUpper (n : Nat) : IsWord (Hex.natUpper n) := by
  have hdigits : ∀ c ∈ (Nat.toDigits 16 n).map Char.toUpper, c.isAlphanum = true := by
    intro c hc
    obtain ⟨d, hd, rfl⟩ := List.mem_map.1 hc
    obtain ⟨k, hk, rfl⟩ := exists_digitChar_of_mem_toDigits (by decide) hd
    exact (isAlphanum_digit hk).2
  rw [IsWord, Hex.natUpper, String.toList_ofList, Hex.atLeastTwo]
  split
  · exact List.forall_mem_cons.2 ⟨rfl, hdigits⟩
  · exact hdigits

/-! ## Bytes -/

/-- The digits of a byte are letters or digits, in either letter case. -/
theorem isAlphanum_of_mem_pair (b : UInt8) :
    (∀ c ∈ Hex.lowerPair b, c.isAlphanum = true) ∧ ∀ c ∈ Hex.upperPair b, c.isAlphanum = true := by
  have hb := b.toNat_lt
  have hhigh := isAlphanum_digit (k := b.toNat / 16) (by omega)
  have hlow := isAlphanum_digit (k := b.toNat % 16) (by omega)
  constructor
  · exact List.forall_mem_cons.2 ⟨hhigh.1, List.forall_mem_singleton.2 hlow.1⟩
  · exact List.forall_mem_cons.2 ⟨hhigh.2, List.forall_mem_singleton.2 hlow.2⟩

theorem isWord_flatMap {digits : UInt8 → List Char}
    (h : ∀ b, ∀ c ∈ digits b, c.isAlphanum = true) (bytes : List UInt8) :
    IsWord (String.ofList (bytes.flatMap digits)) := by
  intro c hc
  rw [String.toList_ofList] at hc
  obtain ⟨b, _, hb⟩ := List.mem_flatMap.1 hc
  exact h b c hb

theorem isWord_upper (bytes : List UInt8) : IsWord (Hex.upper bytes) :=
  isWord_flatMap (fun b => (isAlphanum_of_mem_pair b).2) bytes

theorem isWord_lower (bytes : List UInt8) : IsWord (Hex.lower bytes) :=
  isWord_flatMap (fun b => (isAlphanum_of_mem_pair b).1) bytes

/-! ## Names -/

theorem Mnemonic.isWord_text (m : Mnemonic) : IsWord m.text := by
  cases m with
  | push width => exact (isWord_append _ _).2 ⟨by decide, isWord_toString width⟩
  | dup depth => exact (isWord_append _ _).2 ⟨by decide, isWord_toString depth⟩
  | swap depth => exact (isWord_append _ _).2 ⟨by decide, isWord_toString depth⟩
  | log topics => exact (isWord_append _ _).2 ⟨by decide, isWord_toString topics⟩
  | _ => decide +kernel

/-- Every instruction has a name. -/
theorem Mnemonic.text_ne_empty (m : Mnemonic) : m.text.toList ≠ [] := by
  cases m with
  | push width => simp [text]
  | dup depth => simp [text]
  | swap depth => simp [text]
  | log topics => simp [text]
  | _ => decide +kernel

end MakeTen
