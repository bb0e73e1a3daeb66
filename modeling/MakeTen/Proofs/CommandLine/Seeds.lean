import MakeTen.CommandLine.GameCommand
import Mathlib.Data.List.Induction
/-!
# Seeds of the game command

A seed is written in decimal digits.  Any number of zeros and one plus sign may stand in
front; there has to be a digit, and nothing else may be there.

Main results:

- Theorem `GameCommand.decimal?_eq_some_iff`: the digits that stand for a number.
- Theorem `GameCommand.seed?_eq_some_iff`: the texts that stand for a seed.
-/

namespace MakeTen
namespace GameCommand

/-! ## Digits -/

/-- A digit is the digit of its value. -/
theorem digitChar_of_isDigit {c : Char} (h : c.isDigit = true) :
    c.toNat - 0x30 < 10 ∧ Nat.digitChar (c.toNat - 0x30) = c := by
  obtain ⟨hlow, hhigh⟩ : 0x30 ≤ c.toNat ∧ c.toNat ≤ 0x39 := Char.isDigit_iff_toNat.1 h
  have hlt : c.toNat - 0x30 < 10 := by omega
  refine ⟨hlt, ?_⟩
  rw [← Char.toNat_inj, Nat.toNat_digitChar_of_lt_ten hlt]
  omega

/-- One more digit after zeros and the digits of a number. -/
theorem exists_zeros_concat (zeros n : Nat) {d : Nat} (hd : d < 10) :
    ∃ zeros', List.replicate zeros '0' ++ Nat.toDigits 10 n ++ [Nat.digitChar d] =
      List.replicate zeros' '0' ++ Nat.toDigits 10 (10 * n + d) := by
  rcases Nat.eq_zero_or_pos n with rfl | hpos
  · refine ⟨zeros + 1, ?_⟩
    rw [Nat.mul_zero, Nat.zero_add, Nat.toDigits_of_lt_base hd, List.replicate_succ']
    rfl
  · refine ⟨zeros, ?_⟩
    rw [List.append_assoc, ← Nat.toDigits_of_lt_base hd,
      Nat.toDigits_append_toDigits (by decide) hpos hd]

/-- Digits are those of their value after some zeros. -/
theorem exists_zeros_of_digits {digits : List Char} (hne : digits ≠ [])
    (h : ∀ c ∈ digits, c.isDigit = true) :
    ∃ zeros, digits =
      List.replicate zeros '0' ++ Nat.toDigits 10 (Nat.ofDigitChars 10 digits 0) := by
  induction digits using List.reverseRecOn with
  | nil => exact absurd rfl hne
  | append_singleton digits c ih =>
    rw [List.forall_mem_append, List.forall_mem_singleton] at h
    obtain ⟨hlt, hc⟩ := digitChar_of_isDigit h.2
    have hvalue : Nat.ofDigitChars 10 (digits ++ [c]) 0 =
        10 * Nat.ofDigitChars 10 digits 0 + (c.toNat - 0x30) := by
      rw [Nat.ofDigitChars_append, Nat.ofDigitChars_cons, Nat.ofDigitChars_nil]
      rfl
    rw [hvalue]
    by_cases hnil : digits = []
    · subst hnil
      refine ⟨0, ?_⟩
      rw [Nat.ofDigitChars_nil, Nat.mul_zero, Nat.zero_add, Nat.toDigits_of_lt_base hlt, hc]
      rfl
    · obtain ⟨zeros, hzeros⟩ := ih hnil h.1
      obtain ⟨zeros', hzeros'⟩ := exists_zeros_concat zeros (Nat.ofDigitChars 10 digits 0) hlt
      refine ⟨zeros', ?_⟩
      rw [← hzeros', ← hzeros, hc]

/-- Zeros in front do not change a value. -/
theorem ofDigitChars_replicate_append (zeros : Nat) (digits : List Char) :
    Nat.ofDigitChars 10 (List.replicate zeros '0' ++ digits) 0 = Nat.ofDigitChars 10 digits 0 := by
  induction zeros with
  | zero => rfl
  | succ zeros ih =>
    rw [List.replicate_succ, List.cons_append, Nat.ofDigitChars_cons]
    exact ih

theorem decimal?_eq_some_iff {digits : List Char} {n : Nat} :
    decimal? digits = some n ↔
      ∃ zeros, digits = List.replicate zeros '0' ++ Nat.toDigits 10 n := by
  have hvalue : digits.foldl (fun n d => n * 10 + (d.toNat - 0x30)) 0 =
      Nat.ofDigitChars 10 digits 0 := by
    rw [Nat.ofDigitChars_eq_foldl]
    simp only [Nat.mul_comm]
    rfl
  rw [decimal?, hvalue, Option.ite_none_left_eq_some, Option.some.injEq, not_or, not_not,
    List.all_eq_true]
  constructor
  · rintro ⟨⟨hne, hdigits⟩, rfl⟩
    exact exists_zeros_of_digits (by simpa using hne) hdigits
  · rintro ⟨zeros, rfl⟩
    refine ⟨⟨?_, ?_⟩, ?_⟩
    · simp [Nat.toDigits_ne_nil]
    · rw [List.forall_mem_append]
      refine ⟨fun c hc => ?_, fun c hc => Nat.isDigit_of_mem_toDigits (by decide) (by decide) hc⟩
      rw [List.eq_of_mem_replicate hc]
      rfl
    · rw [ofDigitChars_replicate_append, Nat.ofDigitChars_toDigits (by decide) (by decide)]

/-! ## Seeds -/

/-- The number is what the text spells: decimal digits, with any number of zeros and one
plus sign in front. -/
def SpellsSeed (text : String) (seed : UInt64) : Prop :=
  ∃ sign zeros, (sign = [] ∨ sign = ['+']) ∧
    text.toList = sign ++ (List.replicate zeros '0' ++ Nat.toDigits 10 seed.toNat)

/-- No plus sign is among digits. -/
theorem not_mem_of_decimal? {digits : List Char} {n : Nat} (h : decimal? digits = some n) :
    '+' ∉ digits := by
  rw [decimal?, Option.ite_none_left_eq_some, not_or, not_not, List.all_eq_true] at h
  exact fun hmem => absurd (h.1.2 _ hmem) (by decide)

/-- The seed that some digits stand for. -/
def unsignedSeed? (digits : List Char) : Option UInt64 :=
  (decimal? digits).bind fun n => if n < UInt64.size then some n.toUInt64 else none

/-- A seed is the number that the digits stand for, if that is small enough. -/
theorem unsignedSeed?_eq_some_iff {digits : List Char} {seed : UInt64} :
    unsignedSeed? digits = some seed ↔ decimal? digits = some seed.toNat := by
  rw [unsignedSeed?, Option.bind_eq_some_iff]
  constructor
  · rintro ⟨n, hn, hseed⟩
    rw [Option.ite_none_right_eq_some, Option.some.injEq] at hseed
    obtain ⟨hlt, rfl⟩ := hseed
    rw [hn, Nat.toUInt64, UInt64.toNat_ofNat', Nat.mod_eq_of_lt hlt]
  · intro h
    exact ⟨_, h, by rw [if_pos seed.toNat_lt_size, Nat.toUInt64, UInt64.ofNat_toNat]⟩

/-- One plus sign is passed over. -/
theorem seed?_of_plus {text : String} {digits : List Char} (h : text.toList = '+' :: digits) :
    seed? text = unsignedSeed? digits := by
  unfold seed? unsignedSeed?
  simp only [h]
  cases decimal? digits <;> rfl

theorem seed?_of_no_plus {text : String} (h : ∀ digits, text.toList ≠ '+' :: digits) :
    seed? text = unsignedSeed? text.toList := by
  unfold seed? unsignedSeed?
  split
  · rename_i digits hplus
    exact absurd hplus (h digits)
  · dsimp only
    cases decimal? text.toList <;> rfl

/-- A seed is the number that follows its sign, if there is one. -/
theorem seed?_eq_some_iff_decimal? {text : String} {seed : UInt64} :
    seed? text = some seed ↔
      ∃ sign digits, (sign = [] ∨ sign = ['+']) ∧ text.toList = sign ++ digits ∧
        decimal? digits = some seed.toNat := by
  by_cases hplus : ∃ digits, text.toList = '+' :: digits
  · obtain ⟨digits, htext⟩ := hplus
    rw [seed?_of_plus htext, unsignedSeed?_eq_some_iff]
    constructor
    · exact fun h => ⟨['+'], digits, .inr rfl, htext, h⟩
    · rintro ⟨sign, digits', rfl | rfl, heq, h⟩
      · rw [htext, List.nil_append] at heq
        exact absurd (heq ▸ List.mem_cons_self) (not_mem_of_decimal? h)
      · rw [htext] at heq
        rwa [(List.cons.inj heq).2]
  · rw [not_exists] at hplus
    rw [seed?_of_no_plus hplus, unsignedSeed?_eq_some_iff]
    constructor
    · exact fun h => ⟨[], text.toList, .inl rfl, rfl, h⟩
    · rintro ⟨sign, digits, rfl | rfl, heq, h⟩
      · rwa [heq]
      · exact absurd heq (hplus digits)

/-- The texts that stand for a seed are those that spell it. -/
theorem seed?_eq_some_iff {text : String} {seed : UInt64} :
    seed? text = some seed ↔ SpellsSeed text seed := by
  rw [seed?_eq_some_iff_decimal?, SpellsSeed]
  constructor
  · rintro ⟨sign, digits, hsign, htext, h⟩
    obtain ⟨zeros, rfl⟩ := decimal?_eq_some_iff.1 h
    exact ⟨sign, zeros, hsign, htext⟩
  · rintro ⟨sign, zeros, hsign, htext⟩
    exact ⟨sign, _, hsign, htext, decimal?_eq_some_iff.2 ⟨zeros, rfl⟩⟩

end GameCommand
end MakeTen
