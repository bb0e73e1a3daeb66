import MakeTen.Random.Draw
import Mathlib.Algebra.Order.Floor.Div
import Mathlib.Data.FinEnum
import Mathlib.Data.Finset.Option
import Mathlib.Data.Fintype.BigOperators
import Mathlib.Order.Interval.Finset.Nat
import Mathlib.Tactic.GCongr
import Mathlib.Tactic.Positivity
import Mathlib.Tactic.Ring
/-!
# Draws are fair

A word times the bound of a draw is a multiple of the bound, and the answer says between
which two multiples of the number of words it lies.  As the bound does not divide the number
of words, some of these stretches hold one multiple of the bound more than others.  The zone
cuts all of them down to one length, which the bound does divide: it is the bound itself,
moved to the left as far as a word has room.  So every answer keeps one and the same number
of words, and all answers together keep at least half of the words there are.

A generator whose words are uniform gives every sequence of words equally often.  Counting
the sequences in which an answer is the first that is kept, by their first word, shows that
it is the same number for every answer.

Main results:

- Theorem `Draw.shiftLeft_leadingZeros`: the bound, moved to the left, is a word and at
  least half of all words.
- Theorem `Draw.ofWord?_eq_some_iff_mem_Ico`: the words of an answer stand side by side.
- Theorem `Draw.card_ofWord?_eq_some`: every answer keeps the same number of words.
- Theorem `Draw.card_firstKept`: every answer is first in the same number of sequences.
- Theorem `Picker.pick_in_range_and_unbiased`: what a picker picks.
-/

namespace MakeTen

open Finset

namespace Draw

variable {n i : Nat}

/-! ## The zone -/

theorem wordCount_eq : wordCount = 2 ^ 64 := rfl

/-- The leading zeros of a word and the bits behind its first one fill up the word. -/
theorem leadingZeros_add_log2 (hpos : 0 < n) (hlt : n < wordCount) :
    leadingZeros n + n.log2 = 63 := by
  have hlog : n.log2 < 64 := by
    rw [Nat.log2_lt hpos.ne']
    exact hlt
  rw [leadingZeros, if_neg hpos.ne']
  omega

/-- A bound without leading zeros is at least half of all words, and still a word. -/
theorem shiftLeft_leadingZeros (hpos : 0 < n) (hlt : n < wordCount) :
    wordCount ≤ 2 * (n <<< leadingZeros n) ∧ n <<< leadingZeros n < wordCount := by
  have hsum := leadingZeros_add_log2 hpos hlt
  have hlow : 2 ^ n.log2 ≤ n := Nat.log2_self_le hpos.ne'
  have hhigh : n < 2 ^ (n.log2 + 1) := Nat.lt_log2_self
  rw [Nat.shiftLeft_eq]
  constructor
  · calc
      wordCount = 2 * (2 ^ n.log2 * 2 ^ leadingZeros n) := by
        rw [← pow_add, add_comm n.log2, hsum]
        rfl
      _ ≤ 2 * (n * 2 ^ leadingZeros n) := by gcongr
  · calc
      n * 2 ^ leadingZeros n < 2 ^ (n.log2 + 1) * 2 ^ leadingZeros n := by gcongr
      _ = wordCount := by
        rw [← pow_add, add_right_comm, add_comm n.log2, hsum]
        rfl

/-- The zone holds as many words as the bound without leading zeros says. -/
theorem zone_add_one (hpos : 0 < n) : zone n + 1 = n * 2 ^ leadingZeros n := by
  have hshift : 0 < n * 2 ^ leadingZeros n := by positivity
  rw [zone, Nat.shiftLeft_eq]
  omega

/-- Computed with words, the zone is the same: nothing is lost on the way. -/
theorem toNat_zone (hpos : 0 < n) (hlt : n < wordCount) :
    (UInt64.ofNat n <<< UInt64.ofNat (leadingZeros n) - 1).toNat = zone n := by
  have hsum := leadingZeros_add_log2 hpos hlt
  obtain ⟨hhalf, hword⟩ := shiftLeft_leadingZeros hpos hlt
  have hzeros : (UInt64.ofNat (leadingZeros n)).toNat = leadingZeros n := by
    apply UInt64.toNat_ofNat_of_lt'
    rw [UInt64.size]
    omega
  have hshift : (UInt64.ofNat n <<< UInt64.ofNat (leadingZeros n)).toNat =
      n <<< leadingZeros n := by
    have hroom : leadingZeros n < 64 := by omega
    rw [UInt64.toNat_shiftLeft, UInt64.toNat_ofNat_of_lt' hlt, hzeros, Nat.mod_eq_of_lt hroom]
    exact Nat.mod_eq_of_lt hword
  have hone : (1 : UInt64) ≤ UInt64.ofNat n <<< UInt64.ofNat (leadingZeros n) := by
    rw [UInt64.le_iff_toNat_le, hshift, UInt64.toNat_one]
    rw [wordCount_eq] at hhalf
    omega
  rw [UInt64.toNat_sub_of_le _ _ hone, hshift, UInt64.toNat_one, zone]

/-! ## The words of an answer -/

/-- An answer is given by the words whose product lies in a stretch that begins at a
multiple of the number of words. -/
theorem ofWord?_eq_some_iff (hpos : 0 < n) (hlt : n < wordCount) {word : Nat} :
    ofWord? n word = some i ↔
      i * wordCount ≤ word * n ∧ word * n < i * wordCount + n * 2 ^ leadingZeros n := by
  have hzone := zone_add_one hpos
  obtain ⟨-, hword⟩ := shiftLeft_leadingZeros hpos hlt
  rw [Nat.shiftLeft_eq, ← hzone] at hword
  rw [ofWord?, Option.ite_none_right_eq_some, Option.some.injEq, ← hzone]
  -- What is left is about quotient and remainder of the product.
  generalize word * n = product
  generalize zone n = top at hword ⊢
  rw [wordCount_eq] at hword ⊢
  omega

/-- An answer lies below the bound. -/
theorem lt_of_ofWord? (hpos : 0 < n) (hlt : n < wordCount) {word : Nat}
    (hword : word < wordCount) (h : ofWord? n word = some i) : i < n := by
  obtain ⟨hle, -⟩ := (ofWord?_eq_some_iff hpos hlt).1 h
  have hmul : i * wordCount < n * wordCount := by
    calc
      i * wordCount ≤ word * n := hle
      _ < wordCount * n := by gcongr
      _ = n * wordCount := mul_comm _ _
  exact lt_of_mul_lt_mul_right hmul (Nat.zero_le _)

/-- The words of an answer stand side by side, from the first whose product has come so
far. -/
theorem ofWord?_eq_some_iff_mem_Ico (hpos : 0 < n) (hlt : n < wordCount) {word : Nat} :
    ofWord? n word = some i ↔
      word ∈ Ico ((i * wordCount) ⌈/⌉ n) ((i * wordCount) ⌈/⌉ n + 2 ^ leadingZeros n) := by
  -- The stretch is as long as a multiple of the bound, so that its ends round up alike.
  have hend : (i * wordCount) ⌈/⌉ n + 2 ^ leadingZeros n =
      (i * wordCount + n * 2 ^ leadingZeros n) ⌈/⌉ n := by
    rw [Nat.ceilDiv_eq_add_pred_div, Nat.ceilDiv_eq_add_pred_div, ← Nat.add_mul_div_left _ _ hpos]
    congr 1
    omega
  rw [ofWord?_eq_some_iff hpos hlt, mem_Ico, hend, ← not_le, ← not_le,
    ceilDiv_le_iff_le_mul hpos, ceilDiv_le_iff_le_mul hpos, mul_comm word]

/-- What is kept for an answer below the bound is a word. -/
theorem lt_wordCount_of_ofWord? (hpos : 0 < n) (hlt : n < wordCount) (hi : i < n) {word : Nat}
    (h : ofWord? n word = some i) : word < wordCount := by
  obtain ⟨-, hbelow⟩ := (ofWord?_eq_some_iff hpos hlt).1 h
  obtain ⟨-, hword⟩ := shiftLeft_leadingZeros hpos hlt
  rw [Nat.shiftLeft_eq] at hword
  have hmul : word * n < wordCount * n := by
    calc
      word * n < i * wordCount + n * 2 ^ leadingZeros n := hbelow
      _ ≤ i * wordCount + wordCount := by gcongr
      _ = (i + 1) * wordCount := (Nat.succ_mul i wordCount).symm
      _ ≤ n * wordCount := Nat.mul_le_mul_right _ hi
      _ = wordCount * n := mul_comm _ _
  exact lt_of_mul_lt_mul_right hmul (Nat.zero_le _)

/-! ## Counting words -/

theorem card_words : Fintype.card UInt64 = wordCount :=
  FinEnum.card_eq_fintypeCard.symm

/-- Every answer keeps the same number of words. -/
theorem card_ofWord?_eq_some (hpos : 0 < n) (hlt : n < wordCount) (hi : i < n) :
    #{word : UInt64 | ofWord? n word.toNat = some i} = 2 ^ leadingZeros n := by
  let first := (i * wordCount) ⌈/⌉ n
  have hmem : ∀ word, word ∈ Ico first (first + 2 ^ leadingZeros n) ↔ ofWord? n word = some i :=
    fun word => (ofWord?_eq_some_iff_mem_Ico hpos hlt).symm
  have hword : ∀ word ∈ Ico first (first + 2 ^ leadingZeros n),
      (UInt64.ofNat word).toNat = word := fun word h =>
    UInt64.toNat_ofNat_of_lt' (lt_wordCount_of_ofWord? hpos hlt hi ((hmem word).1 h))
  calc
    #{word : UInt64 | ofWord? n word.toNat = some i} =
        #(Ico first (first + 2 ^ leadingZeros n)) := by
      refine card_nbij' UInt64.toNat UInt64.ofNat ?_ ?_ (fun word _ => UInt64.ofNat_toNat) hword
      · intro word h
        exact (hmem _).2 (mem_filter_univ word |>.1 h)
      · intro word h
        rw [mem_coe, mem_filter_univ, hword word h]
        exact (hmem word).1 h
    _ = 2 ^ leadingZeros n := by simp

/-- A word is kept for one answer or thrown away. -/
theorem card_thrownAway_add (hpos : 0 < n) (hlt : n < wordCount) :
    #{word : UInt64 | ofWord? n word.toNat = none} + n * 2 ^ leadingZeros n = wordCount := by
  have hanswer : ∀ word ∈ (univ : Finset UInt64),
      ofWord? n word.toNat ∈ insertNone (range n) := by
    intro word _
    rw [mem_insertNone]
    intro i hi
    exact mem_range.2 (lt_of_ofWord? hpos hlt word.toNat_lt hi)
  have hkept : ∀ i ∈ range n, #{word : UInt64 | ofWord? n word.toNat = some i} =
      2 ^ leadingZeros n := fun i hi =>
    card_ofWord?_eq_some hpos hlt (mem_range.1 hi)
  have hsum := card_eq_sum_card_fiberwise hanswer
  rw [sum_insertNone, sum_congr rfl hkept, sum_const, card_range, smul_eq_mul, card_univ,
    card_words] at hsum
  exact hsum.symm

/-- At least half of all words are kept. -/
theorem wordCount_le_two_mul_card_kept (hpos : 0 < n) (hlt : n < wordCount) :
    wordCount ≤ 2 * #{word : UInt64 | ofWord? n word.toNat ≠ none} := by
  have hthrown := card_thrownAway_add hpos hlt
  have hsplit : #{word : UInt64 | ofWord? n word.toNat = none} +
      #{word : UInt64 | ofWord? n word.toNat ≠ none} = #(univ : Finset UInt64) :=
    card_filter_add_card_filter_not _
  obtain ⟨hhalf, -⟩ := shiftLeft_leadingZeros hpos hlt
  rw [Nat.shiftLeft_eq] at hhalf
  rw [card_univ, card_words] at hsplit
  omega

/-! ## Counting sequences of words -/

/-- The first answer that is kept among some words. -/
def firstKept (n : Nat) {k : Nat} (words : Fin k → UInt64) : Option Nat :=
  (List.ofFn words).findSome? fun word => ofWord? n word.toNat

theorem firstKept_zero (words : Fin 0 → UInt64) : firstKept n words = none := by
  rw [firstKept, List.ofFn_zero, List.findSome?_nil]

/-- The first word decides unless it is thrown away. -/
theorem firstKept_cons (word : UInt64) {k : Nat} (words : Fin k → UInt64) :
    firstKept n (Fin.cons word words : Fin (k + 1) → UInt64) =
      (ofWord? n word.toNat).or (firstKept n words) := by
  rw [firstKept, List.ofFn_cons, List.findSome?_cons]
  cases ofWord? n word.toNat with
  | none => rfl
  | some j => rfl

/-- Sequences that begin with some word: all of them give its answer, or else those do whose
rest gives it. -/
theorem card_or_firstKept (word : UInt64) (k : Nat) :
    #{words : Fin k → UInt64 | (ofWord? n word.toNat).or (firstKept n words) = some i} =
      (if ofWord? n word.toNat = some i then wordCount ^ k else 0) +
        if ofWord? n word.toNat = none then
          #{words : Fin k → UInt64 | firstKept n words = some i} else 0 := by
  cases ofWord? n word.toNat with
  | none =>
    rw [if_neg (by simp), if_pos rfl, Nat.zero_add]
    rfl
  | some j =>
    by_cases hj : j = i
    · simp [hj, card_words]
    · simp [hj]

/-- A sequence gives an answer by its first word, or by its rest if the first word is thrown
away. -/
theorem card_firstKept_succ (k : Nat) :
    #{words : Fin (k + 1) → UInt64 | firstKept n words = some i} =
      #{word : UInt64 | ofWord? n word.toNat = some i} * wordCount ^ k +
        #{word : UInt64 | ofWord? n word.toNat = none} *
          #{words : Fin k → UInt64 | firstKept n words = some i} := by
  calc
    #{words : Fin (k + 1) → UInt64 | firstKept n words = some i} =
        #{p : UInt64 × (Fin k → UInt64) |
          (ofWord? n p.1.toNat).or (firstKept n p.2) = some i} := by
      symm
      refine card_equiv (Fin.consEquiv fun _ => UInt64) fun p => ?_
      rw [mem_filter_univ, mem_filter_univ, ← firstKept_cons]
      rfl
    _ = ∑ word : UInt64,
        #{words : Fin k → UInt64 | (ofWord? n word.toNat).or (firstKept n words) = some i} := by
      simp only [card_filter, Fintype.sum_prod_type]
    _ = _ := by
      rw [sum_congr rfl fun word _ => card_or_firstKept word k, sum_add_distrib, ← sum_filter,
        ← sum_filter, sum_const, sum_const, smul_eq_mul, smul_eq_mul]

/-- Among all sequences of a length, every answer below the bound is first in the same
number, so that the bound times this number is what is left when the sequences without any
answer are taken away. -/
theorem card_firstKept (hpos : 0 < n) (hlt : n < wordCount) (hi : i < n) (k : Nat) :
    n * #{words : Fin k → UInt64 | firstKept n words = some i} +
      #{word : UInt64 | ofWord? n word.toNat = none} ^ k = wordCount ^ k := by
  induction k with
  | zero => simp [firstKept_zero]
  | succ k ih =>
    have htotal := card_thrownAway_add hpos hlt
    rw [card_firstKept_succ, card_ofWord?_eq_some hpos hlt hi]
    generalize #{word : UInt64 | ofWord? n word.toNat = none} = thrown at ih htotal ⊢
    generalize #{words : Fin k → UInt64 | firstKept n words = some i} = count at ih ⊢
    calc
      n * (2 ^ leadingZeros n * wordCount ^ k + thrown * count) + thrown ^ (k + 1) =
          n * 2 ^ leadingZeros n * wordCount ^ k + thrown * (n * count + thrown ^ k) := by ring
      _ = (thrown + n * 2 ^ leadingZeros n) * wordCount ^ k := by rw [ih]; ring
      _ = wordCount ^ (k + 1) := by rw [htotal, pow_succ']

end Draw

/-! ## Draws from a source -/

namespace WordSource

variable {γ : Type} (source : WordSource γ)

/-- The position when some words have been taken. -/
def after : Nat → γ → γ
  | 0, position => position
  | k + 1, position => after k (source.next position).2

/-- The word that follows when some words have been taken. -/
def word (position : γ) (k : Nat) : UInt64 :=
  (source.next (source.after k position)).1

/-- The words from a position on are its own and those from the next one on. -/
theorem word_eq_cons (position : γ) (k : Nat) :
    (fun j : Fin (k + 1) => source.word position j) =
      Fin.cons (source.next position).1
        fun j : Fin k => source.word (source.next position).2 j := by
  funext j
  induction j using Fin.cases with
  | zero => rfl
  | succ j => rfl

end WordSource

namespace Draw

variable {γ : Type} {source : WordSource γ} {position : γ} {n i : Nat}

/-- A draw lies below the bound, whatever the words are. -/
theorem attempt_lt (hpos : 0 < n) (hlt : n < wordCount) (tries : Nat) (position : γ) :
    (attempt source n tries position).1 < n := by
  induction tries generalizing position with
  | zero =>
    have hmul : (source.next position).1.toNat * n < wordCount * n := by
      gcongr
      exact (source.next position).1.toNat_lt
    exact Nat.div_lt_of_lt_mul hmul
  | succ tries ih =>
    rw [attempt]
    cases hword : ofWord? n (source.next position).1.toNat with
    | none => simpa only [hword] using ih _
    | some i =>
      simpa only [hword] using lt_of_ofWord? hpos hlt (source.next position).1.toNat_lt hword

/-- A word that is kept ends the draw. -/
theorem attempt_of_kept (h : ofWord? n (source.next position).1.toNat = some i) (tries : Nat) :
    attempt source n tries position = (i, (source.next position).2) := by
  cases tries with
  | zero =>
    rw [ofWord?, Option.ite_none_right_eq_some, Option.some.injEq] at h
    exact Prod.ext h.2 rfl
  | succ tries =>
    rw [attempt]
    simp only [h]

/-- The draw is the first answer that is kept, and the next draw begins behind its word. -/
theorem attempt_of_firstKept {tries k : Nat} (hk : k ≤ tries + 1)
    (h : firstKept n (fun j : Fin k => source.word position j) = some i) :
    ∃ j < k, attempt source n tries position = (i, source.after (j + 1) position) := by
  induction k generalizing position tries with
  | zero => simp [firstKept_zero] at h
  | succ k ih =>
    rw [WordSource.word_eq_cons, firstKept_cons] at h
    cases hfirst : ofWord? n (source.next position).1.toNat with
    | some j =>
      obtain rfl : j = i := by simpa [hfirst] using h
      exact ⟨0, k.succ_pos, attempt_of_kept hfirst tries⟩
    | none =>
      rw [hfirst, Option.none_or] at h
      cases tries with
      | zero =>
        obtain rfl : k = 0 := by omega
        simp [firstKept_zero] at h
      | succ tries =>
        obtain ⟨j, hj, hrest⟩ := ih (Nat.le_of_succ_le_succ hk) h
        refine ⟨j + 1, Nat.succ_lt_succ hj, ?_⟩
        rw [attempt]
        simp only [hfirst]
        exact hrest

end Draw

/-! ## Main theorem -/

open Draw in
/-- A picker picks below the size, and favours no index.

The zone is computed without overflow: the size without its leading zeros is a word, and at
least half of all words, and computed with words the zone is what it is computed with
numbers.  Every word that is kept gives an index below the size; each index is given by the
same number of words, a power of two, and at least half of all words are kept.  So on a
generator whose words are uniform all indices are equally likely: among all sequences of
some length each of them comes first in equally many, and the size times this number leaves
over no sequences but those whose words are all thrown away.  Wherever a picker takes its
words from, a pick is the index that comes first among them, and the next pick begins with
the word behind it. -/
theorem Picker.pick_in_range_and_unbiased {n : Nat} (hpos : 1 ≤ n) (hlt : n < wordCount) :
    (wordCount ≤ 2 * (n <<< leadingZeros n) ∧ n <<< leadingZeros n < wordCount ∧
      (UInt64.ofNat n <<< UInt64.ofNat (leadingZeros n) - 1).toNat = zone n) ∧
    (∀ word : UInt64, ∀ i, ofWord? n word.toNat = some i → i < n) ∧
    (∀ i < n, #{word : UInt64 | ofWord? n word.toNat = some i} = 2 ^ leadingZeros n) ∧
    wordCount ≤ 2 * #{word : UInt64 | ofWord? n word.toNat ≠ none} ∧
    (∀ i < n, ∀ k, n * #{words : Fin k → UInt64 | firstKept n words = some i} +
      #{word : UInt64 | ofWord? n word.toNat = none} ^ k = wordCount ^ k) ∧
    ∀ (γ : Type) (p : Picker γ), (p.pick n).1 < n ∧
      ∀ k ≤ period, ∀ i, firstKept n (fun j : Fin k => p.source.word p.position j) = some i →
        ∃ j < k, p.pick n = (i, { p with position := p.source.after (j + 1) p.position }) := by
  obtain ⟨hhalf, hword⟩ := shiftLeft_leadingZeros hpos hlt
  refine ⟨⟨hhalf, hword, toNat_zone hpos hlt⟩,
    fun word i => lt_of_ofWord? hpos hlt word.toNat_lt,
    fun i hi => card_ofWord?_eq_some hpos hlt hi, wordCount_le_two_mul_card_kept hpos hlt,
    fun i hi k => card_firstKept hpos hlt hi k,
    fun γ p => ⟨attempt_lt hpos hlt (period - 1) p.position, ?_⟩⟩
  intro k hk i hi
  have htries : k ≤ period - 1 + 1 := by omega
  obtain ⟨j, hj, hdraw⟩ := attempt_of_firstKept htries hi
  refine ⟨j, hj, ?_⟩
  rw [pick, below, hdraw]

/-- Below three, each of the three indices has one word in four, and a picker whose first
two words keep two as their first answer picks two. -/
theorem Picker.pick_below_three :
    let p := Picker.ofSeed Generator.source 1
    (1 ≤ 3 ∧ 3 < Draw.wordCount) ∧
      #{word : UInt64 | Draw.ofWord? 3 word.toNat = some 2} = 2 ^ 62 ∧
      Draw.firstKept 3 (fun j : Fin 2 => p.source.word p.position j) = some 2 ∧
      (p.pick 3).1 = 2 := by
  intro p
  have hlt : 3 < Draw.wordCount := by decide
  obtain ⟨-, -, hcount, -, -, hpick⟩ := Picker.pick_in_range_and_unbiased (by decide) hlt
  have hfirst : Draw.firstKept 3 (fun j : Fin 2 => p.source.word p.position j) = some 2 := by
    decide +kernel
  obtain ⟨j, -, hj⟩ := (hpick Generator p).2 2 (by decide) 2 hfirst
  refine ⟨⟨by decide, hlt⟩, hcount 2 (by decide), hfirst, ?_⟩
  rw [hj]

end MakeTen
