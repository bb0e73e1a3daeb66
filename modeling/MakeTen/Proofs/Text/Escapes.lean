import MakeTen.Proofs.Text.Numerals
import MakeTen.Text.Escape
/-!
# Characters as diagnostics show them

Every character is shown in one way, and no two characters are shown alike.  The second is
proved by reading what is shown: a character by itself or behind a backslash is told by its
letter, and all others by the digits of their number.

Main results:

- Relation `Escape.Shows`: a text that stands for a character in a diagnostic.
- Theorem `Escape.shows_iff`: diagnostics show characters in this way.
- Theorem `Escape.Shows.unique`: what is shown tells the character.
-/

namespace MakeTen
namespace Escape

/-! ## What is shown -/

/-- A text that stands for a character in a diagnostic. -/
inductive Shows : Char → String → Prop where
  | tab : Shows '\t' "\\t"
  | carriageReturn : Shows '\r' "\\r"
  | lineFeed : Shows '\n' "\\n"
  | mark {c : Char} : c ∈ ['\'', '"', '\\'] → Shows c (String.ofList ['\\', c])
  | printable {c : Char} : c ∉ ['\'', '"', '\\'] → 0x20 ≤ c.toNat → c.toNat ≤ 0x7E →
      Shows c (String.ofList [c])
  | number {c : Char} : c ∉ ['\t', '\r', '\n'] → c.toNat < 0x20 ∨ 0x7E < c.toNat →
      Shows c ("\\u\x7b" ++ String.ofList (Nat.toDigits 16 c.toNat) ++ "\x7d")

/-- Every character is shown. -/
theorem shows_char (c : Char) : Shows c (char c) := by
  unfold char
  split
  · rename_i htab
    exact htab ▸ .tab
  split
  · rename_i hreturn
    exact hreturn ▸ .carriageReturn
  split
  · rename_i hfeed
    exact hfeed ▸ .lineFeed
  split
  · rename_i hmark
    exact .mark (by simpa using hmark)
  rename_i htab hreturn hfeed hmark
  split
  · rename_i hplain
    exact .printable (by simpa using hmark) hplain.1 hplain.2
  · rename_i hplain
    rw [String.ofList_append, String.ofList_append]
    exact .number (by simp [htab, hreturn, hfeed]) (by omega)

/-- Diagnostics show a character in this one way. -/
theorem shows_iff {c : Char} {text : String} : Shows c text ↔ text = char c := by
  constructor
  · intro h
    cases h with
    | tab => rfl
    | carriageReturn => rfl
    | lineFeed => rfl
    | mark hmark =>
      simp only [List.mem_cons, List.not_mem_nil, or_false] at hmark
      rcases hmark with rfl | rfl | rfl <;> rfl
    | printable hmark hlow hhigh =>
      have hcontrol : ∀ d : Char, d.toNat < 0x20 → c ≠ d := by
        rintro d hd rfl
        omega
      rw [char, if_neg (hcontrol '\t' (by decide)), if_neg (hcontrol '\r' (by decide)),
        if_neg (hcontrol '\n' (by decide)), if_neg (by simpa using hmark), if_pos ⟨hlow, hhigh⟩]
    | number hblank hout =>
      have hmark : ¬ (c = '\'' ∨ c = '"' ∨ c = '\\') := by
        rintro (rfl | rfl | rfl) <;> exact absurd hout (by decide)
      simp only [List.mem_cons, List.not_mem_nil, or_false, not_or] at hblank
      rw [char, if_neg hblank.1, if_neg hblank.2.1, if_neg hblank.2.2, if_neg hmark,
        if_neg (by omega), String.ofList_append, String.ofList_append]
  · rintro rfl
    exact shows_char c

/-! ## What it tells -/

/-- The number of the character that is shown. -/
def told : List Char → Nat
  | [c] => c.toNat
  | [_, 't'] => 0x09
  | [_, 'r'] => 0x0D
  | [_, 'n'] => 0x0A
  | [_, c] => c.toNat
  | shown => Hex.value (shown.drop 3).dropLast

theorem Shows.told_eq {c : Char} {text : String} (h : Shows c text) :
    told text.toList = c.toNat := by
  cases h with
  | tab => rfl
  | carriageReturn => rfl
  | lineFeed => rfl
  | mark hmark =>
    simp only [List.mem_cons, List.not_mem_nil, or_false] at hmark
    rcases hmark with rfl | rfl | rfl <;> rfl
  | printable => rw [String.toList_ofList, told]
  | number =>
    -- Three characters stand before the digits, so that what is read last applies.
    have hshown : ("\\u\x7b" ++ String.ofList (Nat.toDigits 16 c.toNat) ++ "\x7d").toList =
        ['\\', 'u', Char.ofNat 0x7B] ++ (Nat.toDigits 16 c.toNat ++ [Char.ofNat 0x7D]) := by
      simp only [String.toList_append, String.toList_ofList, List.append_assoc]
      rfl
    rw [hshown]
    change Hex.value (Nat.toDigits 16 c.toNat ++ [Char.ofNat 0x7D]).dropLast = c.toNat
    rw [List.dropLast_concat, (Hex.value_toDigits c.toNat).1]

/-- No two characters are shown alike. -/
theorem Shows.unique {c d : Char} {text : String} (hc : Shows c text) (hd : Shows d text) :
    c = d :=
  Char.toNat_inj.1 (hc.told_eq.symm.trans hd.told_eq)

end Escape
end MakeTen
