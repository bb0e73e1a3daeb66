import MakeTen.Proofs.Puzzle.Spelling
import MakeTen.Terminal.Style
import Mathlib.Data.List.TakeWhile
/-!
# Taking tints away

A coloured terminal is sent sequences around the words that are tinted.  Each of them
begins with the escape character, which no word holds, and says itself where it ends,
so that a reader who deletes the sequences is left with the words.

Main results:

- Predicate `Tint.IsSequence`: the sequences that set and reset a tint.
- Function `untinted`: bytes without these sequences.
- Theorem `Tint.afterSequence?_eq_some_iff`: sequences are recognised, and nothing
  else is.
- Relation `Untints`: bytes that leave other ones behind, whatever follows them.
- Theorem `untints_renderAll`: tinted words leave the words behind.
-/

namespace MakeTen

/-! ## Sequences -/

namespace Tint

/-- The character with which every sequence begins. -/
def escape : Char := '\x1b'

/-- Its byte. -/
def escapeByte : UInt8 := 0x1B

/-- Whether a byte is a decimal digit. -/
def isDigit (b : UInt8) : Bool :=
  0x30 ≤ b && b ≤ 0x39

/-- The sequence that resets the tint. -/
def resetting : List UInt8 := Utf8.encodeString "\x1b[0m"

/-- What stands before the number of a tint. -/
def opening : List UInt8 := Utf8.encodeString "\x1b[38;5;"

/-- The byte that stands behind the number of a tint. -/
def closing : UInt8 := 0x6D

theorem resetting_eq : resetting = [0x1B, 0x5B, 0x30, 0x6D] := rfl

theorem opening_eq : opening = [0x1B, 0x5B, 0x33, 0x38, 0x3B, 0x35, 0x3B] := rfl

/-- A sequence resets the tint, or sets the one with some number. -/
def IsSequence (bytes : List UInt8) : Prop :=
  bytes = resetting ∨
    ∃ digits, digits ≠ [] ∧ (∀ b ∈ digits, isDigit b = true) ∧
      bytes = opening ++ digits ++ [closing]

/-- What follows the number and the end of a sequence, if bytes start with them. -/
def afterNumber? (bytes : List UInt8) : Option (List UInt8) :=
  match bytes.takeWhile isDigit, bytes.dropWhile isDigit with
  | _ :: _, b :: rest => if b = closing then some rest else none
  | _, _ => none

/-- What follows a sequence, if bytes start with one. -/
def afterSequence? (bytes : List UInt8) : Option (List UInt8) :=
  if resetting <+: bytes then some (bytes.drop resetting.length)
  else if opening <+: bytes then afterNumber? (bytes.drop opening.length)
  else none

theorem afterNumber?_eq_some_iff {bytes rest : List UInt8} :
    afterNumber? bytes = some rest ↔
      ∃ digits, digits ≠ [] ∧ (∀ b ∈ digits, isDigit b = true) ∧
        bytes = digits ++ closing :: rest := by
  constructor
  · intro h
    unfold afterNumber? at h
    split at h
    · rename_i first more b after htake hdrop
      split at h
      · rename_i hb
        obtain rfl : after = rest := by simpa using h
        refine ⟨bytes.takeWhile isDigit, by simp [htake], ?_, ?_⟩
        · exact fun b hb => List.mem_takeWhile_imp hb
        · rw [← hb, ← hdrop, List.takeWhile_append_dropWhile]
      · simp at h
    · simp at h
  · rintro ⟨digits, hne, hdigits, rfl⟩
    have hclosing : ¬ isDigit closing = true := by decide
    have htake : (digits ++ closing :: rest).takeWhile isDigit = digits := by
      rw [List.takeWhile_append_of_pos hdigits, List.takeWhile_cons_of_neg hclosing,
        List.append_nil]
    have hdrop : (digits ++ closing :: rest).dropWhile isDigit = closing :: rest := by
      rw [List.dropWhile_append_of_pos hdigits, List.dropWhile_cons_of_neg hclosing]
    obtain ⟨first, more, rfl⟩ := List.exists_cons_of_ne_nil hne
    simp only [afterNumber?, htake, hdrop, if_true]

/-- Sequences are recognised, and nothing else is. -/
theorem afterSequence?_eq_some_iff {bytes rest : List UInt8} :
    afterSequence? bytes = some rest ↔
      ∃ sequence, IsSequence sequence ∧ bytes = sequence ++ rest := by
  constructor
  · intro h
    unfold afterSequence? at h
    split at h
    · rename_i hreset
      obtain ⟨after, rfl⟩ := hreset
      obtain rfl : after = rest := by simpa using h
      exact ⟨resetting, .inl rfl, rfl⟩
    · split at h
      · rename_i hopening
        obtain ⟨after, rfl⟩ := hopening
        rw [List.drop_left] at h
        obtain ⟨digits, hne, hdigits, rfl⟩ := afterNumber?_eq_some_iff.1 h
        exact ⟨_, .inr ⟨digits, hne, hdigits, rfl⟩, by simp⟩
      · simp at h
  · rintro ⟨sequence, rfl | ⟨digits, hne, hdigits, rfl⟩, rfl⟩
    · rw [afterSequence?, if_pos (List.prefix_append _ _), List.drop_left]
    · have hbytes :
          opening ++ digits ++ [closing] ++ rest = opening ++ (digits ++ closing :: rest) := by
        simp
      have hreset : ¬ resetting <+: opening ++ (digits ++ closing :: rest) := by
        rintro ⟨after, happend⟩
        simp [resetting_eq, opening_eq] at happend
      rw [hbytes, afterSequence?, if_neg hreset, if_pos (List.prefix_append _ _), List.drop_left,
        afterNumber?_eq_some_iff]
      exact ⟨digits, hne, hdigits, rfl⟩

/-- A sequence begins with the escape character. -/
theorem IsSequence.exists_cons {sequence : List UInt8} (h : IsSequence sequence) :
    ∃ rest, sequence = escapeByte :: rest := by
  rcases h with rfl | ⟨digits, _, _, rfl⟩
  · exact ⟨_, resetting_eq⟩
  · rw [opening_eq]
    exact ⟨_, rfl⟩

end Tint

/-! ## Bytes without sequences -/

/-- Bytes without the sequences that set and reset tints, deleted from left to
right. -/
def untinted : List UInt8 → List UInt8
  | [] => []
  | b :: bytes =>
    match _hafter : Tint.afterSequence? (b :: bytes) with
    | some rest => untinted rest
    | none => b :: untinted bytes
termination_by bytes => bytes.length
decreasing_by
  · obtain ⟨sequence, hsequence, hbytes⟩ := Tint.afterSequence?_eq_some_iff.1 _hafter
    obtain ⟨tail, rfl⟩ := hsequence.exists_cons
    rw [hbytes, List.length_append, List.length_cons]
    omega
  · simp

@[simp]
theorem untinted_nil : untinted [] = [] := by
  rw [untinted]

/-- A sequence is deleted. -/
theorem untinted_append_of_isSequence {sequence : List UInt8} (h : Tint.IsSequence sequence)
    (rest : List UInt8) : untinted (sequence ++ rest) = untinted rest := by
  have hafter : Tint.afterSequence? (sequence ++ rest) = some rest :=
    Tint.afterSequence?_eq_some_iff.2 ⟨sequence, h, rfl⟩
  obtain ⟨tail, rfl⟩ := h.exists_cons
  rw [List.cons_append] at hafter ⊢
  rw [untinted]
  split
  · rename_i other hother
    obtain rfl : rest = other := by simpa [hafter] using hother
    rfl
  · rename_i hnone
    simp [hafter] at hnone

/-- A byte that begins no sequence stays. -/
theorem untinted_cons_of_ne {b : UInt8} (h : b ≠ Tint.escapeByte) (bytes : List UInt8) :
    untinted (b :: bytes) = b :: untinted bytes := by
  rw [untinted]
  split
  · rename_i rest hafter
    obtain ⟨sequence, hsequence, hbytes⟩ := Tint.afterSequence?_eq_some_iff.1 hafter
    obtain ⟨tail, rfl⟩ := hsequence.exists_cons
    rw [List.cons_append, List.cons_eq_cons] at hbytes
    exact absurd hbytes.1 h
  · rfl

/-- Bytes without the escape character stay. -/
theorem untinted_append_of_not_mem {bytes : List UInt8} (h : Tint.escapeByte ∉ bytes)
    (rest : List UInt8) : untinted (bytes ++ rest) = bytes ++ untinted rest := by
  induction bytes with
  | nil => rw [List.nil_append, List.nil_append]
  | cons b bytes ih =>
    rw [List.mem_cons, not_or] at h
    rw [List.cons_append, untinted_cons_of_ne (Ne.symm h.1), ih h.2, List.cons_append]

/-- Without their sequences the tinted bytes are the plain ones, whatever follows
them; and the plain ones hold no escape character. -/
structure Untints (tinted plain : List UInt8) : Prop where
  /-- The sequences are deleted, and nothing else is. -/
  untinted_append : ∀ rest, untinted (tinted ++ rest) = plain ++ untinted rest
  /-- There is no escape character in what is left. -/
  escape_not_mem : Tint.escapeByte ∉ plain

namespace Untints

variable {tinted plain : List UInt8}

theorem nil : Untints [] [] where
  untinted_append rest := by rw [List.nil_append, List.nil_append]
  escape_not_mem := List.not_mem_nil

theorem append {tinted' plain' : List UInt8} (h : Untints tinted plain)
    (h' : Untints tinted' plain') : Untints (tinted ++ tinted') (plain ++ plain') where
  untinted_append rest := by
    rw [List.append_assoc, h.untinted_append, h'.untinted_append, List.append_assoc]
  escape_not_mem := by
    rw [List.mem_append, not_or]
    exact ⟨h.escape_not_mem, h'.escape_not_mem⟩

/-- Pieces that leave pieces behind do so one after the other. -/
theorem flatMap {α : Type} {f f' : α → List UInt8} {xs : List α}
    (h : ∀ x ∈ xs, Untints (f x) (f' x)) : Untints (xs.flatMap f) (xs.flatMap f') := by
  induction xs with
  | nil => exact nil
  | cons x xs ih =>
    rw [List.forall_mem_cons] at h
    rw [List.flatMap_cons, List.flatMap_cons]
    exact h.1.append (ih h.2)

theorem of_not_mem (h : Tint.escapeByte ∉ plain) : Untints plain plain :=
  ⟨untinted_append_of_not_mem h, h⟩

theorem of_isSequence (h : Tint.IsSequence tinted) : Untints tinted [] where
  untinted_append rest := by rw [untinted_append_of_isSequence h, List.nil_append]
  escape_not_mem := List.not_mem_nil

theorem untinted_eq (h : Untints tinted plain) : untinted tinted = plain := by
  have hnil := h.untinted_append []
  rwa [List.append_nil, untinted_nil, List.append_nil] at hnil

end Untints

/-! ## Words without the escape character -/

namespace Utf8

theorem encodeString_append (s t : String) :
    encodeString (s ++ t) = encodeString s ++ encodeString t := by
  simp [encodeString]

/-- All bytes of a character that is not small are large. -/
theorem le_toNat_of_mem_utf8EncodeChar {c : Char} (hc : ¬ c.val.toNat ≤ 127) :
    ∀ b ∈ String.utf8EncodeChar c, 128 ≤ b.toNat := by
  have hlarge : ∀ n, 128 ≤ n → n < 256 → 128 ≤ (UInt8.ofNat n).toNat := by
    intro n hn hlt
    rwa [UInt8.toNat_ofNat_of_lt' hlt]
  simp only [String.utf8EncodeChar, if_neg hc]
  split
  · simp only [List.forall_mem_cons]
    exact ⟨hlarge _ (by omega) (by omega), hlarge _ (by omega) (by omega), by simp⟩
  · split
    · simp only [List.forall_mem_cons]
      exact ⟨hlarge _ (by omega) (by omega), hlarge _ (by omega) (by omega),
        hlarge _ (by omega) (by omega), by simp⟩
    · simp only [List.forall_mem_cons]
      exact ⟨hlarge _ (by omega) (by omega), hlarge _ (by omega) (by omega),
        hlarge _ (by omega) (by omega), hlarge _ (by omega) (by omega), by simp⟩

/-- A small byte of a character is the character. -/
theorem eq_of_mem_utf8EncodeChar {c : Char} {b : UInt8} (h : b ∈ String.utf8EncodeChar c)
    (hb : b.toNat < 128) : c = Char.ofNat b.toNat := by
  by_cases hc : c.val.toNat ≤ 127
  · simp only [String.utf8EncodeChar, if_pos hc, List.mem_singleton] at h
    have hlt : c.val.toNat < 256 := by omega
    rw [h, UInt8.toNat_ofNat_of_lt' hlt]
    exact (Char.ofNat_toNat c).symm
  · have hlarge := le_toNat_of_mem_utf8EncodeChar hc b h
    omega
end Utf8

/-- The words hold no escape character. -/
def Inert (text : String) : Prop :=
  Tint.escape ∉ text.toList

instance (text : String) : Decidable (Inert text) :=
  inferInstanceAs (Decidable (Tint.escape ∉ text.toList))

@[simp]
theorem inert_append (s t : String) : Inert (s ++ t) ↔ Inert s ∧ Inert t := by
  simp [Inert]

/-- No byte of inert words is the escape character. -/
theorem Inert.escapeByte_not_mem {text : String} (h : Inert text) :
    Tint.escapeByte ∉ Utf8.encodeString text := by
  intro hmem
  obtain ⟨c, hc, hbyte⟩ := List.mem_flatMap.1 hmem
  obtain rfl := Utf8.eq_of_mem_utf8EncodeChar hbyte (by decide)
  exact h hc

/-! ## Tinted words -/

namespace Tint

/-- A tint is set by a sequence. -/
theorem isSequence_start (t : Tint) : IsSequence (Utf8.encodeString t.start) := by
  refine .inr ⟨Utf8.encodeString (toString t.code), ?_, ?_, ?_⟩
  · cases t <;> decide
  · rw [← List.all_eq_true]
    cases t <;> decide
  · rw [start, Utf8.encodeString_append, Utf8.encodeString_append]
    rfl

/-- And it is reset by one. -/
theorem isSequence_reset : IsSequence (Utf8.encodeString reset) :=
  .inl rfl

end Tint

namespace Span

/-- Inert words are left over, tinted or not. -/
theorem untints_render {s : Span} (h : Inert s.text) :
    Untints (Utf8.encodeString (s.render true)) (Utf8.encodeString (s.render false)) := by
  have hwords := Untints.of_not_mem h.escapeByte_not_mem
  rw [render_false]
  cases htint : s.tint with
  | none =>
    simp only [render, htint]
    exact hwords
  | some t =>
    simp only [render, htint, if_true, Utf8.encodeString_append]
    have hboth := (Untints.of_isSequence t.isSequence_start).append
      (hwords.append (Untints.of_isSequence Tint.isSequence_reset))
    simpa only [List.append_assoc, List.append_nil, List.nil_append] using hboth

theorem encodeString_renderAll (colored : Bool) (spans : List Span) :
    Utf8.encodeString (renderAll colored spans) =
      spans.flatMap fun s => Utf8.encodeString (s.render colored) := by
  induction spans with
  | nil => rfl
  | cons s spans ih =>
    rw [List.flatMap_cons, ← ih, ← Utf8.encodeString_append]
    simp only [renderAll, List.map_cons, String.join_cons]

/-- Spans of inert words leave their words behind. -/
theorem untints_renderAll {spans : List Span} (h : ∀ s ∈ spans, Inert s.text) :
    Untints (Utf8.encodeString (renderAll true spans))
      (Utf8.encodeString (renderAll false spans)) := by
  rw [encodeString_renderAll, encodeString_renderAll]
  exact Untints.flatMap fun s hs => untints_render (h s hs)

end Span
end MakeTen
