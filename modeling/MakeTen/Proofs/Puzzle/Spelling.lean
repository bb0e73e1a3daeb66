import MakeTen.Puzzle.CodeText
import MakeTen.Puzzle.Solution
/-!
# What an accepted text spells

Texts are read as bytes, two at a time, while the grammar speaks of characters.
The two agree since a byte that is taken for a digit or for the slot marker is
below `0x80`: such a byte is never part of a longer character, so that reading
pairs of bytes never leaves the pairs of characters.

Main results:

- Theorem `Utf8.exists_of_encode_eq_cons`: a small byte at the front of a text is
  a character by itself.
- Theorem `CodeText.spellsByte_of_readPair`: a pair that is read spells its byte.
- Theorem `CodeText.spellsBytes_of_parse`: a text that is read spells its bytes,
  apart from the blanks around it and the base mark.
- Theorem `Solution.text_of_ofText?`: the only text of a solution is the one that
  is written for it.
-/

namespace MakeTen

/-! ## Bytes and characters -/

namespace Utf8

/-- A character whose first byte is below `0x80` has no other byte. -/
theorem eq_of_utf8EncodeChar_eq_cons {c : Char} {b : UInt8} {rest : List UInt8}
    (h : String.utf8EncodeChar c = b :: rest) (hb : b.toNat < 128) :
    c = Char.ofNat b.toNat ∧ rest = [] := by
  have hfirst : ∀ n, 128 ≤ n → n < 256 → UInt8.ofNat n ≠ b := by
    rintro n hn hlt rfl
    rw [UInt8.toNat_ofNat_of_lt' hlt] at hb
    omega
  simp only [String.utf8EncodeChar] at h
  split at h
  · rename_i hc
    obtain ⟨rfl, rfl⟩ := List.cons_eq_cons.1 h
    have hlt : c.val.toNat < 256 := by omega
    rw [UInt8.toNat_ofNat_of_lt' hlt]
    exact ⟨(Char.ofNat_toNat c).symm, rfl⟩
  · split at h
    · exact absurd (List.cons_eq_cons.1 h).1 (hfirst _ (by omega) (by omega))
    · split at h
      · exact absurd (List.cons_eq_cons.1 h).1 (hfirst _ (by omega) (by omega))
      · exact absurd (List.cons_eq_cons.1 h).1 (hfirst _ (by omega) (by omega))

theorem encode_cons (c : Char) (cs : List Char) :
    encode (c :: cs) = String.utf8EncodeChar c ++ encode cs := rfl

/-- A small byte at the front of a text is a character by itself. -/
theorem exists_of_encode_eq_cons {cs : List Char} {b : UInt8} {rest : List UInt8}
    (h : encode cs = b :: rest) (hb : b.toNat < 128) :
    ∃ tail, cs = Char.ofNat b.toNat :: tail ∧ encode tail = rest := by
  cases cs with
  | nil => simp at h
  | cons c tail =>
    obtain ⟨first, more, hc⟩ := List.exists_cons_of_ne_nil (String.utf8EncodeChar_ne_nil (c := c))
    rw [encode_cons, hc, List.cons_append, List.cons_eq_cons] at h
    obtain ⟨rfl, hrest⟩ := h
    obtain ⟨rfl, rfl⟩ := eq_of_utf8EncodeChar_eq_cons hc hb
    exact ⟨tail, rfl, hrest⟩

/-- Only the empty text has no bytes. -/
theorem eq_nil_of_encode_eq_nil {cs : List Char} (h : encode cs = []) : cs = [] := by
  cases cs with
  | nil => rfl
  | cons c tail =>
    rw [encode_cons, List.append_eq_nil_iff] at h
    exact absurd h.1 String.utf8EncodeChar_ne_nil

end Utf8

namespace Hex

/-- A digit is a small byte, and in lower case it is the digit that is written
for its value. -/
theorem lowerDigit_of_digitValue? {b v : UInt8} (h : digitValue? b = some v) :
    b.toNat < 128 ∧ v.toNat < 16 ∧ (Char.ofNat b.toNat).toLower = lowerDigit v.toNat := by
  have table : ∀ n : Fin 256, (digitValue? (UInt8.ofNat n)).all (fun v =>
      n.1 < 128 ∧ v.toNat < 16 ∧ (Char.ofNat n).toLower = lowerDigit v.toNat) = true := by
    decide +kernel
  simpa [h] using table ⟨b.toNat, b.toNat_lt⟩

/-- A digit of a value below ten is the digit that is written for the value. -/
theorem ofNat_of_digitValue? {b v : UInt8} (h : digitValue? b = some v) (hv : v.toNat < 10) :
    Char.ofNat b.toNat = lowerDigit v.toNat := by
  have table : ∀ n : Fin 256, (digitValue? (UInt8.ofNat n)).all (fun v =>
      v.toNat < 10 → Char.ofNat n = lowerDigit v.toNat) = true := by
    decide +kernel
  have hdigit := table ⟨b.toNat, b.toNat_lt⟩
  simp only [UInt8.ofNat_toNat, h, Option.all_some, decide_eq_true_eq] at hdigit
  exact hdigit hv

/-- The value of two digits in a row. -/
theorem toNat_mul_add {h l : UInt8} (hh : h.toNat < 16) (hl : l.toNat < 16) :
    (h * 16 + l).toNat = h.toNat * 16 + l.toNat := by
  have h16 : (16 : UInt8).toNat = 16 := rfl
  rw [UInt8.toNat_add, UInt8.toNat_mul, h16]
  omega

end Hex

namespace CodeText

/-! ## Pairs -/

/-- A marker letter is a small byte. -/
theorem toLower_of_isMarker {b : UInt8} (h : isMarker b = true) :
    b.toNat < 128 ∧ (Char.ofNat b.toNat).toLower = 'x' := by
  simp only [isMarker, Bool.or_eq_true, beq_iff_eq] at h
  rcases h with rfl | rfl
  · decide
  · decide

/-- A pair that is read is a pair of characters, and spells its byte. -/
theorem spellsByte_of_readPair {position : Nat} {high low b : UInt8}
    (h : readPair position high low = .ok b) :
    high.toNat < 128 ∧ low.toNat < 128 ∧
      SpellsByte (Char.ofNat high.toNat) (Char.ofNat low.toNat) b := by
  unfold readPair at h
  split at h
  · rename_i hmarker
    rw [Bool.and_eq_true] at hmarker
    obtain ⟨hhigh, hx⟩ := toLower_of_isMarker hmarker.1
    obtain ⟨hlow, hy⟩ := toLower_of_isMarker hmarker.2
    obtain rfl : placeholder = b := by simpa using h
    exact ⟨hhigh, hlow, .inr ⟨rfl, hx, hy⟩⟩
  · split at h
    · simp at h
    · rename_i u hu
      split at h
      · simp at h
      · rename_i v hv
        obtain ⟨hhigh, hu16, hx⟩ := Hex.lowerDigit_of_digitValue? hu
        obtain ⟨hlow, hv16, hy⟩ := Hex.lowerDigit_of_digitValue? hv
        obtain rfl : u * 16 + v = b := by simpa using h
        refine ⟨hhigh, hlow, .inl ?_⟩
        rw [Hex.toNat_mul_add hu16 hv16, hx, hy]
        exact ⟨congrArg Hex.lowerDigit (by omega), congrArg Hex.lowerDigit (by omega)⟩

/-- A text that is read in pairs spells its bytes. -/
theorem spellsBytes_of_readPairs {position : Nat} {digits bytes : List UInt8} {cs : List Char}
    (hcs : Utf8.encode cs = digits) (heven : digits.length % 2 = 0)
    (h : readPairs position digits = .ok bytes) : SpellsBytes cs bytes := by
  fun_induction readPairs position digits generalizing cs bytes with
  | case1 position high low rest fault hpair => simp at h
  | case2 position high low rest b hpair fault hrest ih => simp at h
  | case3 position high low rest b hpair bs hrest ih =>
    obtain rfl : b :: bs = bytes := by simpa using h
    -- Both bytes are small, so that the pair is two characters and the rest starts with one.
    obtain ⟨hhigh, hlow, hspells⟩ := spellsByte_of_readPair hpair
    obtain ⟨tail, rfl, htail⟩ := Utf8.exists_of_encode_eq_cons hcs hhigh
    obtain ⟨tail', rfl, htail'⟩ := Utf8.exists_of_encode_eq_cons htail hlow
    refine .cons hspells (ih htail' ?_ hrest)
    simpa only [List.length_cons, Nat.add_assoc, Nat.add_mod_right] using heven
  | case4 digits position hshort =>
    obtain rfl : [] = bytes := by simpa using h
    match digits, hcs, heven, hshort with
    | [], hcs, _, _ =>
      rw [Utf8.eq_nil_of_encode_eq_nil hcs]
      exact .nil
    | [b], _, heven, _ => simp at heven
    | high :: low :: rest, _, _, hshort => exact absurd rfl (hshort high low rest)

/-! ## Whole texts -/

/-- The text without the blanks around it and without the base mark. -/
def core (text : String) : List Char :=
  (Blank.trim text.toList).drop (baseMarkLength (Blank.trim text.toList))

/-- A text that is read spells its bytes. -/
theorem spellsBytes_of_parse {text : String} {bytes : List UInt8} (h : parse text = .ok bytes) :
    SpellsBytes (core text) bytes := by
  simp only [parse, parseTrimmed] at h
  split at h
  · simp at h
  · rename_i heven
    have hcore : Utf8.encode (core text) = _ := rfl
    exact spellsBytes_of_readPairs hcore ((Nat.mod_two_eq_zero_or_one _).resolve_right heven) h

end CodeText

/-! ## Solutions -/

namespace Solution

/-- Two bytes that stand for an operator are the two characters that are written
for it. -/
theorem exists_of_operator? {high low : UInt8} {o : Operator} {cs : List Char}
    {rest : List UInt8} (h : operator? high low = some o)
    (hcs : Utf8.encode cs = high :: low :: rest) :
    ∃ tail, cs = Hex.lowerPair o.byte ++ tail ∧ Utf8.encode tail = rest := by
  obtain ⟨u, hu, h⟩ := Option.bind_eq_some_iff.1 h
  obtain ⟨v, hv, h⟩ := Option.bind_eq_some_iff.1 h
  obtain ⟨hhigh, hu16, _⟩ := Hex.lowerDigit_of_digitValue? hu
  obtain ⟨hlow, hv16, _⟩ := Hex.lowerDigit_of_digitValue? hv
  obtain ⟨cs', rfl, hcs'⟩ := Utf8.exists_of_encode_eq_cons hcs hhigh
  obtain ⟨tail, rfl, htail⟩ := Utf8.exists_of_encode_eq_cons hcs' hlow
  refine ⟨tail, ?_, htail⟩
  -- The opcodes are so small that both digits are decimal: letter case has no say.
  have hbyte := Hex.toNat_mul_add hu16 hv16
  rw [Operator.ofByte?_eq_some_iff.1 h] at hbyte
  have hsmall : o.byte.toNat ≤ 4 := by cases o <;> decide
  have hdigits : o.byte.toNat / 16 = u.toNat ∧ o.byte.toNat % 16 = v.toNat := by omega
  rw [Hex.lowerPair, hdigits.1, hdigits.2, Hex.ofNat_of_digitValue? hu (by omega),
    Hex.ofNat_of_digitValue? hv (by omega)]
  rfl

/-- The only text of a solution is the one that is written for it. -/
theorem text_of_ofText? {text : String} {s : Solution} (h : ofText? text = some s) :
    s.text = text := by
  unfold ofText? at h
  split at h
  · rename_i a b c d e f hbytes
    obtain ⟨first, hfirst, h⟩ := Option.bind_eq_some_iff.1 h
    obtain ⟨second, hsecond, h⟩ := Option.bind_eq_some_iff.1 h
    obtain ⟨third, hthird, h⟩ := Option.bind_eq_some_iff.1 h
    obtain rfl : ⟨first, second, third⟩ = s := by simpa using h
    obtain ⟨cs₁, htext, hcs₁⟩ := exists_of_operator? hfirst hbytes
    obtain ⟨cs₂, rfl, hcs₂⟩ := exists_of_operator? hsecond hcs₁
    obtain ⟨cs₃, rfl, hcs₃⟩ := exists_of_operator? hthird hcs₂
    rw [Utf8.eq_nil_of_encode_eq_nil hcs₃] at htext
    rw [← String.ofList_toList (s := text), htext]
    rfl
  · simp at h

end Solution

end MakeTen
