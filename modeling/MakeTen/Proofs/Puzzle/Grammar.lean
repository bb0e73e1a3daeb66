import MakeTen.Proofs.Puzzle.Spelling
import MakeTen.Proofs.Text.Padding
import Mathlib.Data.List.Forall2
/-!
# Reading code text is following its grammar

A text is read exactly if it follows the grammar of code text, and it stands for the
bytes that it spells.  The one direction takes a text that is read apart; the other
one reads a text that is put together of blanks, a base mark and pairs.  Both rest
on the same two facts: what spells a byte is never blank, so that trimming finds the
ends of the pairs, and no pair looks like the base mark, so that the mark is found
exactly if it is there.

Main results:

- Relation `CodeText.Divides`: a text divided into its parts.
- Theorem `CodeText.Divides.trim_eq`, `CodeText.Divides.baseMarkLength_eq`: how the
  parts are found again.
- Theorem `CodeText.readPairs_of_spellsBytes`: pairs that spell bytes are read.
- Theorem `CodeText.parse_follows_grammar`: reading is following the grammar.
-/

namespace MakeTen

/-! ## Small characters -/

namespace Utf8

/-- A small character is a byte by itself. -/
theorem encode_cons_of_lt {c : Char} (h : c.toNat < 128) (cs : List Char) :
    encode (c :: cs) = UInt8.ofNat c.toNat :: encode cs := by
  have hc : c.val.toNat ≤ 127 := Nat.le_of_lt_succ h
  have hencode : String.utf8EncodeChar c = [UInt8.ofNat c.toNat] := by
    simp only [String.utf8EncodeChar, hc, if_true]
    rfl
  rw [encode_cons, hencode, List.singleton_append]

end Utf8

/-- There are so few small characters that what holds of them can be checked. -/
theorem exists_ofNat_eq {c : Char} (h : c.toNat < 128) : ∃ m : Fin 128, Char.ofNat m = c :=
  ⟨⟨c.toNat, h⟩, Char.ofNat_toNat c⟩

/-- Only a small character is small in lower case. -/
theorem toNat_lt_of_toLower_eq {c d : Char} (h : c.toLower = d) (hd : d.toNat < 128) :
    c.toNat < 128 := by
  subst h
  unfold Char.toLower at hd
  split at hd
  · rename_i hupper
    have hle : c.val.toNat ≤ 'Z'.val.toNat := hupper.2
    have hz : 'Z'.val.toNat = 90 := rfl
    have hc : c.toNat = c.val.toNat := rfl
    omega
  · exact hd

namespace CodeText

/-! ## Letters of pairs -/

/-- The letters that pairs are made of: digits and letters of the slot marker, in
either case. -/
def IsLetter (c : Char) : Prop :=
  (∃ n < 16, c.toLower = Hex.lowerDigit n) ∨ c.toLower = 'x'

theorem IsLetter.toNat_lt {c : Char} (h : IsLetter c) : c.toNat < 128 := by
  rcases h with ⟨n, hn, hc⟩ | hc
  · have table : ∀ n : Fin 16, (Hex.lowerDigit n).toNat < 128 := by decide
    exact toNat_lt_of_toLower_eq hc (table ⟨n, hn⟩)
  · exact toNat_lt_of_toLower_eq hc (by decide)

/-- What the small characters are that are digits or marker letters in lower case: no
blanks, digits of their value, and marker letters. -/
theorem letter_table (m : Fin 128) :
    (∀ n : Fin 16, (Char.ofNat m).toLower = Hex.lowerDigit n →
      Blank.isBlank (Char.ofNat m) = false ∧
        Hex.digitValue? (UInt8.ofNat (Char.ofNat m).toNat) = some (UInt8.ofNat n) ∧
        isMarker (UInt8.ofNat (Char.ofNat m).toNat) = false) ∧
    ((Char.ofNat m).toLower = 'x' → Blank.isBlank (Char.ofNat m) = false ∧
      isMarker (UInt8.ofNat (Char.ofNat m).toNat) = true) := by
  revert m
  decide +kernel

/-- No letter of a pair is blank. -/
theorem IsLetter.isBlank_eq_false {c : Char} (h : IsLetter c) : Blank.isBlank c = false := by
  obtain ⟨m, rfl⟩ := exists_ofNat_eq h.toNat_lt
  rcases h with ⟨n, hn, hlower⟩ | hlower
  · exact ((letter_table m).1 ⟨n, hn⟩ hlower).1
  · exact ((letter_table m).2 hlower).1

/-- The byte of a digit has the value of the digit, and is no letter of the slot
marker. -/
theorem digitValue?_of_toLower {c : Char} {n : Nat} (hn : n < 16)
    (h : c.toLower = Hex.lowerDigit n) :
    Hex.digitValue? (UInt8.ofNat c.toNat) = some (UInt8.ofNat n) ∧
      isMarker (UInt8.ofNat c.toNat) = false := by
  obtain ⟨m, rfl⟩ := exists_ofNat_eq (IsLetter.toNat_lt (.inl ⟨n, hn, h⟩))
  exact ((letter_table m).1 ⟨n, hn⟩ h).2

theorem isMarker_of_toLower {c : Char} (h : c.toLower = 'x') :
    isMarker (UInt8.ofNat c.toNat) = true := by
  obtain ⟨m, rfl⟩ := exists_ofNat_eq (IsLetter.toNat_lt (.inr h))
  exact ((letter_table m).2 h).2

/-! ## Pairs -/

/-- Both halves of a byte are values of digits. -/
theorem halves_lt (b : UInt8) : b.toNat / 16 < 16 ∧ b.toNat % 16 < 16 := by
  have hb := b.toNat_lt
  omega

/-- A pair that spells a byte is made of letters. -/
theorem SpellsByte.isLetter {high low : Char} {b : UInt8} (h : SpellsByte high low b) :
    IsLetter high ∧ IsLetter low := by
  rcases h with ⟨hhigh, hlow⟩ | ⟨_, hhigh, hlow⟩
  · exact ⟨.inl ⟨_, (halves_lt b).1, hhigh⟩, .inl ⟨_, (halves_lt b).2, hlow⟩⟩
  · exact ⟨.inr hhigh, .inr hlow⟩

/-- A pair that spells a byte is read. -/
theorem readPair_of_spellsByte {high low : Char} {b : UInt8} (h : SpellsByte high low b)
    (position : Nat) :
    readPair position (UInt8.ofNat high.toNat) (UInt8.ofNat low.toNat) = .ok b := by
  rcases h with ⟨hhigh, hlow⟩ | ⟨rfl, hhigh, hlow⟩
  · obtain ⟨hhigh16, hlow16⟩ := halves_lt b
    obtain ⟨hu, hmarker⟩ := digitValue?_of_toLower hhigh16 hhigh
    obtain ⟨hv, _⟩ := digitValue?_of_toLower hlow16 hlow
    have hvalue : UInt8.ofNat (b.toNat / 16) * 16 + UInt8.ofNat (b.toNat % 16) = b := by
      have hu16 : (UInt8.ofNat (b.toNat / 16)).toNat = b.toNat / 16 :=
        UInt8.toNat_ofNat_of_lt' (Nat.lt_trans hhigh16 (by decide))
      have hv16 : (UInt8.ofNat (b.toNat % 16)).toNat = b.toNat % 16 :=
        UInt8.toNat_ofNat_of_lt' (Nat.lt_trans hlow16 (by decide))
      rw [← UInt8.toNat_inj, Hex.toNat_mul_add (by omega) (by omega), hu16, hv16]
      omega
    simp only [readPair, hmarker, hu, hv, hvalue, Bool.false_and, Bool.false_eq_true, if_false]
  · simp only [readPair, isMarker_of_toLower hhigh, isMarker_of_toLower hlow, Bool.and_self,
      if_true]

/-- No pair that spells a byte looks like the base mark. -/
theorem SpellsByte.not_baseMark {high low : Char} {b : UInt8} (h : SpellsByte high low b)
    (hhigh : high = '0') : low.toLower ≠ 'x' := by
  subst hhigh
  rcases h with ⟨_, hlow⟩ | ⟨_, hhigh, _⟩
  · have table : ∀ n : Fin 16, Hex.lowerDigit n ≠ 'x' := by decide
    rw [hlow]
    exact table ⟨_, (halves_lt b).2⟩
  · exact absurd hhigh (by decide)

theorem SpellsBytes.isLetter {cs : List Char} {bytes : List UInt8} (h : SpellsBytes cs bytes) :
    ∀ c ∈ cs, IsLetter c := by
  induction h with
  | nil => simp
  | cons hpair _ ih =>
    obtain ⟨hhigh, hlow⟩ := hpair.isLetter
    rw [List.forall_mem_cons, List.forall_mem_cons]
    exact ⟨hhigh, hlow, ih⟩

/-- Pairs that spell bytes are read, and there are two letters for each byte. -/
theorem readPairs_of_spellsBytes {cs : List Char} {bytes : List UInt8} (h : SpellsBytes cs bytes)
    (position : Nat) :
    readPairs position (Utf8.encode cs) = .ok bytes ∧
      (Utf8.encode cs).length = 2 * bytes.length := by
  induction h generalizing position with
  | nil => exact ⟨rfl, rfl⟩
  | cons hpair _ ih =>
    obtain ⟨hread, hlength⟩ := ih (position + 2)
    obtain ⟨hhigh, hlow⟩ := hpair.isLetter
    rw [Utf8.encode_cons_of_lt hhigh.toNat_lt, Utf8.encode_cons_of_lt hlow.toNat_lt]
    refine ⟨?_, ?_⟩
    · simp only [readPairs, readPair_of_spellsByte hpair, hread]
    · rw [List.length_cons, List.length_cons, hlength, List.length_cons]
      omega

/-! ## Texts and their parts -/

/-- The base mark, in either case, or nothing. -/
def IsMark (mark : List Char) : Prop :=
  mark = [] ∨ mark = ['0', 'x'] ∨ mark = ['0', 'X']

/-- Characters divided into blanks, a base mark if there is one, pairs that spell the
bytes, and blanks. -/
def Divides (cs mark pairs : List Char) (bytes : List UInt8) : Prop :=
  ∃ before after, cs = before ++ mark ++ pairs ++ after ∧
    (∀ c ∈ before, Blank.isBlank c = true) ∧ (∀ c ∈ after, Blank.isBlank c = true) ∧
    IsMark mark ∧ SpellsBytes pairs bytes

/-- A text that follows the grammar can be divided into its parts. -/
theorem spells_iff {text : String} {bytes : List UInt8} :
    Spells text bytes ↔ ∃ mark pairs, Divides text.toList mark pairs bytes := by
  constructor
  · rintro ⟨before, mark, pairs, after, htext, hbefore, hafter, hmark, hpairs⟩
    exact ⟨mark, pairs, before, after, htext, hbefore, hafter, hmark, hpairs⟩
  · rintro ⟨mark, pairs, before, after, htext, hbefore, hafter, hmark, hpairs⟩
    exact ⟨before, mark, pairs, after, htext, hbefore, hafter, hmark, hpairs⟩

theorem IsMark.isBlank_eq_false {mark : List Char} (h : IsMark mark) :
    ∀ c ∈ mark, Blank.isBlank c = false := by
  rcases h with rfl | rfl | rfl
  · simp
  · exact List.forall_mem_cons.2 ⟨by decide, List.forall_mem_singleton.2 (by decide)⟩
  · exact List.forall_mem_cons.2 ⟨by decide, List.forall_mem_singleton.2 (by decide)⟩

theorem isMark_take_baseMarkLength (cs : List Char) : IsMark (cs.take (baseMarkLength cs)) := by
  fun_cases baseMarkLength cs with
  | case1 rest => exact .inr (.inl rfl)
  | case2 rest => exact .inr (.inr rfl)
  | case3 => exact .inl rfl

/-- Pairs that spell bytes do not start with a base mark. -/
theorem SpellsBytes.baseMarkLength_eq {pairs : List Char} {bytes : List UInt8}
    (h : SpellsBytes pairs bytes) : baseMarkLength pairs = 0 := by
  cases h with
  | nil => rfl
  | cons hpair _ =>
    unfold baseMarkLength
    split
    · rename_i heq
      obtain ⟨rfl, htail⟩ := List.cons_eq_cons.1 heq
      obtain ⟨rfl, _⟩ := List.cons_eq_cons.1 htail
      exact absurd (by decide) (hpair.not_baseMark rfl)
    · rename_i heq
      obtain ⟨rfl, htail⟩ := List.cons_eq_cons.1 heq
      obtain ⟨rfl, _⟩ := List.cons_eq_cons.1 htail
      exact absurd (by decide) (hpair.not_baseMark rfl)
    · rfl

namespace Divides

variable {cs mark pairs : List Char} {bytes : List UInt8}

theorem spellsBytes (h : Divides cs mark pairs bytes) : SpellsBytes pairs bytes := by
  obtain ⟨_, _, _, _, _, _, hpairs⟩ := h
  exact hpairs

theorem isMark (h : Divides cs mark pairs bytes) : IsMark mark := by
  obtain ⟨_, _, _, _, _, hmark, _⟩ := h
  exact hmark

/-- Trimming finds the mark and the pairs. -/
theorem trim_eq (h : Divides cs mark pairs bytes) : Blank.trim cs = mark ++ pairs := by
  obtain ⟨before, after, rfl, hbefore, hafter, hmark, hpairs⟩ := h
  rw [List.append_assoc before]
  refine Blank.trim_append hbefore ?_ hafter
  rw [List.forall_mem_append]
  exact ⟨hmark.isBlank_eq_false, fun c hc => (hpairs.isLetter c hc).isBlank_eq_false⟩

/-- The mark is found exactly if it is there. -/
theorem baseMarkLength_eq (h : Divides cs mark pairs bytes) :
    baseMarkLength (mark ++ pairs) = mark.length := by
  rcases h.isMark with rfl | rfl | rfl
  · exact h.spellsBytes.baseMarkLength_eq
  · rfl
  · rfl

/-- Characters can be divided in one way only, but for where the blanks of a text
without any mark or pair belong. -/
theorem unique {mark' pairs' : List Char} {bytes' : List UInt8}
    (h : Divides cs mark pairs bytes) (h' : Divides cs mark' pairs' bytes') :
    mark = mark' ∧ pairs = pairs' := by
  have heq : mark ++ pairs = mark' ++ pairs' := h.trim_eq.symm.trans h'.trim_eq
  have hlength : mark.length = mark'.length := by
    rw [← h.baseMarkLength_eq, ← h'.baseMarkLength_eq, heq]
  exact List.append_inj heq hlength

/-- What can be divided is read. -/
theorem parse_eq {text : String} (h : Divides text.toList mark pairs bytes) :
    parse text = .ok bytes := by
  obtain ⟨hread, hlength⟩ := readPairs_of_spellsBytes h.spellsBytes mark.length
  have heven : ¬ (Utf8.encode pairs).length % 2 = 1 := by omega
  rw [parse, h.trim_eq, parseTrimmed, h.baseMarkLength_eq, List.drop_left]
  simp only [heven, if_false, hread]

end Divides

/-- What is read can be divided. -/
theorem exists_divides_of_parse {text : String} {bytes : List UInt8}
    (h : parse text = .ok bytes) : ∃ mark pairs, Divides text.toList mark pairs bytes := by
  obtain ⟨before, after, htext, hbefore, hafter⟩ := Blank.exists_eq_append_trim text.toList
  let mark := (Blank.trim text.toList).take (baseMarkLength (Blank.trim text.toList))
  have htrim : mark ++ core text = Blank.trim text.toList := List.take_append_drop _ _
  refine ⟨mark, core text, before, after, ?_, hbefore, hafter, isMark_take_baseMarkLength _,
    spellsBytes_of_parse h⟩
  rw [List.append_assoc before, htrim]
  exact htext

/-- A text is read exactly if it follows the grammar. -/
theorem parse_eq_ok_iff {text : String} {bytes : List UInt8} :
    parse text = .ok bytes ↔ Spells text bytes := by
  rw [spells_iff]
  constructor
  · exact exists_divides_of_parse
  · rintro ⟨mark, pairs, h⟩
    exact h.parse_eq

/-! ## Spellings of bytes -/

/-- The spellings of a byte that are written: its digits in lower case or in upper
case and, for a slot, the slot marker in any case. -/
def IsSpelling (b : UInt8) (pair : List Char) : Prop :=
  pair = Hex.lowerPair b ∨ pair = Hex.upperPair b ∨
    (b = placeholder ∧ pair.map Char.toLower = ['x', 'x'])

/-- Digits of a byte in either case spell it. -/
theorem spellsByte_digits (b : UInt8) :
    SpellsByte (Hex.lowerDigit (b.toNat / 16)) (Hex.lowerDigit (b.toNat % 16)) b ∧
      SpellsByte (Hex.upperDigit (b.toNat / 16)) (Hex.upperDigit (b.toNat % 16)) b := by
  have table : ∀ n : Fin 16, (Hex.lowerDigit n).toLower = Hex.lowerDigit n ∧
      (Hex.upperDigit n).toLower = Hex.lowerDigit n := by
    decide
  obtain ⟨hlower, hupper⟩ := table ⟨_, (halves_lt b).1⟩
  obtain ⟨hlower', hupper'⟩ := table ⟨_, (halves_lt b).2⟩
  exact ⟨.inl ⟨hlower, hlower'⟩, .inl ⟨hupper, hupper'⟩⟩

/-- Each spelling of a byte is a pair that spells it. -/
theorem IsSpelling.exists_pair {b : UInt8} {pair : List Char} (h : IsSpelling b pair) :
    ∃ high low, pair = [high, low] ∧ SpellsByte high low b := by
  rcases h with rfl | rfl | ⟨rfl, hpair⟩
  · exact ⟨_, _, rfl, (spellsByte_digits b).1⟩
  · exact ⟨_, _, rfl, (spellsByte_digits b).2⟩
  · obtain ⟨high, rest, rfl, hhigh, hrest⟩ := List.map_eq_cons_iff.1 hpair
    obtain ⟨low, nothing, rfl, hlow, hnothing⟩ := List.map_eq_cons_iff.1 hrest
    obtain rfl := List.map_eq_nil_iff.1 hnothing
    exact ⟨high, low, rfl, .inr ⟨rfl, hhigh, hlow⟩⟩

/-- Spellings of bytes, side by side, spell the bytes. -/
theorem spellsBytes_flatten {bytes : List UInt8} {pairs : List (List Char)}
    (h : List.Forall₂ IsSpelling bytes pairs) : SpellsBytes pairs.flatten bytes := by
  induction h with
  | nil => exact .nil
  | cons hpair _ ih =>
    obtain ⟨high, low, rfl, hspells⟩ := hpair.exists_pair
    exact .cons hspells ih

/-- However bytes are spelled, with or without a mark and blanks around it, they are
read. -/
theorem parse_ofList {bytes : List UInt8} {pairs : List (List Char)}
    {before mark after : List Char} (hpairs : List.Forall₂ IsSpelling bytes pairs)
    (hbefore : ∀ c ∈ before, Blank.isBlank c = true)
    (hafter : ∀ c ∈ after, Blank.isBlank c = true) (hmark : IsMark mark) :
    parse (String.ofList (before ++ mark ++ pairs.flatten ++ after)) = .ok bytes := by
  have hdivides : Divides (before ++ mark ++ pairs.flatten ++ after) mark pairs.flatten bytes :=
    ⟨before, after, rfl, hbefore, hafter, hmark, spellsBytes_flatten hpairs⟩
  rw [← String.toList_ofList (l := before ++ mark ++ pairs.flatten ++ after)] at hdivides
  exact hdivides.parse_eq

/-- Bytes written in one way throughout are read. -/
theorem parse_ofList_flatMap {spelling : UInt8 → List Char}
    (h : ∀ b, IsSpelling b (spelling b)) (bytes : List UInt8) :
    parse (String.ofList (bytes.flatMap spelling)) = .ok bytes := by
  have hpairs : List.Forall₂ IsSpelling bytes (bytes.map spelling) :=
    List.forall₂_map_right_iff.2 (List.forall₂_same.2 fun b _ => h b)
  have hparse :
      parse (String.ofList ([] ++ [] ++ (bytes.map spelling).flatten ++ [])) = .ok bytes :=
    parse_ofList hpairs (by simp) (by simp) (.inl rfl)
  rwa [List.nil_append, List.nil_append, List.append_nil, ← List.flatMap_def] at hparse

/-! ## Main theorem -/

/-- Reading code text is following its grammar.

A text is read as some bytes exactly if it is made of blanks, a base mark if there is
one, one pair for each of the bytes, and blanks; a pair is the two digits of its byte
or, for a slot, the slot marker, in any case.  A text can be divided in one way only:
the mark is never taken for a pair, and no pair for the mark.  So bytes are read back
from every way of writing them: in lower case, which is how a code that was read is
written again, in upper case, with a base mark, with blanks around them, and with the
slot marker for slots. -/
theorem parse_follows_grammar :
    (∀ text bytes, parse text = .ok bytes ↔ Spells text bytes) ∧
    (∀ cs mark pairs bytes mark' pairs' bytes', Divides cs mark pairs bytes →
      Divides cs mark' pairs' bytes' → mark = mark' ∧ pairs = pairs' ∧ bytes = bytes') ∧
    (∀ bytes, parse (Hex.lower bytes) = .ok bytes ∧ parse (Hex.upper bytes) = .ok bytes) ∧
    (∀ bytes pairs before mark after, List.Forall₂ IsSpelling bytes pairs →
      (∀ c ∈ before, Blank.isBlank c = true) → (∀ c ∈ after, Blank.isBlank c = true) →
      IsMark mark →
      parse (String.ofList (before ++ mark ++ pairs.flatten ++ after)) = .ok bytes) := by
  refine ⟨fun text bytes => parse_eq_ok_iff, ?_, fun bytes => ⟨?_, ?_⟩, ?_⟩
  · intro cs mark pairs bytes mark' pairs' bytes' h h'
    obtain ⟨hmark, hpairs⟩ := h.unique h'
    rw [← String.toList_ofList (l := cs)] at h h'
    have hbytes : (Except.ok bytes : Except Fault (List UInt8)) = .ok bytes' :=
      h.parse_eq.symm.trans h'.parse_eq
    exact ⟨hmark, hpairs, by simpa using hbytes⟩
  · exact parse_ofList_flatMap (fun b => .inl rfl) bytes
  · exact parse_ofList_flatMap (fun b => .inr (.inl rfl)) bytes
  · intro bytes pairs before mark after hpairs hbefore hafter hmark
    exact parse_ofList hpairs hbefore hafter hmark

/-- A mark and a slot marker that share a letter are told apart, and the bytes are read
with blanks of several kinds around them. -/
theorem parse_of_mark_and_marker :
    Divides "0XXXcC".toList ['0', 'X'] ['X', 'X', 'c', 'C'] [0xCC, 0xCC] ∧
      (∀ mark pairs bytes, Divides "0XXXcC".toList mark pairs bytes → mark = ['0', 'X']) ∧
      parse (String.ofList ([' ', '\t'] ++ ['0', 'X'] ++ [['X', 'X'], ['0', 'a']].flatten ++
        [Char.ofNat 0x2003])) = .ok [0xCC, 0x0A] := by
  have hdivides : Divides "0XXXcC".toList ['0', 'X'] ['X', 'X', 'c', 'C'] [0xCC, 0xCC] :=
    ⟨[], [], rfl, by simp, by simp, .inr (.inr rfl),
      .cons (.inr ⟨rfl, rfl, rfl⟩) (.cons (.inl ⟨rfl, rfl⟩) .nil)⟩
  refine ⟨hdivides, ?_, ?_⟩
  · intro mark pairs bytes h
    exact (parse_follows_grammar.2.1 _ _ _ _ _ _ _ h hdivides).1
  · have hpairs : List.Forall₂ IsSpelling [0xCC, 0x0A] [['X', 'X'], ['0', 'a']] :=
      .cons (.inr (.inr ⟨rfl, rfl⟩)) (.cons (.inl rfl) .nil)
    have hbefore : ∀ c ∈ [' ', '\t'], Blank.isBlank c = true :=
      List.forall_mem_cons.2 ⟨by decide, List.forall_mem_singleton.2 (by decide)⟩
    have hafter : ∀ c ∈ [Char.ofNat 0x2003], Blank.isBlank c = true :=
      List.forall_mem_singleton.2 (by decide)
    exact parse_follows_grammar.2.2.2 _ _ _ _ _ hpairs hbefore hafter (.inr (.inr rfl))

end CodeText
end MakeTen
