import MakeTen.Proofs.Puzzle.Grammar
/-!
# Texts of solutions

A player's text is read by a reader of its own, which knows neither blanks nor a base
mark nor the slot marker.  It agrees with the reader of code text all the same: the texts
of solutions are those texts of six bytes that are read as code of three opcodes of
operators.  Each opcode takes two bytes of a code text, so that six bytes leave no room
for anything around the digits; and the digits of an opcode are decimal, so that letter
case leaves no choice either.

Main results:

- Theorem `Solution.ofText?_eq_some_iff`: the text of a solution is the one that is
  written for it.
- Theorem `CodeText.Divides.eq_pairs`: a text with two bytes for every byte that it spells
  is made of pairs alone.
- Theorem `Solution.eq_text_of_parse`: six bytes that are read as operators are written as
  a solution is.
- Theorem `Solution.readers_agree`: the two readers agree, and which texts are accepted.
-/

namespace MakeTen

/-! ## Operators in digits -/

namespace Operator

/-- The opcodes of the operators are the four numbers from one on. -/
theorem exists_byte_eq_iff {b : UInt8} : (∃ o : Operator, o.byte = b) ↔ b ∈ [1, 2, 3, 4] := by
  constructor
  · rintro ⟨o, rfl⟩
    cases o <;> decide
  · intro hb
    simp only [List.mem_cons, List.not_mem_nil, or_false] at hb
    rcases hb with rfl | rfl | rfl | rfl
    · exact ⟨.add, rfl⟩
    · exact ⟨.mul, rfl⟩
    · exact ⟨.sub, rfl⟩
    · exact ⟨.div, rfl⟩

/-- The bytes of the two digits of an operator. -/
theorem encode_lowerPair (o : Operator) :
    Utf8.encode (Hex.lowerPair o.byte) = [0x30, 0x30 + o.byte] := by
  cases o <;> decide +kernel

end Operator

namespace Solution

/-- The two digits of an operator are read as the operator. -/
theorem operator?_digits (o : Operator) : operator? 0x30 (0x30 + o.byte) = some o := by
  cases o <;> rfl

/-- The characters that are written for a solution. -/
theorem toList_text (s : Solution) :
    s.text.toList = Hex.lowerPair s.first.byte ++ Hex.lowerPair s.second.byte ++
      Hex.lowerPair s.third.byte := by
  rw [text, Hex.toList_lower]
  rfl

/-- Their bytes. -/
theorem encodeString_text (s : Solution) :
    Utf8.encodeString s.text =
      [0x30, 0x30 + s.first.byte, 0x30, 0x30 + s.second.byte, 0x30, 0x30 + s.third.byte] := by
  rw [Utf8.encodeString, toList_text]
  simp only [Utf8.encode_append, Operator.encode_lowerPair, List.cons_append, List.nil_append]

/-- What is written for a solution is read as the solution. -/
theorem ofText?_text (s : Solution) : ofText? s.text = some s := by
  rw [ofText?, encodeString_text]
  simp only [operator?_digits]
  rfl

/-- The text of a solution is the one that is written for it. -/
theorem ofText?_eq_some_iff {raw : String} {s : Solution} :
    ofText? raw = some s ↔ raw = s.text := by
  constructor
  · intro h
    exact (text_of_ofText? h).symm
  · rintro rfl
    exact ofText?_text s

/-- The bytes of a solution are opcodes of operators, and any three of these are the
bytes of a solution. -/
theorem exists_bytes_eq_iff {b₀ b₁ b₂ : UInt8} :
    (∃ s : Solution, s.bytes = [b₀, b₁, b₂]) ↔ ∀ b ∈ [b₀, b₁, b₂], b ∈ [1, 2, 3, 4] := by
  simp only [List.forall_mem_cons]
  constructor
  · rintro ⟨s, hs⟩
    injection hs with hfirst hs
    injection hs with hsecond hs
    injection hs with hthird _
    exact ⟨Operator.exists_byte_eq_iff.1 ⟨_, hfirst⟩, Operator.exists_byte_eq_iff.1 ⟨_, hsecond⟩,
      Operator.exists_byte_eq_iff.1 ⟨_, hthird⟩, List.forall_mem_nil _⟩
  · rintro ⟨h₀, h₁, h₂, _⟩
    obtain ⟨first, rfl⟩ := Operator.exists_byte_eq_iff.2 h₀
    obtain ⟨second, rfl⟩ := Operator.exists_byte_eq_iff.2 h₁
    obtain ⟨third, rfl⟩ := Operator.exists_byte_eq_iff.2 h₂
    exact ⟨⟨first, second, third⟩, rfl⟩

end Solution

/-! ## Code texts without anything around the digits -/

namespace CodeText

/-- A text with two bytes for every byte that it spells is made of pairs alone. -/
theorem Divides.eq_pairs {cs mark pairs : List Char} {bytes : List UInt8}
    (h : Divides cs mark pairs bytes) (hlength : (Utf8.encode cs).length = 2 * bytes.length) :
    cs = pairs := by
  have hpairs := (readPairs_of_spellsBytes h.spellsBytes 0).2
  obtain ⟨before, after, rfl, _⟩ := h
  simp only [Utf8.encode_append, List.length_append] at hlength
  obtain rfl : before = [] :=
    Utf8.eq_nil_of_encode_eq_nil (List.length_eq_zero_iff.1 (by omega))
  obtain rfl : mark = [] :=
    Utf8.eq_nil_of_encode_eq_nil (List.length_eq_zero_iff.1 (by omega))
  obtain rfl : after = [] :=
    Utf8.eq_nil_of_encode_eq_nil (List.length_eq_zero_iff.1 (by omega))
  rw [List.append_nil, List.nil_append, List.nil_append]

/-- A decimal digit has no case. -/
theorem eq_of_toLower_eq {c : Char} {n : Nat} (hn : n < 10)
    (h : c.toLower = Hex.lowerDigit n) : c = Hex.lowerDigit n := by
  have table : ∀ (m : Fin 128) (n : Fin 10), (Char.ofNat m).toLower = Hex.lowerDigit n →
      Char.ofNat m = Hex.lowerDigit n := by
    decide +kernel
  obtain ⟨m, rfl⟩ := exists_ofNat_eq (IsLetter.toNat_lt (.inl ⟨n, by omega, h⟩))
  exact table m ⟨n, hn⟩ h

/-- A pair that spells an operator is the pair of digits that is written for it. -/
theorem SpellsByte.eq_lowerPair {high low : Char} {o : Operator}
    (h : SpellsByte high low o.byte) : [high, low] = Hex.lowerPair o.byte := by
  rcases h with ⟨hhigh, hlow⟩ | ⟨hplaceholder, _⟩
  · have hsmall : o.byte.toNat ≤ 4 := by cases o <;> decide
    rw [eq_of_toLower_eq (by omega) hhigh, eq_of_toLower_eq (by omega) hlow]
    rfl
  · exact absurd hplaceholder o.byte_ne_placeholder

/-- Pairs that spell operators are what is written for them. -/
theorem SpellsBytes.eq_flatMap_lowerPair {operators : List Operator} {cs : List Char}
    (h : SpellsBytes cs (operators.map Operator.byte)) :
    cs = (operators.map Operator.byte).flatMap Hex.lowerPair := by
  induction operators generalizing cs with
  | nil =>
    cases h with
    | nil => rfl
  | cons o operators ih =>
    cases h with
    | @cons high low _ cs _ hpair hrest =>
      rw [List.map_cons, List.flatMap_cons, ← hpair.eq_lowerPair, ← ih hrest]
      rfl

end CodeText

/-! ## Main theorem -/

namespace Solution

/-- A solution is read as its bytes where code is expected. -/
theorem parse_text (s : Solution) : CodeText.parse s.text = .ok s.bytes :=
  CodeText.parse_ofList_flatMap (fun _ => .inl rfl) s.bytes

/-- Six bytes that are read as operators where code is expected are written as the
solution is. -/
theorem eq_text_of_parse {raw : String} {s : Solution}
    (hlength : (Utf8.encodeString raw).length = 6) (hparse : CodeText.parse raw = .ok s.bytes) :
    raw = s.text := by
  obtain ⟨mark, pairs, hdivides⟩ := CodeText.exists_divides_of_parse hparse
  have hraw : raw.toList = pairs := hdivides.eq_pairs hlength
  have hpairs : pairs = s.bytes.flatMap Hex.lowerPair := hdivides.spellsBytes.eq_flatMap_lowerPair
  rw [text, Hex.lower, ← hpairs, ← hraw, String.ofList_toList]

/-- What is written for a solution are digits up to four. -/
theorem toList_text_subset (s : Solution) : s.text.toList ⊆ ['0', '1', '2', '3', '4'] := by
  have hdigits : ∀ o : Operator, Hex.lowerPair o.byte ⊆ ['0', '1', '2', '3', '4'] := by
    intro o
    cases o <;> decide
  rw [toList_text, List.append_subset, List.append_subset]
  exact ⟨⟨hdigits _, hdigits _⟩, hdigits _⟩

/-- The reader of solutions and the reader of code text agree.

A text is read as a solution with some bytes exactly if it has six bytes in all and is
read as these three where code is expected, each of them the opcode of an operator.  What
is written for the solution is that text, and what is written for any solution is read
as that solution, so that the texts that are accepted are those that are written.  They
are made of the digits up to four alone: there is no room in them for a base mark, for
blanks, for the slot marker or for a longer character. -/
theorem readers_agree :
    (∀ (raw : String) (b₀ b₁ b₂ : UInt8),
      (∃ s, ofText? raw = some s ∧ s.bytes = [b₀, b₁, b₂]) ↔
        (Utf8.encodeString raw).length = 6 ∧ CodeText.parse raw = .ok [b₀, b₁, b₂] ∧
          ∀ b ∈ [b₀, b₁, b₂], b ∈ [1, 2, 3, 4]) ∧
    (∀ raw s, ofText? raw = some s → CodeText.parse raw = .ok s.bytes ∧ s.text = raw) ∧
    (∀ s : Solution, ofText? s.text = some s) ∧
    (∀ raw s, ofText? raw = some s → ∀ c ∈ raw.toList, c ∈ ['0', '1', '2', '3', '4']) := by
  refine ⟨?_, ?_, ofText?_text, ?_⟩
  · intro raw b₀ b₁ b₂
    constructor
    · rintro ⟨s, hs, hbytes⟩
      obtain rfl := ofText?_eq_some_iff.1 hs
      refine ⟨by rw [encodeString_text]; rfl, ?_, exists_bytes_eq_iff.1 ⟨s, hbytes⟩⟩
      rw [← hbytes]
      exact s.parse_text
    · rintro ⟨hlength, hparse, hoperators⟩
      obtain ⟨s, hbytes⟩ := exists_bytes_eq_iff.2 hoperators
      rw [← hbytes] at hparse
      exact ⟨s, ofText?_eq_some_iff.2 (eq_text_of_parse hlength hparse), hbytes⟩
  · intro raw s hs
    obtain rfl := ofText?_eq_some_iff.1 hs
    exact ⟨s.parse_text, rfl⟩
  · intro raw s hs
    obtain rfl := ofText?_eq_some_iff.1 hs
    exact fun c hc => s.toList_text_subset hc

/-- Six digits are accepted and written again; six bytes with a base mark, which are read
as the code of two operators, are not accepted, and neither are six bytes with a slot
marker. -/
theorem readers_agree_on_samples :
    (∃ s, ofText? "040201" = some s ∧ s.bytes = [4, 2, 1]) ∧
      ofText? "040201" = some ⟨.div, .mul, .add⟩ ∧
      CodeText.parse "040201" = .ok (bytes ⟨.div, .mul, .add⟩) ∧
      text ⟨.div, .mul, .add⟩ = "040201" ∧
      CodeText.parse "0x0102" = .ok [1, 2] ∧ ofText? "0x0102" = none ∧
      CodeText.parse "01XX02" = .ok [1, 0xCC, 2] ∧ ofText? "01XX02" = none := by
  have hread : ofText? "040201" = some ⟨.div, .mul, .add⟩ := rfl
  obtain ⟨hcode, hwritten⟩ := readers_agree.2.1 _ _ hread
  have hrefused : ∀ raw : String, 'x' ∈ raw.toList ∨ 'X' ∈ raw.toList → ofText? raw = none := by
    intro raw hletter
    by_contra hsome
    obtain ⟨s, hs⟩ := Option.ne_none_iff_exists'.1 hsome
    rcases hletter with hletter | hletter
    · exact absurd (readers_agree.2.2.2 raw s hs _ hletter) (by decide)
    · exact absurd (readers_agree.2.2.2 raw s hs _ hletter) (by decide)
  refine ⟨?_, hread, hcode, hwritten, rfl, hrefused _ (.inl (by decide)), rfl,
    hrefused _ (.inr (by decide))⟩
  exact (readers_agree.1 "040201" 4 2 1).2 ⟨rfl, hcode, by simp⟩

end Solution
end MakeTen
