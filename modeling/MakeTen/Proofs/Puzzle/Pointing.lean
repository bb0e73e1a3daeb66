import MakeTen.Proofs.Puzzle.Acceptance
import MakeTen.Proofs.Puzzle.Corpora
import MakeTen.Proofs.Puzzle.Misspelling
/-!
# Where a fault points

A fault is reported at an offset, and the reader looks for it in the text that was given.
The offset is counted from behind the blanks in front of the text, though the base mark is
counted, and it is counted in bytes.  The bytes in front of a bad digit are characters by
themselves, so that for bad digits the blanks alone make a difference: the character that
goes wrong stands as far behind the offset as there are blanks in front of the text.

The byte that is quoted is the first of this character, shown as the character of the same
number.  This is the character itself if it is small, and in one other case: the only longer
character whose first byte is its own number is `Ã`.

Main results:

- Relation `CodeText.GoesWrong`: the first character that cannot be read in pairs.
- Relation `CodeText.Offends`: this character and its offset in a whole text.
- Predicate `CodeText.Points`: a fault points at what is wrong in the text.
- Theorem `CodeText.exists_goesWrong_of_readPairs`: reading pairs of bytes fails at the first
  character that cannot be read.
- Theorem `CodeText.ofNat_firstByte_eq_iff`: which characters are quoted as themselves.
- Theorem `CodeText.points_iff_flush_left`: which faults point at what is wrong.
-/

namespace MakeTen

/-! ## First bytes -/

namespace Utf8

/-- The first byte of a text is that of its first character. -/
theorem exists_firstByte {cs : List Char} {b : UInt8} {rest : List UInt8}
    (h : encode cs = b :: rest) :
    ∃ c tail more, cs = c :: tail ∧ String.utf8EncodeChar c = b :: more := by
  cases cs with
  | nil => simp at h
  | cons c tail =>
    obtain ⟨first, more, hc⟩ := List.exists_cons_of_ne_nil (String.utf8EncodeChar_ne_nil (c := c))
    rw [encode_cons, hc, List.cons_append, List.cons_eq_cons] at h
    exact ⟨c, tail, more, rfl, h.1 ▸ hc⟩

/-- The byte of a small character is its number. -/
theorem eq_ofNat_of_utf8EncodeChar {c : Char} {b : UInt8} {more : List UInt8}
    (h : String.utf8EncodeChar c = b :: more) (hc : c.toNat < 128) : b = UInt8.ofNat c.toNat := by
  have hsmall := encode_cons_of_lt hc []
  rw [encode_cons, h, List.cons_append, List.cons_eq_cons] at hsmall
  exact hsmall.1

/-- Small characters take a byte each. -/
theorem length_encode_of_small {cs : List Char} (h : ∀ c ∈ cs, c.toNat < 128) :
    (encode cs).length = cs.length := by
  induction cs with
  | nil => rfl
  | cons c cs ih =>
    rw [List.forall_mem_cons] at h
    rw [encode_cons_of_lt h.1, List.length_cons, List.length_cons, ih h.2]

end Utf8

namespace CodeText

/-- The first byte of a character is shown as the character itself if this is small, or if
it is `Ã`. -/
theorem ofNat_firstByte_eq_iff {c : Char} {b : UInt8} {more : List UInt8}
    (h : String.utf8EncodeChar c = b :: more) :
    Char.ofNat b.toNat = c ↔ c.toNat < 128 ∨ c = 'Ã' := by
  have hnumber : b.toNat = c.toNat ↔ c.toNat < 128 ∨ c.toNat = 195 := by
    simp only [String.utf8EncodeChar, Char.toNat_val] at h
    split at h
    · obtain ⟨rfl, -⟩ := List.cons_eq_cons.1 h
      rw [UInt8.toNat_ofNat']
      omega
    · split at h
      · obtain ⟨rfl, -⟩ := List.cons_eq_cons.1 h
        have hbits : c.toNat / 64 % 32 = c.toNat / 64 := Nat.mod_eq_of_lt (by omega)
        rw [UInt8.toNat_ofNat', hbits, Nat.mod_eq_of_lt (by omega)]
        omega
      · split at h
        · obtain ⟨rfl, -⟩ := List.cons_eq_cons.1 h
          rw [UInt8.toNat_ofNat']
          omega
        · obtain ⟨rfl, -⟩ := List.cons_eq_cons.1 h
          rw [UInt8.toNat_ofNat']
          omega
  rw [← Char.toNat_inj, toNat_ofNat_byte, hnumber, ← Char.toNat_inj]
  rfl

/-! ## The first character that cannot be read -/

/-- The character is a hexadecimal digit in either case. -/
def IsHexDigit (c : Char) : Prop :=
  c ∈ "0123456789abcdefABCDEF".toList

instance (c : Char) : Decidable (IsHexDigit c) :=
  inferInstanceAs (Decidable (_ ∈ _))

/-- The character is the letter of the slot marker in either case. -/
def IsMarkerLetter (c : Char) : Prop :=
  c = 'X' ∨ c = 'x'

/-- Two characters that are read as a pair: two digits, or a slot marker. -/
def IsPair (x y : Char) : Prop :=
  (IsHexDigit x ∧ IsHexDigit y) ∨ (IsMarkerLetter x ∧ IsMarkerLetter y)

/-- When characters are read in pairs from the left, the first that cannot be read stands
at an offset: it is no digit, and it is not in a slot marker. -/
inductive GoesWrong : List Char → Nat → Char → Prop where
  | first {c : Char} {rest : List Char} (hdigit : ¬ IsHexDigit c)
      (hmarker : IsMarkerLetter c → ∀ d ∈ rest.head?, ¬ IsMarkerLetter d) :
      GoesWrong (c :: rest) 0 c
  | second {d c : Char} {rest : List Char} (hd : IsHexDigit d) (hdigit : ¬ IsHexDigit c) :
      GoesWrong (d :: c :: rest) 1 c
  | later {x y c : Char} {rest : List Char} {k : Nat} (hpair : IsPair x y)
      (hrest : GoesWrong rest k c) : GoesWrong (x :: y :: rest) (k + 2) c

/-- The letter of the slot marker is no digit. -/
theorem IsMarkerLetter.not_isHexDigit {c : Char} (h : IsMarkerLetter c) : ¬ IsHexDigit c := by
  rcases h with rfl | rfl
  · decide
  · decide

/-- The character stands at the offset. -/
theorem GoesWrong.getElem?_eq {cs : List Char} {k : Nat} {c : Char} (h : GoesWrong cs k c) :
    cs[k]? = some c := by
  induction h with
  | first => rfl
  | second => rfl
  | later _ _ ih => exact ih

/-- There is one first character that cannot be read. -/
theorem GoesWrong.unique {cs : List Char} {j k : Nat} {c d : Char} (h : GoesWrong cs j c)
    (h' : GoesWrong cs k d) : j = k ∧ c = d := by
  -- A pair that is read cannot begin or end with a character that goes wrong.
  have hfirst : ∀ {x y : Char} {rest : List Char}, ¬ IsHexDigit x →
      (IsMarkerLetter x → ∀ d ∈ (y :: rest).head?, ¬ IsMarkerLetter d) → ¬ IsPair x y := by
    rintro x y rest hdigit hmarker (⟨hx, -⟩ | ⟨hx, hy⟩)
    · exact hdigit hx
    · exact hmarker hx y rfl hy
  have hsecond : ∀ {x y : Char}, IsHexDigit x → ¬ IsHexDigit y → ¬ IsPair x y := by
    rintro x y hx hdigit (⟨-, hy⟩ | ⟨hx', -⟩)
    · exact hdigit hy
    · exact hx'.not_isHexDigit hx
  induction h generalizing k with
  | first hdigit hmarker =>
    cases h' with
    | first => exact ⟨rfl, rfl⟩
    | second hd => exact absurd hd hdigit
    | later hpair => exact absurd hpair (hfirst hdigit hmarker)
  | second hd hdigit =>
    cases h' with
    | first hdigit' => exact absurd hd hdigit'
    | second => exact ⟨rfl, rfl⟩
    | later hpair => exact absurd hpair (hsecond hd hdigit)
  | later hpair _ ih =>
    cases h' with
    | first hdigit hmarker => exact absurd hpair (hfirst hdigit hmarker)
    | second hd hdigit => exact absurd hpair (hsecond hd hdigit)
    | later _ hrest =>
      obtain ⟨rfl, rfl⟩ := ih hrest
      exact ⟨rfl, rfl⟩

/-! ## Reading pairs of bytes -/

/-- What a byte with a value is shown as is a digit. -/
theorem isHexDigit_of_digitValue? {b v : UInt8} (h : Hex.digitValue? b = some v) :
    IsHexDigit (Char.ofNat b.toNat) := by
  have hdigit : IsDigit b := by
    rw [(isDigit_table b).1, h]
    exact Option.some_ne_none v
  exact hdigit

/-- A character whose first byte has no value is no digit. -/
theorem not_isHexDigit_of_firstByte {c : Char} {b : UInt8} {more : List UInt8}
    (hc : String.utf8EncodeChar c = b :: more) (h : Hex.digitValue? b = none) :
    ¬ IsHexDigit c := by
  intro hdigit
  have table : ("0123456789abcdefABCDEF".toList.all fun d =>
      d.toNat < 128 ∧ Hex.digitValue? (UInt8.ofNat d.toNat) ≠ none) = true := by decide
  obtain ⟨hsmall, hvalue⟩ := of_decide_eq_true (List.all_eq_true.1 table c hdigit)
  rw [← Utf8.eq_ofNat_of_utf8EncodeChar hc hsmall] at hvalue
  exact hvalue h

/-- The first byte of a marker letter is this letter, and the only one. -/
theorem isMarker_of_firstByte {c : Char} {b : UInt8} {more : List UInt8}
    (hc : String.utf8EncodeChar c = b :: more) (h : IsMarkerLetter c) : isMarker b = true := by
  rcases h with rfl | rfl
  · obtain rfl := Utf8.eq_ofNat_of_utf8EncodeChar hc (by decide)
    rfl
  · obtain rfl := Utf8.eq_ofNat_of_utf8EncodeChar hc (by decide)
    rfl

/-- What a byte of a slot marker is shown as is its letter. -/
theorem isMarkerLetter_of_isMarker {b : UInt8} (h : isMarker b = true) :
    IsMarkerLetter (Char.ofNat b.toNat) := by
  simp only [isMarker, Bool.or_eq_true, beq_iff_eq] at h
  rcases h with rfl | rfl
  · exact .inl rfl
  · exact .inr rfl

/-- Two bytes that are read are shown as a pair. -/
theorem isPair_of_readPair {position : Nat} {high low b : UInt8}
    (h : readPair position high low = .ok b) :
    IsPair (Char.ofNat high.toNat) (Char.ofNat low.toNat) := by
  unfold readPair at h
  split at h
  · rename_i hmarker
    rw [Bool.and_eq_true] at hmarker
    exact .inr ⟨isMarkerLetter_of_isMarker hmarker.1, isMarkerLetter_of_isMarker hmarker.2⟩
  · split at h
    · simp at h
    · rename_i u hu
      split at h
      · simp at h
      · rename_i v hv
        exact .inl ⟨isHexDigit_of_digitValue? hu, isHexDigit_of_digitValue? hv⟩

/-- Two bytes that are not read: the first of them begins the character that goes wrong, or
it is a digit and the second does. -/
theorem exists_goesWrong_of_readPair {position : Nat} {high low : UInt8} {rest : List UInt8}
    {cs : List Char} {fault : Fault} (hcs : Utf8.encode cs = high :: low :: rest)
    (h : readPair position high low = .error fault) :
    ∃ k b c more, fault = ⟨position + k, .badDigit b⟩ ∧ GoesWrong cs k c ∧
      String.utf8EncodeChar c = b :: more := by
  unfold readPair at h
  split at h
  · simp at h
  · rename_i hmarker
    split at h
    · rename_i hhigh
      obtain rfl : ⟨position, .badDigit high⟩ = fault := by simpa using h
      obtain ⟨c, tail, more, rfl, hc⟩ := Utf8.exists_firstByte hcs
      refine ⟨0, high, c, more, rfl, .first (not_isHexDigit_of_firstByte hc hhigh) ?_, hc⟩
      intro hletter d hd hletter'
      -- Both letters are small, so that the two bytes are theirs and make a marker.
      have hsmall : high.toNat < 128 :=
        (toLower_of_isMarker (isMarker_of_firstByte hc hletter)).1
      obtain ⟨tail', heq, htail⟩ := Utf8.exists_of_encode_eq_cons hcs hsmall
      obtain rfl : tail = tail' := (List.cons_eq_cons.1 heq).2
      obtain ⟨e, _, more', rfl, he⟩ := Utf8.exists_firstByte htail
      obtain rfl : e = d := Option.some.inj hd
      refine hmarker ?_
      rw [isMarker_of_firstByte hc hletter, isMarker_of_firstByte he hletter']
      rfl
    · rename_i u hu
      split at h
      · rename_i hlow
        obtain rfl : ⟨position + 1, .badDigit low⟩ = fault := by simpa using h
        obtain ⟨tail, rfl, htail⟩ :=
          Utf8.exists_of_encode_eq_cons hcs (Hex.lowerDigit_of_digitValue? hu).1
        obtain ⟨c, tail', more, rfl, hc⟩ := Utf8.exists_firstByte htail
        exact ⟨1, low, c, more, rfl,
          .second (isHexDigit_of_digitValue? hu) (not_isHexDigit_of_firstByte hc hlow), hc⟩
      · simp at h

/-- Reading pairs of bytes fails at the first character that cannot be read, and reports the
first byte of this character. -/
theorem exists_goesWrong_of_readPairs {position : Nat} {digits : List UInt8} {cs : List Char}
    {fault : Fault} (hcs : Utf8.encode cs = digits)
    (h : readPairs position digits = .error fault) :
    ∃ k b c more, fault = ⟨position + k, .badDigit b⟩ ∧ GoesWrong cs k c ∧
      String.utf8EncodeChar c = b :: more := by
  fun_induction readPairs position digits generalizing cs with
  | case1 position high low rest other hpair =>
    obtain rfl : other = fault := by simpa using h
    exact exists_goesWrong_of_readPair hcs hpair
  | case2 position high low rest b hpair other hrest ih =>
    obtain rfl : other = fault := by simpa using h
    -- Both bytes are small, so that the pair is two characters and the rest starts with one.
    obtain ⟨hhigh, hlow, -⟩ := spellsByte_of_readPair hpair
    obtain ⟨tail, rfl, htail⟩ := Utf8.exists_of_encode_eq_cons hcs hhigh
    obtain ⟨tail', rfl, htail'⟩ := Utf8.exists_of_encode_eq_cons htail hlow
    obtain ⟨k, b', c, more, rfl, hwrong, hc⟩ := ih htail' hrest
    refine ⟨k + 2, b', c, more, ?_, .later (isPair_of_readPair hpair) hwrong, hc⟩
    rw [Nat.add_assoc, Nat.add_comm 2 k]
  | case3 => simp at h
  | case4 => simp at h

/-! ## Whole texts -/

/-- Number of blanks in front of a text. -/
def indent (text : String) : Nat :=
  (text.toList.takeWhile Blank.isBlank).length

/-- The characters between the blanks stand as far into the text as it is indented. -/
theorem getElem?_indent_add {text : String} {j : Nat}
    (h : j < (Blank.trim text.toList).length) :
    text.toList[indent text + j]? = (Blank.trim text.toList)[j]? := by
  obtain ⟨after, htext, -⟩ := Blank.exists_eq_takeWhile_append_trim text.toList
  calc
    text.toList[indent text + j]? =
        (text.toList.takeWhile Blank.isBlank ++ (Blank.trim text.toList ++ after))[
          indent text + j]? := by rw [← List.append_assoc, ← htext]
    _ = (Blank.trim text.toList)[j]? := by
      rw [indent, List.getElem?_append_right (Nat.le_add_right _ _), Nat.add_sub_cancel_left,
        List.getElem?_append_left h]

/-- At an offset of the whole text stands the first character that cannot be read, when the
characters behind the blanks in front of the text and behind the base mark are read in
pairs. -/
def Offends (text : String) (offset : Nat) (c : Char) : Prop :=
  ∃ k, offset = indent text + (baseMarkLength (Blank.trim text.toList) + k) ∧
    GoesWrong (core text) k c

/-- The character stands at the offset. -/
theorem Offends.getElem?_eq {text : String} {offset : Nat} {c : Char}
    (h : Offends text offset c) : text.toList[offset]? = some c := by
  obtain ⟨k, rfl, hwrong⟩ := h
  have hcore : (Blank.trim text.toList)[baseMarkLength (Blank.trim text.toList) + k]? =
      some c := by
    rw [← List.getElem?_drop]
    exact hwrong.getElem?_eq
  obtain ⟨hlt, -⟩ := List.getElem?_eq_some_iff.1 hcore
  rw [getElem?_indent_add hlt, hcore]

/-- There is one such character. -/
theorem Offends.unique {text : String} {j k : Nat} {c d : Char} (h : Offends text j c)
    (h' : Offends text k d) : j = k ∧ c = d := by
  obtain ⟨_, rfl, hwrong⟩ := h
  obtain ⟨_, rfl, hwrong'⟩ := h'
  obtain ⟨rfl, rfl⟩ := hwrong.unique hwrong'
  exact ⟨rfl, rfl⟩

/-- A fault points at what is wrong in the text: its offset is one of the text, and if a
digit is bad, the character that cannot be read stands there and is quoted. -/
structure Points (text : String) (fault : Fault) : Prop where
  position_le : fault.position ≤ text.length
  /-- What is quoted stands at the offset, and is the first character that cannot be read. -/
  offends : ∀ b, fault.cause = .badDigit b → Offends text fault.position (Char.ofNat b.toNat)

/-- A bad digit is the first byte of the character that cannot be read, which stands behind
the offset by as much as the text is indented. -/
theorem exists_offends_of_parse {text : String} {position : Nat} {b : UInt8}
    (h : parse text = .error ⟨position, .badDigit b⟩) :
    ∃ c more, Offends text (indent text + position) c ∧ String.utf8EncodeChar c = b :: more := by
  simp only [parse, parseTrimmed] at h
  split at h
  · simp at h
  · have hcore : Utf8.encode (core text) = _ := rfl
    obtain ⟨k, b', c, more, hfault, hwrong, hc⟩ := exists_goesWrong_of_readPairs hcore h
    obtain ⟨rfl, rfl⟩ : position = _ + k ∧ b = b' := by simpa using hfault
    exact ⟨c, more, ⟨k, rfl, hwrong⟩, hc⟩

/-- A missing digit is reported at the number of bytes of the text without the blanks around
it. -/
theorem position_of_oddLength {text : String} {position : Nat}
    (h : parse text = .error ⟨position, .oddLength⟩) :
    position = (trimmedBytes text).length := by
  rcases Nat.mod_two_eq_zero_or_one
    ((trimmedBytes text).length - baseMarkBytes (trimmedBytes text)) with heven | hodd
  · obtain ⟨_, _, hfault, -⟩ := (parse_eq_error_iff_of_even heven).1 h
    simp at hfault
  · rw [parse_of_odd hodd] at h
    simpa using h.symm

/-- A bad digit is pointed at if the text is not indented and the character is quoted as
itself. -/
theorem points_badDigit_iff {text : String} {position : Nat} {b : UInt8} {c : Char}
    {more : List UInt8} (hoffends : Offends text (indent text + position) c)
    (hc : String.utf8EncodeChar c = b :: more) :
    Points text ⟨position, .badDigit b⟩ ↔ indent text = 0 ∧ (c.toNat < 128 ∨ c = 'Ã') := by
  rw [← ofNat_firstByte_eq_iff hc]
  constructor
  · intro hpoints
    obtain ⟨hposition, hquoted⟩ := (hpoints.offends b rfl).unique hoffends
    change position = _ at hposition
    exact ⟨by omega, hquoted⟩
  · rintro ⟨hindent, hquoted⟩
    rw [hindent, Nat.zero_add] at hoffends
    refine ⟨?_, ?_⟩
    · obtain ⟨hlt, -⟩ := List.getElem?_eq_some_iff.1 hoffends.getElem?_eq
      rw [String.length_toList] at hlt
      exact Nat.le_of_lt hlt
    · intro b' hb'
      obtain rfl : b = b' := by simpa using hb'
      rwa [hquoted]

/-- A missing digit is pointed at if the text has as many characters as are bytes between
its blanks. -/
theorem points_oddLength_iff {text : String} {position : Nat}
    (h : parse text = .error ⟨position, .oddLength⟩) :
    Points text ⟨position, .oddLength⟩ ↔ (trimmedBytes text).length ≤ text.length := by
  rw [← position_of_oddLength h]
  constructor
  · exact fun hpoints => hpoints.position_le
  · exact fun hle => ⟨hle, fun b hb => by simp at hb⟩

/-- Faults of small texts that are not indented point at what is wrong. -/
theorem points_of_small {text : String} {fault : Fault} (hsmall : ∀ c ∈ text.toList, c.toNat < 128)
    (hindent : indent text = 0) (h : parse text = .error fault) : Points text fault := by
  obtain ⟨position, cause⟩ := fault
  cases cause with
  | oddLength =>
    obtain ⟨after, htext, -⟩ := Blank.exists_eq_takeWhile_append_trim text.toList
    have htrim : ∀ c ∈ Blank.trim text.toList, c.toNat < 128 := by
      intro c hc
      apply hsmall
      rw [htext]
      exact List.mem_append_left _ (List.mem_append_right _ hc)
    have hlength := congrArg List.length htext
    rw [points_oddLength_iff h, trimmedBytes, Utf8.length_encode_of_small htrim,
      ← String.length_toList]
    rw [List.length_append, List.length_append] at hlength
    omega
  | badDigit b =>
    obtain ⟨c, more, hoffends, hc⟩ := exists_offends_of_parse h
    rw [points_badDigit_iff hoffends hc]
    exact ⟨hindent, .inl (hsmall c (List.mem_of_getElem? hoffends.getElem?_eq))⟩

end CodeText

/-! ## Templates and corpora -/

/-- A template reports the faults of its text as they are. -/
theorem Template.ofText_eq_malformedHex_iff {id : Nat} {text : String} {fault : CodeText.Fault} :
    ofText id text = .error (.malformedHex fault) ↔ CodeText.parse text = .error fault := by
  unfold ofText
  cases hparse : CodeText.parse text with
  | error other => simp
  | ok code =>
    simp only [reduceCtorEq, iff_false]
    intro hcode
    cases ofCode_eq_error_iff.1 hcode

/-- So does a corpus for one of its texts. -/
theorem Corpus.exists_parse_of_malformedHex {texts : List String} {index : Nat}
    {fault : CodeText.Fault}
    (h : ofTexts texts = .error (.template index (.malformedHex fault))) :
    ∃ text, texts[index]? = some text ∧ CodeText.parse text = .error fault := by
  rcases ofTexts_eq_error_iff.1 h with ⟨-, hfault⟩ | ⟨-, hread⟩
  · simp at hfault
  · obtain ⟨before, text, after, cause, rfl, hfault, hcause, -⟩ :=
      readTemplates_eq_error_iff.1 hread
    obtain ⟨rfl, rfl⟩ : index = before.length ∧ .malformedHex fault = cause := by
      simpa using hfault
    exact ⟨text, by simp, Template.ofText_eq_malformedHex_iff.1 hcause⟩

namespace CodeText

/-! ## Main theorem -/

/-- A bad digit is pointed at exactly if the text is not indented and the character is quoted
as itself.

The byte that is reported as a bad digit is the first of the character that cannot be read,
and this stands behind the offset that is reported by as many places as blanks stand in front
of the text.  So the fault points at it if there are none, provided that the byte is shown as
the character that it begins: that is a small character, or `Ã`.  A missing digit is reported
at the number of bytes between the blanks, which is an offset of the text if it is not more
than the number of its characters.  Faults of texts of small characters that are not indented
all point at what is wrong.  Templates report the faults of their texts, and corpora those of
the text that they name. -/
theorem points_iff_flush_left (text : String) :
    (∀ offset c, Offends text offset c → text.toList[offset]? = some c) ∧
    (∀ position b, parse text = .error ⟨position, .badDigit b⟩ →
      ∃ c more, Offends text (indent text + position) c ∧ String.utf8EncodeChar c = b :: more ∧
        (Points text ⟨position, .badDigit b⟩ ↔ indent text = 0 ∧ (c.toNat < 128 ∨ c = 'Ã'))) ∧
    (∀ position, parse text = .error ⟨position, .oddLength⟩ →
      position = (Utf8.encode (Blank.trim text.toList)).length ∧
        (Points text ⟨position, .oddLength⟩ ↔
          (Utf8.encode (Blank.trim text.toList)).length ≤ text.length)) ∧
    ((∀ c ∈ text.toList, c.toNat < 128) → indent text = 0 →
      ∀ fault, parse text = .error fault → Points text fault) ∧
    (∀ id fault, Template.ofText id text = .error (.malformedHex fault) ↔
      parse text = .error fault) ∧
    ∀ texts index fault, texts[index]? = some text →
      Corpus.ofTexts texts = .error (.template index (.malformedHex fault)) →
        parse text = .error fault := by
  refine ⟨fun offset c h => h.getElem?_eq, ?_,
    fun position h => ⟨position_of_oddLength h, points_oddLength_iff h⟩,
    fun hsmall hindent fault => points_of_small hsmall hindent,
    fun id fault => Template.ofText_eq_malformedHex_iff, ?_⟩
  · intro position b h
    obtain ⟨c, more, hoffends, hc⟩ := exists_offends_of_parse h
    exact ⟨c, more, hoffends, hc, points_badDigit_iff hoffends hc⟩
  · intro texts index fault htext h
    obtain ⟨other, hother, hparse⟩ := Corpus.exists_parse_of_malformedHex h
    obtain rfl : other = text := Option.some.inj (hother.symm.trans htext)
    exact hparse

/-- Behind a base mark a bad digit is pointed at, as the base mark is counted. -/
theorem points_behind_base_mark :
    parse "0x60g1" = .error ⟨4, .badDigit 0x67⟩ ∧ indent "0x60g1" = 0 ∧
      Points "0x60g1" ⟨4, .badDigit 0x67⟩ := by
  have hparse : parse "0x60g1" = .error ⟨4, .badDigit 0x67⟩ := rfl
  obtain ⟨-, -, -, hsmall, -⟩ := points_iff_flush_left "0x60g1"
  exact ⟨hparse, rfl, hsmall (by simp) rfl _ hparse⟩

/-- Behind blanks a bad digit is not pointed at: a digit stands at the offset.  Neither is a
longer character, of which a byte is quoted, and the end of a text with longer characters is
reported behind its end. -/
theorem bad_digit_behind_blanks_is_not_pointed_at :
    (parse "  60g1" = .error ⟨2, .badDigit 0x67⟩ ∧ ¬ Points "  60g1" ⟨2, .badDigit 0x67⟩) ∧
      (parse "6é1" = .error ⟨1, .badDigit 0xC3⟩ ∧ ¬ Points "6é1" ⟨1, .badDigit 0xC3⟩) ∧
      parse "éé6" = .error ⟨5, .oddLength⟩ ∧ ¬ Points "éé6" ⟨5, .oddLength⟩ := by
  refine ⟨⟨rfl, fun h => ?_⟩, ⟨rfl, fun h => ?_⟩, rfl, fun h => ?_⟩
  · exact absurd (h.offends 0x67 rfl).getElem?_eq (by decide)
  · exact absurd (h.offends 0xC3 rfl).getElem?_eq (by decide)
  · exact absurd h.position_le (by decide)

end CodeText
end MakeTen
