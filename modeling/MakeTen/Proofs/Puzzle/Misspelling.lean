import MakeTen.Proofs.Puzzle.Grammar
import MakeTen.Proofs.Text.Escapes
/-!
# What is wrong with a text

A text that stands for no code is refused for one fault.  If a digit is missing, that is
the fault, whatever else is wrong.  Otherwise it is the first byte behind the base mark
that is no digit and stands in no slot marker.

The pairs are read one by one and a slot marker is passed as a whole, so the first byte
at fault is found in the first pair that holds one.  All bytes before it are digits or
marker letters, or belong to the base mark.  They are characters by themselves, so that
the offset of the byte counts characters as well.

Main results:

- Relation `CodeText.Misspelt`: a byte that is no digit and stands in no slot marker.
- Theorem `CodeText.exists_misspelt_of_readPairs`: reading in pairs stops at the first
  such byte.
- Theorem `Utf8.encode_take`: small bytes at the front of a text are as many characters.
- Theorem `CodeText.Cause.message_badDigit_iff`: how a byte at fault is quoted.
- Theorem `CodeText.parse_reports_first_fault`: which fault is reported.
-/

namespace MakeTen

/-! ## Small bytes at the front of a text -/

/-- Small bytes at the front of a text are as many characters. -/
theorem Utf8.encode_take {cs : List Char} {n : Nat}
    (h : ∀ b ∈ (encode cs).take n, b.toNat < 128) (hn : n ≤ (encode cs).length) :
    encode (cs.take n) = (encode cs).take n := by
  induction n generalizing cs with
  | zero => rw [List.take_zero, List.take_zero, encode_nil]
  | succ n ih =>
    obtain ⟨b, rest, hcs⟩ := List.exists_cons_of_length_pos (Nat.lt_of_lt_of_le n.succ_pos hn)
    rw [hcs, List.take_succ_cons, List.forall_mem_cons] at h
    obtain ⟨tail, rfl, rfl⟩ := exists_of_encode_eq_cons hcs h.1
    -- The first character takes its one byte, since the others are those of the tail.
    have hfirst : String.utf8EncodeChar (Char.ofNat b.toNat) = [b] :=
      List.append_cancel_right ((encode_cons _ tail).symm.trans hcs)
    rw [hcs, List.length_cons] at hn
    rw [hcs, List.take_succ_cons, List.take_succ_cons, encode_cons, hfirst,
      ih h.2 (Nat.le_of_succ_le_succ hn), List.singleton_append]

namespace CodeText

/-! ## Digits and markers -/

/-- The byte is a hexadecimal digit in either case. -/
def IsDigit (b : UInt8) : Prop :=
  Char.ofNat b.toNat ∈ "0123456789abcdefABCDEF".toList

instance (b : UInt8) : Decidable (IsDigit b) :=
  inferInstanceAs (Decidable (_ ∈ _))

/-- Digits are the bytes with a value, and small. -/
theorem isDigit_table (b : UInt8) :
    (IsDigit b ↔ Hex.digitValue? b ≠ none) ∧ (IsDigit b → b.toNat < 128) := by
  have table : ∀ n : Fin 256, (IsDigit (UInt8.ofNat n) ↔ Hex.digitValue? (UInt8.ofNat n) ≠ none) ∧
      (IsDigit (UInt8.ofNat n) → (UInt8.ofNat n).toNat < 128) := by
    decide +kernel
  simpa using table ⟨b.toNat, b.toNat_lt⟩

theorem not_isDigit_iff {b : UInt8} : ¬ IsDigit b ↔ Hex.digitValue? b = none := by
  rw [(isDigit_table b).1, not_not]

/-- At the offset stands a slot marker, in any case. -/
def MarkerAt (bytes : List UInt8) (offset : Nat) : Prop :=
  ∃ x ∈ bytes[offset]?, ∃ y ∈ bytes[offset + 1]?, x ∈ [0x58, 0x78] ∧ y ∈ [0x58, 0x78]

theorem isMarker_iff {b : UInt8} : isMarker b = true ↔ b ∈ [0x58, 0x78] := by
  simp [isMarker]

/-- A slot marker is made of the two letters that are looked for. -/
theorem markerAt_zero_iff {high low : UInt8} {rest : List UInt8} :
    MarkerAt (high :: low :: rest) 0 ↔ (isMarker high && isMarker low) = true := by
  simp [MarkerAt, isMarker_iff]

/-- The letters of a slot marker are small. -/
theorem MarkerAt.toNat_lt {bytes : List UInt8} {offset k : Nat} {b : UInt8}
    (h : MarkerAt bytes offset) (hk : k = offset ∨ k = offset + 1) (hb : bytes[k]? = some b) :
    b.toNat < 128 := by
  have hletter : ∀ x : UInt8, x ∈ [0x58, 0x78] → x.toNat < 128 := by
    simp
  obtain ⟨x, hx, y, hy, hxletter, hyletter⟩ := h
  rcases hk with rfl | rfl
  · obtain rfl : x = b := Option.some.inj (Eq.trans (Eq.symm hx) hb)
    exact hletter x hxletter
  · obtain rfl : y = b := Option.some.inj (Eq.trans (Eq.symm hy) hb)
    exact hletter y hyletter

/-! ## Bytes at fault -/

/-- The byte `b` at an offset is no digit, and the pair that holds it, when pairs are
counted from `start` on, is no slot marker. -/
structure Misspelt (bytes : List UInt8) (start offset : Nat) (b : UInt8) : Prop where
  start_le : start ≤ offset
  getElem?_eq : bytes[offset]? = some b
  not_isDigit : ¬ IsDigit b
  /-- Its pair is no slot marker. -/
  not_markerAt : ¬ MarkerAt bytes (start + (offset - start) / 2 * 2)

/-- Pairs behind some bytes have the same faults as the pairs by themselves. -/
theorem misspelt_append_iff {front bytes : List UInt8} {k : Nat} {b : UInt8} :
    Misspelt (front ++ bytes) front.length (front.length + k) b ↔ Misspelt bytes 0 k b := by
  have hget : ∀ m, (front ++ bytes)[front.length + m]? = bytes[m]? := by
    intro m
    rw [List.getElem?_append_right (Nat.le_add_right _ _), Nat.add_sub_cancel_left]
  have hmarker : MarkerAt (front ++ bytes) (front.length + k / 2 * 2) ↔
      MarkerAt bytes (k / 2 * 2) := by
    unfold MarkerAt
    rw [Nat.add_assoc, hget, hget]
  constructor
  · rintro ⟨_, hb, hdigit, hpair⟩
    rw [Nat.add_sub_cancel_left, hmarker] at hpair
    refine ⟨Nat.zero_le k, (hget k).symm.trans hb, hdigit, ?_⟩
    rwa [Nat.sub_zero, Nat.zero_add]
  · rintro ⟨_, hb, hdigit, hpair⟩
    rw [Nat.sub_zero, Nat.zero_add] at hpair
    refine ⟨Nat.le_add_right _ _, (hget k).trans hb, hdigit, ?_⟩
    rwa [Nat.add_sub_cancel_left, hmarker]

/-- Faults behind a first pair are those of the pairs behind it. -/
theorem misspelt_cons_cons_iff {high low : UInt8} {rest : List UInt8} {k : Nat} {b : UInt8} :
    Misspelt (high :: low :: rest) 0 (k + 2) b ↔ Misspelt rest 0 k b := by
  have hpair : 0 + (k + 2 - 0) / 2 * 2 = 2 + (k + 2 - 2) / 2 * 2 := by omega
  rw [← @misspelt_append_iff [high, low] rest k b, Nat.add_comm [high, low].length k]
  change _ ↔ Misspelt (high :: low :: rest) 2 (k + 2) b
  constructor
  · rintro ⟨_, hb, hdigit, hmarker⟩
    exact ⟨Nat.le_add_left 2 k, hb, hdigit, hpair ▸ hmarker⟩
  · rintro ⟨_, hb, hdigit, hmarker⟩
    exact ⟨Nat.zero_le _, hb, hdigit, hpair ▸ hmarker⟩

/-- Faults in a first pair. -/
theorem misspelt_of_lt_two {high low : UInt8} {rest : List UInt8} {k : Nat} (hk : k < 2)
    {b : UInt8} (h : Misspelt (high :: low :: rest) 0 k b) :
    (isMarker high && isMarker low) = false ∧ Hex.digitValue? b = none ∧
      (k = 0 ∧ b = high ∨ k = 1 ∧ b = low) := by
  obtain ⟨_, hb, hdigit, hpair⟩ := h
  have hzero : 0 + (k - 0) / 2 * 2 = 0 := by omega
  rw [hzero, markerAt_zero_iff, Bool.not_eq_true] at hpair
  refine ⟨hpair, not_isDigit_iff.1 hdigit, ?_⟩
  obtain rfl | rfl : k = 0 ∨ k = 1 := by omega
  · exact .inl ⟨rfl, (Option.some.inj hb).symm⟩
  · exact .inr ⟨rfl, (Option.some.inj hb).symm⟩

/-- A pair that is read holds no byte at fault. -/
theorem not_misspelt_of_readPair {position k : Nat} {high low b c : UInt8} {rest : List UInt8}
    (h : readPair position high low = .ok b) (hk : k < 2) :
    ¬ Misspelt (high :: low :: rest) 0 k c := by
  intro hmisspelt
  obtain ⟨hmarker, hnone, hplace⟩ := misspelt_of_lt_two hk hmisspelt
  rcases hplace with ⟨_, rfl⟩ | ⟨_, rfl⟩
  · simp [readPair, hmarker, hnone] at h
  · rw [readPair, hmarker, if_neg Bool.false_ne_true, hnone] at h
    split at h <;> simp at h

/-- Reading in pairs stops at the first byte at fault. -/
theorem exists_misspelt_of_readPairs {position : Nat} {digits : List UInt8} {fault : Fault}
    (h : readPairs position digits = .error fault) :
    ∃ k b, fault = ⟨position + k, .badDigit b⟩ ∧ Misspelt digits 0 k b ∧
      ∀ m c, Misspelt digits 0 m c → k ≤ m := by
  fun_induction readPairs position digits with
  | case1 position high low rest other hpair =>
    obtain rfl : other = fault := by simpa using h
    unfold readPair at hpair
    split at hpair
    · simp at hpair
    · rename_i hmarker
      have hat : ¬ MarkerAt (high :: low :: rest) 0 := mt markerAt_zero_iff.1 hmarker
      split at hpair
      · rename_i hhigh
        obtain rfl : ⟨position, .badDigit high⟩ = other := by simpa using hpair
        refine ⟨0, high, rfl, ⟨Nat.zero_le 0, rfl, not_isDigit_iff.2 hhigh, hat⟩, ?_⟩
        exact fun m c _ => Nat.zero_le m
      · rename_i u hhigh
        split at hpair
        · rename_i hlow
          obtain rfl : ⟨position + 1, .badDigit low⟩ = other := by simpa using hpair
          refine ⟨1, low, rfl, ⟨Nat.zero_le 1, rfl, not_isDigit_iff.2 hlow, hat⟩, ?_⟩
          intro m c hm
          by_contra hlt
          obtain rfl : m = 0 := by omega
          obtain ⟨_, hnone, ⟨_, rfl⟩ | ⟨hone, _⟩⟩ := misspelt_of_lt_two (by decide) hm
          · simp [hnone] at hhigh
          · exact absurd hone (by decide)
        · simp at hpair
  | case2 position high low rest b hpair other hrest ih =>
    obtain rfl : other = fault := by simpa using h
    obtain ⟨k, c, rfl, hk, hfirst⟩ := ih hrest
    refine ⟨k + 2, c, by rw [Nat.add_assoc, Nat.add_comm 2 k], misspelt_cons_cons_iff.2 hk, ?_⟩
    intro m d hm
    by_cases hlt : m < 2
    · exact absurd hm (not_misspelt_of_readPair hpair hlt)
    · obtain ⟨l, rfl⟩ : ∃ l, m = l + 2 := ⟨m - 2, by omega⟩
      have hle := hfirst l d (misspelt_cons_cons_iff.1 hm)
      omega
  | case3 position high low rest b hpair bs hrest ih => simp at h
  | case4 position digits hshort => simp at h

/-- What is read in pairs holds no byte at fault. -/
theorem not_misspelt_of_readPairs {position : Nat} {digits bytes : List UInt8}
    (heven : digits.length % 2 = 0) (h : readPairs position digits = .ok bytes) :
    ∀ k b, ¬ Misspelt digits 0 k b := by
  fun_induction readPairs position digits generalizing bytes with
  | case1 position high low rest fault hpair => simp at h
  | case2 position high low rest b hpair fault hrest ih => simp at h
  | case3 position high low rest b hpair bs hrest ih =>
    intro k c hk
    have hrest_even : rest.length % 2 = 0 := by
      rw [List.length_cons, List.length_cons] at heven
      omega
    by_cases hlt : k < 2
    · exact not_misspelt_of_readPair hpair hlt hk
    · obtain ⟨l, rfl⟩ : ∃ l, k = l + 2 := ⟨k - 2, by omega⟩
      exact ih hrest_even hrest l c (misspelt_cons_cons_iff.1 hk)
  | case4 digits position hshort =>
    intro k b hk
    cases digits with
    | nil => simpa using hk.getElem?_eq
    | cons high rest =>
      cases rest with
      | nil => simp at heven
      | cons low rest => exact absurd rfl (hshort high low rest)

/-! ## Whole texts -/

/-- Length of the base mark at the front of the bytes of a text, in either case. -/
def baseMarkBytes (bytes : List UInt8) : Nat :=
  if [0x30, 0x78] <+: bytes ∨ [0x30, 0x58] <+: bytes then 2 else 0

theorem baseMarkBytes_le_length (bytes : List UInt8) : baseMarkBytes bytes ≤ bytes.length := by
  unfold baseMarkBytes
  split
  · rename_i hmark
    rcases hmark with hmark | hmark
    · exact hmark.length_le
    · exact hmark.length_le
  · exact Nat.zero_le _

/-- The base mark is made of small bytes. -/
theorem toNat_lt_of_lt_baseMarkBytes {bytes : List UInt8} {k : Nat} {b : UInt8}
    (hk : k < baseMarkBytes bytes) (hb : bytes[k]? = some b) : b.toNat < 128 := by
  have hsmall : ∀ mark : List UInt8, (∀ c ∈ mark, c.toNat < 128) → k < mark.length →
      mark <+: bytes → b.toNat < 128 := by
    rintro mark hmark hlt ⟨rest, rfl⟩
    rw [List.getElem?_append_left hlt] at hb
    exact hmark b (List.mem_of_getElem? hb)
  unfold baseMarkBytes at hk
  split at hk
  · rename_i hmark
    rcases hmark with hmark | hmark
    · exact hsmall [0x30, 0x78] (by simp) hk hmark
    · exact hsmall [0x30, 0x58] (by simp) hk hmark
  · exact absurd hk (Nat.not_lt_zero k)

/-- The bytes of a text begin with the base mark if the text does. -/
theorem baseMarkBytes_encode (cs : List Char) :
    baseMarkBytes (Utf8.encode cs) = baseMarkLength cs := by
  have hsplit : ∀ x y : UInt8, x.toNat < 128 → y.toNat < 128 → [x, y] <+: Utf8.encode cs →
      ∃ rest, cs = Char.ofNat x.toNat :: Char.ofNat y.toNat :: rest := by
    rintro x y hx hy ⟨rest, hrest⟩
    obtain ⟨tail, rfl, htail⟩ := Utf8.exists_of_encode_eq_cons hrest.symm hx
    obtain ⟨tail', rfl, _⟩ := Utf8.exists_of_encode_eq_cons htail hy
    exact ⟨tail', rfl⟩
  fun_cases baseMarkLength cs with
  | case1 rest => exact if_pos (.inl ⟨Utf8.encode rest, rfl⟩)
  | case2 rest => exact if_pos (.inr ⟨Utf8.encode rest, rfl⟩)
  | case3 _ hlower hupper =>
    refine if_neg ?_
    rintro (hmark | hmark)
    · obtain ⟨rest, hcs⟩ := hsplit _ _ (by decide) (by decide) hmark
      exact hlower rest hcs
    · obtain ⟨rest, hcs⟩ := hsplit _ _ (by decide) (by decide) hmark
      exact hupper rest hcs

/-- The bytes behind the base mark are those of the characters behind it. -/
theorem encode_drop_baseMarkLength (cs : List Char) :
    Utf8.encode (cs.drop (baseMarkLength cs)) = (Utf8.encode cs).drop (baseMarkLength cs) := by
  fun_cases baseMarkLength cs with
  | case1 rest => rfl
  | case2 rest => rfl
  | case3 => rfl

/-- The bytes of a text without the blanks around it. -/
def trimmedBytes (text : String) : List UInt8 :=
  Utf8.encode (Blank.trim text.toList)

/-- Reading a text, by its bytes. -/
theorem parse_eq_readPairs (text : String) :
    parse text =
      let t := trimmedBytes text
      let p := baseMarkBytes t
      if (t.length - p) % 2 = 1 then .error ⟨t.length, .oddLength⟩ else readPairs p (t.drop p) := by
  have hle := baseMarkBytes_le_length (trimmedBytes text)
  simp only [trimmedBytes, baseMarkBytes_encode] at hle ⊢
  simp only [parse, parseTrimmed, encode_drop_baseMarkLength, List.length_drop,
    Nat.add_sub_cancel' hle]

/-- Faults behind the base mark are those of the bytes behind it. -/
theorem misspelt_drop_iff {bytes : List UInt8} {p k : Nat} {b : UInt8} (hp : p ≤ bytes.length) :
    Misspelt bytes p (p + k) b ↔ Misspelt (bytes.drop p) 0 k b := by
  have happend := @misspelt_append_iff (bytes.take p) (bytes.drop p) k b
  rwa [List.take_append_drop, List.length_take_of_le hp] at happend

/-- The first byte at fault among some bytes that are read in pairs from `start` on. -/
structure FirstMisspelt (bytes : List UInt8) (start offset : Nat) (b : UInt8) : Prop where
  misspelt : Misspelt bytes start offset b
  le : ∀ k c, Misspelt bytes start k c → offset ≤ k

/-- There is one first byte at fault. -/
theorem FirstMisspelt.unique {bytes : List UInt8} {start j k : Nat} {b c : UInt8}
    (h : FirstMisspelt bytes start j b) (h' : FirstMisspelt bytes start k c) : j = k ∧ b = c := by
  obtain rfl : j = k := Nat.le_antisymm (h.le k c h'.misspelt) (h'.le j b h.misspelt)
  exact ⟨rfl, Option.some.inj (h.misspelt.getElem?_eq.symm.trans h'.misspelt.getElem?_eq)⟩

/-- All bytes before the first one at fault are small. -/
theorem FirstMisspelt.toNat_lt {bytes : List UInt8} {j k : Nat} {b c : UInt8}
    (h : FirstMisspelt bytes (baseMarkBytes bytes) j b) (hk : k < j) (hc : bytes[k]? = some c) :
    c.toNat < 128 := by
  by_cases hmark : k < baseMarkBytes bytes
  · exact toNat_lt_of_lt_baseMarkBytes hmark hc
  · by_contra hlarge
    have hdigit : ¬ IsDigit c := mt (isDigit_table c).2 hlarge
    have hpair : ¬ MarkerAt bytes
        (baseMarkBytes bytes + (k - baseMarkBytes bytes) / 2 * 2) :=
      fun hat => hlarge (hat.toNat_lt (by omega) hc)
    have hle := h.le k c ⟨Nat.le_of_not_lt hmark, hc, hdigit, hpair⟩
    omega

/-- Reading in pairs behind the base mark fails at the first byte at fault. -/
theorem readPairs_drop_eq_error_iff {bytes : List UInt8} {p : Nat} {fault : Fault}
    (hp : p ≤ bytes.length) (heven : (bytes.length - p) % 2 = 0) :
    readPairs p (bytes.drop p) = .error fault ↔
      ∃ j b, fault = ⟨j, .badDigit b⟩ ∧ FirstMisspelt bytes p j b := by
  have hreport : ∀ {other}, readPairs p (bytes.drop p) = .error other →
      ∃ j b, other = ⟨j, .badDigit b⟩ ∧ FirstMisspelt bytes p j b := by
    intro other hother
    obtain ⟨k, b, rfl, hk, hfirst⟩ := exists_misspelt_of_readPairs hother
    refine ⟨p + k, b, rfl, (misspelt_drop_iff hp).2 hk, ?_⟩
    intro m c hm
    obtain ⟨l, rfl⟩ := Nat.exists_eq_add_of_le hm.start_le
    exact Nat.add_le_add_left (hfirst l c ((misspelt_drop_iff hp).1 hm)) p
  constructor
  · exact hreport
  · rintro ⟨j, b, rfl, hfirst⟩
    cases hread : readPairs p (bytes.drop p) with
    | ok code =>
      obtain ⟨k, rfl⟩ := Nat.exists_eq_add_of_le hfirst.misspelt.start_le
      rw [← List.length_drop] at heven
      exact absurd ((misspelt_drop_iff hp).1 hfirst.misspelt)
        (not_misspelt_of_readPairs heven hread k b)
    | error other =>
      -- There is one first byte at fault, so the two faults are the same.
      obtain ⟨k, c, rfl, hother⟩ := hreport hread
      obtain ⟨rfl, rfl⟩ := hfirst.unique hother
      rfl

/-- Up to the first byte at fault, bytes and characters are counted alike. -/
theorem FirstMisspelt.encode_take {cs : List Char} {j : Nat} {b : UInt8}
    (h : FirstMisspelt (Utf8.encode cs) (baseMarkBytes (Utf8.encode cs)) j b) :
    Utf8.encode (cs.take j) = (Utf8.encode cs).take j ∧ j < cs.length := by
  obtain ⟨hlt, _⟩ := List.getElem?_eq_some_iff.1 h.misspelt.getElem?_eq
  have hsmall : ∀ c ∈ (Utf8.encode cs).take j, c.toNat < 128 := by
    intro c hc
    obtain ⟨k, hk, rfl⟩ := List.mem_take_iff_getElem.1 hc
    exact h.toNat_lt (by omega) (List.getElem?_eq_getElem (by omega))
  have htake := Utf8.encode_take hsmall (Nat.le_of_lt hlt)
  refine ⟨htake, ?_⟩
  by_contra hle
  rw [List.take_of_length_le (Nat.le_of_not_lt hle)] at htake
  have hlength := congrArg List.length htake
  rw [List.length_take] at hlength
  omega

/-- A missing half is reported at the end, whatever the digits are. -/
theorem parse_of_odd {text : String}
    (h : ((trimmedBytes text).length - baseMarkBytes (trimmedBytes text)) % 2 = 1) :
    parse text = .error ⟨(trimmedBytes text).length, .oddLength⟩ := by
  rw [parse_eq_readPairs]
  exact if_pos h

/-- If no half is missing, the first byte at fault is reported. -/
theorem parse_eq_error_iff_of_even {text : String} {fault : Fault}
    (h : ((trimmedBytes text).length - baseMarkBytes (trimmedBytes text)) % 2 = 0) :
    parse text = .error fault ↔ ∃ j b, fault = ⟨j, .badDigit b⟩ ∧
      FirstMisspelt (trimmedBytes text) (baseMarkBytes (trimmedBytes text)) j b := by
  have hparse : parse text = readPairs (baseMarkBytes (trimmedBytes text))
      ((trimmedBytes text).drop (baseMarkBytes (trimmedBytes text))) := by
    rw [parse_eq_readPairs]
    exact if_neg (by omega)
  rw [hparse]
  exact readPairs_drop_eq_error_iff (baseMarkBytes_le_length _) h

/-- A byte that is reported is the first one at fault. -/
theorem firstMisspelt_of_parse {text : String} {j : Nat} {b : UInt8}
    (h : parse text = .error ⟨j, .badDigit b⟩) :
    FirstMisspelt (trimmedBytes text) (baseMarkBytes (trimmedBytes text)) j b := by
  rcases Nat.mod_two_eq_zero_or_one
    ((trimmedBytes text).length - baseMarkBytes (trimmedBytes text)) with heven | hodd
  · obtain ⟨k, c, hfault, hfirst⟩ := (parse_eq_error_iff_of_even heven).1 h
    injection hfault with hj hb
    injection hb with hb
    rwa [hj, hb]
  · rw [parse_of_odd hodd] at h
    simp at h

/-! ## What is said of it -/

/-- A byte and the character that is shown for it have one number. -/
theorem toNat_ofNat_byte (b : UInt8) : (Char.ofNat b.toNat).toNat = b.toNat := by
  have hb := b.toNat_lt
  have hvalid : b.toNat.isValidChar := .inl (by omega)
  rw [Char.ofNat, dif_pos hvalid]
  rfl

/-- A digit at fault is quoted as the character of the same number. -/
theorem Cause.message_badDigit_iff {b : UInt8} {text : String} :
    (Cause.badDigit b).message = text ↔
      ∃ shown, Escape.Shows (Char.ofNat b.toNat) shown ∧
        text = "'" ++ shown ++ "' is not a hex digit" := by
  constructor
  · rintro rfl
    exact ⟨_, Escape.shows_char _, rfl⟩
  · rintro ⟨shown, hshown, rfl⟩
    rw [Escape.shows_iff.1 hshown]
    rfl

/-- The byte at fault is told by what is said of it. -/
theorem Cause.message_badDigit_inj {b c : UInt8}
    (h : (Cause.badDigit b).message = (Cause.badDigit c).message) : b = c := by
  obtain ⟨shown, hb, hshown⟩ := message_badDigit_iff.1 h
  obtain ⟨other, hc, hother⟩ := message_badDigit_iff.1 (Eq.refl (Cause.badDigit c).message)
  obtain rfl : shown = other := by
    rw [hshown, String.append_left_inj, String.append_right_inj] at hother
    exact hother
  have hnumber := congrArg Char.toNat (hb.unique hc)
  rw [toNat_ofNat_byte, toNat_ofNat_byte] at hnumber
  exact UInt8.toNat_inj.1 hnumber

/-! ## Main theorem -/

/-- A text that stands for no code is refused for its first fault.

Without the blanks around it, and without the base mark, the text has to be made of pairs
of bytes.  If a half is missing, this is reported at the end of the text, whatever the
digits are.  Otherwise the fault is the first byte that is no digit and whose pair,
counted from behind the base mark, is no slot marker; it is reported with its offset.
All bytes before it are small, so that its offset counts characters as well.  It is quoted
as the character of the same number, and what is said of it tells which byte it is.
Nothing else is ever reported. -/
theorem parse_reports_first_fault (text : String) :
    let t := trimmedBytes text
    let p := if [0x30, 0x78] <+: t ∨ [0x30, 0x58] <+: t then 2 else 0
    ((t.length - p) % 2 = 1 → parse text = .error ⟨t.length, .oddLength⟩) ∧
    ((t.length - p) % 2 = 0 → ∀ fault, parse text = .error fault ↔
      ∃ j b, fault = ⟨j, .badDigit b⟩ ∧ Misspelt t p j b ∧ ∀ k c, Misspelt t p k c → j ≤ k) ∧
    (∀ j b, parse text = .error ⟨j, .badDigit b⟩ →
      (∀ k c, k < j → t[k]? = some c → c.toNat < 128) ∧ j < (Blank.trim text.toList).length ∧
        Utf8.encode ((Blank.trim text.toList).take j) = t.take j) ∧
    Cause.oddLength.message = "odd number of hex digits" ∧
    (∀ b text, (Cause.badDigit b).message = text ↔
      ∃ shown, Escape.Shows (Char.ofNat b.toNat) shown ∧
        text = "'" ++ shown ++ "' is not a hex digit") ∧
    ∀ b c, (Cause.badDigit b).message = (Cause.badDigit c).message → b = c := by
  intro t p
  refine ⟨parse_of_odd, ?_, ?_, rfl, fun b text => Cause.message_badDigit_iff,
    fun b c => Cause.message_badDigit_inj⟩
  · intro heven fault
    refine (parse_eq_error_iff_of_even heven).trans ?_
    constructor
    · rintro ⟨j, b, hfault, hfirst⟩
      exact ⟨j, b, hfault, hfirst.misspelt, hfirst.le⟩
    · rintro ⟨j, b, hfault, hmisspelt, hle⟩
      exact ⟨j, b, hfault, hmisspelt, hle⟩
  · intro j b hparse
    have hfirst := firstMisspelt_of_parse hparse
    exact ⟨fun k c hk => hfirst.toNat_lt hk, hfirst.encode_take.2, hfirst.encode_take.1⟩

/-- Behind a base mark and a slot marker, half a slot marker is the first fault, and not
the longer character behind it; a longer character is no fault if a digit is missing. -/
theorem first_fault_of_half_marker :
    parse " 0xXX1Xé" = .error ⟨5, .badDigit 0x58⟩ ∧
      Misspelt (trimmedBytes " 0xXX1Xé") 2 5 0x58 ∧
      (∀ k c, Misspelt (trimmedBytes " 0xXX1Xé") 2 k c → 5 ≤ k) ∧
      Utf8.encode ((Blank.trim " 0xXX1Xé".toList).take 5) = (trimmedBytes " 0xXX1Xé").take 5 ∧
      (Cause.badDigit 0x58).message = "'X' is not a hex digit" ∧
      (Cause.badDigit 0xC3).message = "'\\u\x7bc3\x7d' is not a hex digit" ∧
      parse "éa" = .error ⟨3, .oddLength⟩ := by
  have hparse : parse " 0xXX1Xé" = .error ⟨5, .badDigit 0x58⟩ := rfl
  obtain ⟨_, heven, hcounted, _, hquoted, _⟩ := parse_reports_first_fault " 0xXX1Xé"
  obtain ⟨j, b, hfault, hmisspelt, hfirst⟩ := (heven rfl _).1 hparse
  obtain ⟨rfl, rfl⟩ : 5 = j ∧ 0x58 = b := by simpa using hfault
  have hletter : Escape.Shows 'X' "X" := .printable (by decide) (by decide) (by decide)
  have hnumber : Escape.Shows (Char.ofNat 0xC3) "\\u\x7bc3\x7d" :=
    .number (by decide) (by decide)
  exact ⟨hparse, hmisspelt, hfirst, (hcounted 5 0x58 hparse).2.2,
    (hquoted 0x58 _).2 ⟨_, hletter, rfl⟩, (hquoted 0xC3 _).2 ⟨_, hnumber, rfl⟩,
    (parse_reports_first_fault "éa").1 rfl⟩

end CodeText
end MakeTen
