import MakeTen.Proofs.Text.Padding
/-!
# Reading back what was encoded

The first byte of a character says how many bytes follow and which the next one may be; each
of the others brings six bits.  The ranges of the second byte leave out what is no character
or could be written in fewer bytes, and nothing else, so that the bytes of a character are
read as this character, whatever stands behind them.

Main results:

- Theorem `Utf8.lead_ofNat`: the first byte of a sequence by its number.
- Theorem `Utf8.scan_utf8EncodeChar_append`: the bytes of a character are read as it.
- Theorem `Utf8.decode?_encode`: strict reading gives back the text that was encoded.
-/

namespace MakeTen
namespace Utf8

/-- The first byte of a sequence by its number. -/
theorem lead_ofNat {n : Nat} (h : n < 256) :
    lead (UInt8.ofNat n) =
      if n < 0x80 then .whole (Char.ofNat n)
      else if n < 0xC2 then .stray
      else if n < 0xE0 then .opens ⟨0x80, 0xBF, 0, n - 0xC0⟩
      else if n = 0xE0 then .opens ⟨0xA0, 0xBF, 1, 0⟩
      else if n = 0xED then .opens ⟨0x80, 0x9F, 1, 0x0D⟩
      else if n < 0xF0 then .opens ⟨0x80, 0xBF, 1, n - 0xE0⟩
      else if n = 0xF0 then .opens ⟨0x90, 0xBF, 2, 0⟩
      else if n < 0xF4 then .opens ⟨0x80, 0xBF, 2, n - 0xF0⟩
      else if n = 0xF4 then .opens ⟨0x80, 0x8F, 2, 4⟩
      else .stray := by
  have hnumber : (UInt8.ofNat n).toNat = n := UInt8.toNat_ofNat_of_lt' h
  have hlt : ∀ m : UInt8, UInt8.ofNat n < m ↔ n < m.toNat := by
    intro m
    rw [UInt8.lt_iff_toNat_lt, hnumber]
  have heq : ∀ m : UInt8, UInt8.ofNat n = m ↔ n = m.toNat := by
    intro m
    rw [← UInt8.toNat_inj, hnumber]
  simp only [lead, hlt, heq, hnumber]
  rfl

/-- The first byte of two opens a sequence with the upper bits of the character. -/
theorem lead_of_two {v : Nat} (hlow : 0x80 ≤ v) (hhigh : v < 0x800) :
    lead (UInt8.ofNat (v / 64 + 192)) = .opens ⟨0x80, 0xBF, 0, v / 64⟩ := by
  rw [lead_ofNat (by omega), if_neg (by omega), if_neg (by omega), if_pos (by omega),
    Nat.add_sub_cancel]

/-- The first byte of three opens a sequence with the upper bits of the character, and lets
the next byte bring the bits that it has there. -/
theorem lead_of_three {v : Nat} (hlow : 0x800 ≤ v) (hhigh : v < 0x10000)
    (hvalid : v < 0xD800 ∨ 0xDFFF < v) :
    ∃ low high, lead (UInt8.ofNat (v / 4096 + 224)) = .opens ⟨low, high, 1, v / 4096⟩ ∧
      low.toNat ≤ v / 64 % 64 + 128 ∧ v / 64 % 64 + 128 ≤ high.toNat := by
  rw [lead_ofNat (by omega), if_neg (by omega), if_neg (by omega), if_neg (by omega)]
  by_cases hfirst : v / 4096 = 0
  · -- A lower second byte would be a character of two bytes.
    refine ⟨0xA0, 0xBF, by rw [if_pos (by omega), hfirst], ?_, ?_⟩
    · show 160 ≤ v / 64 % 64 + 128
      omega
    · show v / 64 % 64 + 128 ≤ 191
      omega
  · rw [if_neg (by omega)]
    by_cases hsurrogate : v / 4096 = 13
    · refine ⟨0x80, 0x9F, by rw [if_pos (by omega), hsurrogate], ?_, ?_⟩
      · show 128 ≤ v / 64 % 64 + 128
        omega
      · show v / 64 % 64 + 128 ≤ 159
        omega
    · refine ⟨0x80, 0xBF, ?_, ?_, ?_⟩
      · rw [if_neg (by omega), if_pos (by omega), Nat.add_sub_cancel]
      · show 128 ≤ v / 64 % 64 + 128
        omega
      · show v / 64 % 64 + 128 ≤ 191
        omega

/-- The same for the first byte of four. -/
theorem lead_of_four {v : Nat} (hlow : 0x10000 ≤ v) (hhigh : v < 0x110000) :
    ∃ low high, lead (UInt8.ofNat (v / 262144 + 240)) = .opens ⟨low, high, 2, v / 262144⟩ ∧
      low.toNat ≤ v / 4096 % 64 + 128 ∧ v / 4096 % 64 + 128 ≤ high.toNat := by
  rw [lead_ofNat (by omega), if_neg (by omega), if_neg (by omega), if_neg (by omega),
    if_neg (by omega), if_neg (by omega), if_neg (by omega)]
  by_cases hfirst : v / 262144 = 0
  · -- A lower second byte would be a character of three bytes.
    refine ⟨0x90, 0xBF, by rw [if_pos (by omega), hfirst], ?_, ?_⟩
    · show 144 ≤ v / 4096 % 64 + 128
      omega
    · show v / 4096 % 64 + 128 ≤ 191
      omega
  · rw [if_neg (by omega)]
    by_cases hlast : v / 262144 = 4
    · refine ⟨0x80, 0x8F, by rw [if_neg (by omega), if_pos (by omega), hlast], ?_, ?_⟩
      · show 128 ≤ v / 4096 % 64 + 128
        omega
      · show v / 4096 % 64 + 128 ≤ 143
        omega
    · refine ⟨0x80, 0xBF, by rw [if_pos (by omega), Nat.add_sub_cancel], ?_, ?_⟩
      · show 128 ≤ v / 4096 % 64 + 128
        omega
      · show v / 4096 % 64 + 128 ≤ 191
        omega

/-! ## One character -/

theorem scan_of_opens {b : UInt8} {p : Pending} (h : lead b = .opens p) (bytes : List UInt8) :
    scan none (b :: bytes) = scan (some p) bytes := by
  rw [scan_none_cons, h]

theorem scan_of_whole {b : UInt8} {c : Char} (h : lead b = .whole c) (bytes : List UInt8) :
    scan none (b :: bytes) = some c :: scan none bytes := by
  rw [scan_none_cons, h]

/-- A byte that follows in a sequence, with the six bits it brings. -/
theorem toNat_follower {d : Nat} (hd : d < 64) : (UInt8.ofNat (d + 128)).toNat = d + 128 :=
  UInt8.toNat_ofNat_of_lt' (show d + 128 < 256 by omega)

/-- It stands in the range that all bytes but the second have. -/
theorem follower_bounds {d : Nat} (hd : d < 64) :
    (0x80 : UInt8).toNat ≤ d + 128 ∧ d + 128 ≤ (0xBF : UInt8).toNat := by
  show 128 ≤ d + 128 ∧ d + 128 ≤ 191
  omega

/-- A byte in the range of an open sequence ends it if no other follows. -/
theorem scan_last {low high : UInt8} {value d : Nat} (hd : d < 64) (hlow : low.toNat ≤ d + 128)
    (hhigh : d + 128 ≤ high.toNat) (bytes : List UInt8) :
    scan (some ⟨low, high, 0, value⟩) (UInt8.ofNat (d + 128) :: bytes) =
      some (Char.ofNat (value * 64 + d)) :: scan none bytes := by
  have hin : low ≤ UInt8.ofNat (d + 128) ∧ UInt8.ofNat (d + 128) ≤ high := by
    simp only [UInt8.le_iff_toNat_le, toNat_follower hd]
    exact ⟨hlow, hhigh⟩
  rw [scan_some_cons, if_pos hin]
  simp only [toNat_follower hd, Nat.add_sub_cancel]

/-- It goes on with the sequence if others follow. -/
theorem scan_more {low high : UInt8} {value more d : Nat} (hd : d < 64)
    (hlow : low.toNat ≤ d + 128) (hhigh : d + 128 ≤ high.toNat) (bytes : List UInt8) :
    scan (some ⟨low, high, more + 1, value⟩) (UInt8.ofNat (d + 128) :: bytes) =
      scan (some ⟨0x80, 0xBF, more, value * 64 + d⟩) bytes := by
  have hin : low ≤ UInt8.ofNat (d + 128) ∧ UInt8.ofNat (d + 128) ≤ high := by
    simp only [UInt8.le_iff_toNat_le, toNat_follower hd]
    exact ⟨hlow, hhigh⟩
  rw [scan_some_cons, if_pos hin]
  simp only [toNat_follower hd, Nat.add_sub_cancel]

/-- The bytes of a character are read as this character, whatever stands behind them. -/
theorem scan_utf8EncodeChar_append (c : Char) (bytes : List UInt8) :
    scan none (String.utf8EncodeChar c ++ bytes) = some c :: scan none bytes := by
  have hvalid : c.toNat < 0xD800 ∨ 0xDFFF < c.toNat ∧ c.toNat < 0x110000 := c.valid
  have hread : ∀ {v : Nat}, v = c.toNat → Char.ofNat v = c := by
    rintro _ rfl
    exact Char.ofNat_toNat c
  have hbits : ∀ n : Nat, n % 64 < 64 := fun n => Nat.mod_lt n (by omega)
  have hlast := follower_bounds (hbits c.toNat)
  simp only [String.utf8EncodeChar, Char.toNat_val]
  split
  case isTrue hone =>
    have hlead : lead (UInt8.ofNat c.toNat) = .whole c := by
      rw [lead_ofNat (by omega), if_pos (by omega), hread rfl]
    rw [List.singleton_append, scan_of_whole hlead]
  case isFalse hone =>
  split
  case isTrue htwo =>
    have hlead := lead_of_two (v := c.toNat) (by omega) (by omega)
    rw [Nat.mod_eq_of_lt (show c.toNat / 64 < 32 by omega), List.cons_append,
      List.singleton_append, scan_of_opens hlead, scan_last (hbits _) hlast.1 hlast.2, hread]
    omega
  case isFalse htwo =>
  split
  case isTrue hthree =>
    obtain ⟨low, high, hlead, hlow, hhigh⟩ :=
      lead_of_three (v := c.toNat) (by omega) (by omega) (by omega)
    rw [Nat.mod_eq_of_lt (show c.toNat / 4096 < 16 by omega), List.cons_append,
      List.cons_append, List.singleton_append, scan_of_opens hlead,
      scan_more (hbits _) hlow hhigh, scan_last (hbits _) hlast.1 hlast.2, hread]
    omega
  case isFalse hthree =>
    obtain ⟨low, high, hlead, hlow, hhigh⟩ :=
      lead_of_four (v := c.toNat) (by omega) (by omega)
    have hthird := follower_bounds (hbits (c.toNat / 64))
    rw [Nat.mod_eq_of_lt (show c.toNat / 262144 < 8 by omega), List.cons_append,
      List.cons_append, List.cons_append, List.singleton_append, scan_of_opens hlead,
      scan_more (hbits _) hlow hhigh, scan_more (hbits _) hthird.1 hthird.2,
      scan_last (hbits _) hlast.1 hlast.2, hread]
    omega

/-! ## A whole text -/

theorem scan_encode (cs : List Char) : scan none (encode cs) = cs.map some := by
  induction cs with
  | nil => rfl
  | cons c cs ih => rw [encode, List.flatMap_cons, ← encode, scan_utf8EncodeChar_append, ih,
      List.map_cons]

/-- Strict reading gives back the text that was encoded. -/
theorem decode?_encode (cs : List Char) : decode? (encode cs) = some cs := by
  rw [decode?, scan_encode]
  induction cs with
  | nil => rfl
  | cons c cs ih => simp only [List.map_cons, List.mapM_cons, id_eq, ih, Option.pure_def,
      Option.bind_eq_bind, Option.bind_some]

/-- Two strings with the same bytes are one. -/
theorem encodeString_injective {s t : String} (h : encodeString s = encodeString t) : s = t := by
  have hchars : some s.toList = some t.toList := by
    rw [← decode?_encode, ← decode?_encode, ← encodeString, ← encodeString, h]
  exact String.toList_inj.1 (Option.some.inj hchars)

end Utf8
end MakeTen
