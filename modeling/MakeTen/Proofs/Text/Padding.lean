import MakeTen.Text.Blank
import MakeTen.Text.Utf8
import Mathlib.Data.List.TakeWhile
/-!
# Padding

Bytes for blanks around a line leave no trace in the text of the line once it is trimmed.
A small byte is a character by itself and never part of a longer one, so that a stream can
be cut before it: a sequence that is still open there is a fault, as it is at the end of
the stream.  What stands before the byte and after it is read as if it stood alone.

Main results:

- Theorem `Utf8.scan_append_cons`: a stream can be cut before a small byte.
- Theorem `Utf8.decodeLossy_padded`: small bytes around some bytes do not change what these
  are read as.
- Theorem `Blank.trim_padded`: blanks around a text do not change what is left of it.
- Theorem `Blank.trim_append`: trimming leaves what stands between blanks.
- Theorem `Blank.trim_trim`: trimming twice is trimming once.
-/

namespace MakeTen

/-! ## Small bytes -/

namespace Utf8

/-- A small byte is a character by itself. -/
theorem lead_of_lt {b : UInt8} (h : b < 0x80) : lead b = .whole (Char.ofNat b.toNat) := by
  simp only [lead, h, if_true]

/-- A sequence that is begun goes on with bytes that are not small. -/
theorem le_low_of_lead {b : UInt8} {p : Pending} (h : lead b = .opens p) : 0x80 ≤ p.low := by
  unfold lead at h
  repeat' split at h
  all_goals simp only [reduceCtorEq, Lead.opens.injEq] at h
  all_goals subst h
  all_goals dsimp only
  all_goals decide

theorem scan_none_cons (b : UInt8) (bytes : List UInt8) :
    scan none (b :: bytes) =
      match lead b with
      | .whole c => some c :: scan none bytes
      | .opens p => scan (some p) bytes
      | .stray => none :: scan none bytes := rfl

/-- A byte goes on with a sequence, or the sequence is a fault and the byte is read as if
there were none. -/
theorem scan_some_cons (p : Pending) (b : UInt8) (bytes : List UInt8) :
    scan (some p) (b :: bytes) =
      if p.low ≤ b ∧ b ≤ p.high then
        match p.more with
        | 0 => some (Char.ofNat (p.value * 64 + (b.toNat - 0x80))) :: scan none bytes
        | more + 1 => scan (some ⟨0x80, 0xBF, more, p.value * 64 + (b.toNat - 0x80)⟩) bytes
      else none :: scan none (b :: bytes) := by
  rw [scan]
  rfl

/-- A small byte goes on with no sequence. -/
theorem scan_some_of_lt {p : Pending} (hp : 0x80 ≤ p.low) {b : UInt8} (hb : b < 0x80)
    (bytes : List UInt8) : scan (some p) (b :: bytes) = none :: scan none (b :: bytes) := by
  have hlow : ¬ (p.low ≤ b ∧ b ≤ p.high) := fun h =>
    UInt8.lt_irrefl b (UInt8.lt_of_lt_of_le hb (UInt8.le_trans hp h.1))
  rw [scan_some_cons, if_neg hlow]

/-- A stream can be cut before a small byte. -/
theorem scan_append_cons {b : UInt8} (hb : b < 0x80) {pending : Option Pending}
    (hpending : ∀ p ∈ pending, 0x80 ≤ p.low) (front back : List UInt8) :
    scan pending (front ++ b :: back) = scan pending front ++ scan none (b :: back) := by
  induction front generalizing pending with
  | nil =>
    cases pending with
    | none => rfl
    | some p => exact scan_some_of_lt (hpending p rfl) hb back
  | cons x front ih =>
    have hnone : scan none (front ++ b :: back) = scan none front ++ scan none (b :: back) :=
      ih (by simp)
    have hsome : ∀ p : Pending, 0x80 ≤ p.low →
        scan (some p) (front ++ b :: back) = scan (some p) front ++ scan none (b :: back) :=
      fun p hp => ih (by simpa using hp)
    -- Where no sequence is open, the byte begins one or is read alone.
    have hfresh : scan none (x :: (front ++ b :: back)) =
        scan none (x :: front) ++ scan none (b :: back) := by
      rw [scan_none_cons, scan_none_cons x]
      cases hlead : lead x with
      | whole c => simp only [hnone, List.cons_append]
      | opens p => exact hsome p (le_low_of_lead hlead)
      | stray => simp only [hnone, List.cons_append]
    cases pending with
    | none => exact hfresh
    | some p =>
      rw [List.cons_append, scan_some_cons, scan_some_cons]
      split
      · split
        · rw [hnone, List.cons_append]
        · exact hsome _ (UInt8.le_refl 0x80)
      · rw [hfresh, List.cons_append]

/-- Small bytes are read one by one, whatever stands behind them. -/
theorem decodeLossy_append_left {front : List UInt8} (h : ∀ b ∈ front, b < 0x80)
    (bytes : List UInt8) :
    decodeLossy (front ++ bytes) =
      front.map (fun b => Char.ofNat b.toNat) ++ decodeLossy bytes := by
  induction front with
  | nil => rfl
  | cons b front ih =>
    rw [List.forall_mem_cons] at h
    have hrest := ih h.2
    rw [decodeLossy, decodeLossy] at hrest
    rw [decodeLossy, decodeLossy, List.cons_append, scan_none_cons, lead_of_lt h.1]
    simp only [List.map_cons, Option.getD_some, List.cons_append, hrest]

/-- Small bytes behind others are read as if they stood alone. -/
theorem decodeLossy_append_right {back : List UInt8} (h : ∀ b ∈ back, b < 0x80)
    (bytes : List UInt8) : decodeLossy (bytes ++ back) = decodeLossy bytes ++ decodeLossy back := by
  cases back with
  | nil => simp [decodeLossy, scan]
  | cons b back =>
    rw [List.forall_mem_cons] at h
    rw [decodeLossy, scan_append_cons h.1 (by simp), List.map_append]
    rfl

/-- Small bytes around some bytes do not change what these are read as. -/
theorem decodeLossy_padded {front back : List UInt8} (hfront : ∀ b ∈ front, b < 0x80)
    (hback : ∀ b ∈ back, b < 0x80) (bytes : List UInt8) :
    decodeLossy (front ++ bytes ++ back) =
      front.map (fun b => Char.ofNat b.toNat) ++ decodeLossy bytes ++
        back.map fun b => Char.ofNat b.toNat := by
  have hlast := decodeLossy_append_left hback []
  rw [List.append_nil] at hlast
  rw [decodeLossy_append_right hback, decodeLossy_append_left hfront, hlast]
  simp [decodeLossy, scan]

end Utf8

/-! ## Trimming -/

namespace Blank

/-- In front of what is left of a text stand all the blanks that it begins with, and behind
it blanks alone. -/
theorem exists_eq_takeWhile_append_trim (cs : List Char) :
    ∃ after, cs = cs.takeWhile isBlank ++ trim cs ++ after ∧ ∀ c ∈ after, isBlank c = true := by
  let rest := cs.dropWhile isBlank
  refine ⟨(rest.reverse.takeWhile isBlank).reverse, ?_, ?_⟩
  · have hrest : trim cs ++ (rest.reverse.takeWhile isBlank).reverse = rest := by
      rw [trim, trimEnd, ← List.reverse_append, List.takeWhile_append_dropWhile,
        List.reverse_reverse]
    rw [List.append_assoc, hrest, List.takeWhile_append_dropWhile]
  · intro c hc
    exact List.mem_takeWhile_imp (List.mem_reverse.1 hc)

/-- Trimming takes blanks off both ends. -/
theorem exists_eq_append_trim (cs : List Char) :
    ∃ before after, cs = before ++ trim cs ++ after ∧ (∀ c ∈ before, isBlank c = true) ∧
      ∀ c ∈ after, isBlank c = true := by
  obtain ⟨after, hcs, hafter⟩ := exists_eq_takeWhile_append_trim cs
  exact ⟨cs.takeWhile isBlank, after, hcs, fun c hc => List.mem_takeWhile_imp hc, hafter⟩

/-- Blanks at the end do not change what is left of a text. -/
theorem trimEnd_append {after : List Char} (hafter : ∀ c ∈ after, isBlank c = true)
    (cs : List Char) : trimEnd (cs ++ after) = trimEnd cs := by
  rw [trimEnd, List.reverse_append,
    List.dropWhile_append_of_pos fun c hc => hafter c (List.mem_reverse.1 hc)]
  rfl

/-- Blanks around a text do not change what is left of it. -/
theorem trim_padded {before after : List Char} (hbefore : ∀ c ∈ before, isBlank c = true)
    (hafter : ∀ c ∈ after, isBlank c = true) (cs : List Char) :
    trim (before ++ cs ++ after) = trim cs := by
  rw [trim, List.append_assoc, List.dropWhile_append_of_pos hbefore, List.dropWhile_append]
  split
  · -- Blanks alone: all of them are taken off at the start.
    rename_i hnone
    rw [List.dropWhile_eq_nil_iff.2 hafter, trim, List.isEmpty_iff.1 hnone]
  · exact trimEnd_append hafter (cs.dropWhile isBlank)

/-- Trimming twice is trimming once. -/
@[simp]
theorem trim_trim (cs : List Char) : trim (trim cs) = trim cs := by
  obtain ⟨before, after, hcs, hbefore, hafter⟩ := exists_eq_append_trim cs
  have hpadded := trim_padded hbefore hafter (trim cs)
  rw [← hcs] at hpadded
  exact hpadded.symm

@[simp]
theorem trimmed_trimmed (s : String) : trimmed (trimmed s) = trimmed s := by
  simp [trimmed]

/-- A text without blanks is left alone. -/
theorem trim_eq_self {cs : List Char} (h : ∀ c ∈ cs, isBlank c = false) : trim cs = cs := by
  have hdrop : ∀ ds : List Char, (∀ c ∈ ds, isBlank c = false) → ds.dropWhile isBlank = ds := by
    intro ds hds
    rw [List.dropWhile_eq_self_iff]
    intro hpos
    simp [hds ds[0] (List.getElem_mem hpos)]
  rw [trim, trimEnd, hdrop cs h, hdrop cs.reverse fun c hc => h c (List.mem_reverse.1 hc),
    List.reverse_reverse]

/-- Trimming leaves what stands between blanks. -/
theorem trim_append {before cs after : List Char} (hbefore : ∀ c ∈ before, isBlank c = true)
    (hcs : ∀ c ∈ cs, isBlank c = false) (hafter : ∀ c ∈ after, isBlank c = true) :
    trim (before ++ cs ++ after) = cs := by
  rw [trim_padded hbefore hafter, trim_eq_self hcs]

end Blank
end MakeTen
