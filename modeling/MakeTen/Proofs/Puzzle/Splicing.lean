import MakeTen.Play.Judge
import MakeTen.Proofs.Puzzle.Corpora
import MakeTen.Proofs.Puzzle.Spelling
import MakeTen.Proofs.Text.Words
import Mathlib.Data.List.Forall2
/-!
# From text to text

Resolving a puzzle, seen from outside, is a matter of texts: three pairs of
letters of the puzzle's text are replaced by the three pairs of digits of the
player's text.  This holds since every pair that spells the slot marker is a slot
of an accepted puzzle, and since a byte other than the marker is written as it
was spelled, in lower case.

The link to a run shows the resolved text between two marks.  A resolved text
holds digits only, so what stands between the marks is never in doubt.

Main results:

- Relation `Splices`: the slot pairs of a text replaced by pairs of digits.
- Theorem `CodeText.exists_pairs_of_parse`: an accepted text in lower case, pair
  by pair.
- Theorem `Template.Playable.exists_code_eq`: the code of a template around its
  three slots.
- Theorem `eq_lower_of_playgroundLink_eq`: what a link shows between its marks.
- Theorem `Template.resolve_splices_text`: resolving is splicing.
-/

namespace MakeTen

/-! ## Pairs of letters -/

/-- The letters of some pairs, one pair after the other. -/
def letters (pairs : List (Char × Char)) : List Char :=
  pairs.flatMap fun p => [p.1, p.2]

/-- A pair that marks a slot in a text without capitals. -/
def IsSlotPair (p : Char × Char) : Prop :=
  p = ('x', 'x') ∨ p = ('c', 'c')

/-- The last text is the first one with its slot pairs, of which there are three,
replaced from left to right by the three pairs of the other text. -/
def Splices (text digits spliced : List Char) : Prop :=
  ∃ (a b c d : List (Char × Char)) (m₁ m₂ m₃ q₁ q₂ q₃ : Char × Char),
    text = letters (a ++ m₁ :: (b ++ m₂ :: (c ++ m₃ :: d))) ∧
      (∀ m ∈ [m₁, m₂, m₃], IsSlotPair m) ∧ (∀ p ∈ a ++ b ++ c ++ d, ¬ IsSlotPair p) ∧
      digits = letters [q₁, q₂, q₃] ∧
      spliced = letters (a ++ q₁ :: (b ++ q₂ :: (c ++ q₃ :: d)))

/-- The digits of a byte in lower case. -/
def digitPair (b : UInt8) : Char × Char :=
  (Hex.lowerDigit (b.toNat / 16), Hex.lowerDigit (b.toNat % 16))

/-- A byte written in lower case: its digits or, for a slot, two letters `x`. -/
def Writes (p : Char × Char) (b : UInt8) : Prop :=
  p = digitPair b ∨ b = placeholder ∧ p = ('x', 'x')

theorem letters_map_digitPair (bytes : List UInt8) :
    letters (bytes.map digitPair) = bytes.flatMap Hex.lowerPair := by
  rw [letters, List.flatMap_map]
  rfl

/-- The digits of a byte are a slot pair exactly if the byte is the marker. -/
theorem isSlotPair_digitPair_iff {b : UInt8} : IsSlotPair (digitPair b) ↔ b = placeholder := by
  have table : ∀ n : Fin 256, (digitPair (UInt8.ofNat n) = ('x', 'x') ∨
      digitPair (UInt8.ofNat n) = ('c', 'c')) ↔ UInt8.ofNat n = placeholder := by
    decide +kernel
  simpa [IsSlotPair] using table ⟨b.toNat, b.toNat_lt⟩

/-- A marker is written as a slot pair. -/
theorem Writes.isSlotPair {p : Char × Char} (h : Writes p placeholder) : IsSlotPair p := by
  rcases h with rfl | ⟨_, rfl⟩
  · exact isSlotPair_digitPair_iff.2 rfl
  · exact .inl rfl

/-- Bytes other than the marker are written with their digits. -/
theorem eq_map_digitPair_of_not_mem {pairs : List (Char × Char)} {bytes : List UInt8}
    (h : List.Forall₂ Writes pairs bytes) (hnone : placeholder ∉ bytes) :
    pairs = bytes.map digitPair := by
  induction h with
  | nil => rfl
  | cons hp _ ih =>
    rw [List.mem_cons, not_or] at hnone
    rcases hp with rfl | ⟨rfl, _⟩
    · rw [ih hnone.2, List.map_cons]
    · exact absurd rfl hnone.1

theorem not_isSlotPair_of_mem_map {bytes : List UInt8} (hnone : placeholder ∉ bytes) :
    ∀ p ∈ bytes.map digitPair, ¬ IsSlotPair p := by
  intro p hp
  obtain ⟨b, hb, rfl⟩ := List.mem_map.1 hp
  rw [isSlotPair_digitPair_iff]
  rintro rfl
  exact hnone hb

/-- Around a slot, pairs fall into those before it, its own, and those after it. -/
theorem exists_of_forall₂_append_cons {pairs : List (Char × Char)} {before after : List UInt8}
    {b : UInt8} (h : List.Forall₂ Writes pairs (before ++ b :: after))
    (hbefore : placeholder ∉ before) :
    ∃ m rest, pairs = before.map digitPair ++ m :: rest ∧ Writes m b ∧
      List.Forall₂ Writes rest after := by
  obtain ⟨m, rest, hm, hrest, hdrop⟩ :=
    List.forall₂_cons_right_iff.1 (List.forall₂_drop_append _ _ _ h)
  refine ⟨m, rest, ?_, hm, hrest⟩
  rw [← eq_map_digitPair_of_not_mem (List.forall₂_take_append _ _ _ h) hbefore, ← hdrop,
    List.take_append_drop]

/-! ## Texts of puzzles -/

namespace CodeText

/-- The text of a puzzle as it is compared: without the blanks around it and the
base mark, and in lower case. -/
def lowered (text : String) : List Char :=
  (core text).map Char.toLower

/-- Characters that spell bytes write them once they are in lower case. -/
theorem SpellsBytes.exists_pairs {cs : List Char} {bytes : List UInt8} (h : SpellsBytes cs bytes) :
    ∃ pairs, cs.map Char.toLower = letters pairs ∧ List.Forall₂ Writes pairs bytes := by
  induction h with
  | nil => exact ⟨[], rfl, .nil⟩
  | @cons high low b cs bs hpair _ ih =>
    obtain ⟨pairs, hcs, hpairs⟩ := ih
    refine ⟨(high.toLower, low.toLower) :: pairs, ?_, .cons ?_ hpairs⟩
    · rw [List.map_cons, List.map_cons, hcs]
      rfl
    · rcases hpair with ⟨hhigh, hlow⟩ | ⟨hb, hhigh, hlow⟩
      · exact .inl (Prod.ext hhigh hlow)
      · exact .inr ⟨hb, Prod.ext hhigh hlow⟩

/-- An accepted text in lower case writes its bytes, pair by pair. -/
theorem exists_pairs_of_parse {text : String} {bytes : List UInt8} (h : parse text = .ok bytes) :
    ∃ pairs, lowered text = letters pairs ∧ List.Forall₂ Writes pairs bytes :=
  (spellsBytes_of_parse h).exists_pairs

end CodeText

/-! ## Templates -/

namespace Template

/-- Bytes with `n + 1` markers fall into what stands before the first of them, the
marker, and the rest, which has `n`. -/
theorem exists_of_count_placeholder {bytes : List UInt8} {n : Nat}
    (h : bytes.count placeholder = n + 1) :
    ∃ before after, bytes = before ++ placeholder :: after ∧ placeholder ∉ before ∧
      after.count placeholder = n := by
  obtain ⟨before, b, after, rfl, hbefore, hb, hafter⟩ := exists_split_of_countP h
  obtain rfl : b = placeholder := by simpa using hb
  refine ⟨before, after, rfl, ?_, hafter⟩
  intro hmem
  simpa using hbefore placeholder hmem

/-- The code of a playable template has three markers, and resolving puts the
operators in their places. -/
theorem Playable.exists_code_eq {t : Template} (h : t.Playable) (s : Solution) :
    ∃ a b c d, t.code = a ++ placeholder :: (b ++ placeholder :: (c ++ placeholder :: d)) ∧
      (placeholder ∉ a ∧ placeholder ∉ b ∧ placeholder ∉ c ∧ placeholder ∉ d) ∧
      fill t.code s.bytes =
        a ++ s.first.byte :: (b ++ s.second.byte :: (c ++ s.third.byte :: d)) := by
  obtain ⟨a, rest₁, hcode, ha, hrest₁⟩ := exists_of_count_placeholder h.count_placeholder
  obtain ⟨b, rest₂, rfl, hb, hrest₂⟩ := exists_of_count_placeholder hrest₁
  obtain ⟨c, d, rfl, hc, hd⟩ := exists_of_count_placeholder hrest₂
  refine ⟨a, b, c, d, hcode, ⟨ha, hb, hc, List.count_eq_zero.1 hd⟩, ?_⟩
  have hbytes : s.bytes = [s.first.byte, s.second.byte, s.third.byte] := rfl
  rw [hcode, hbytes, fill_append_of_not_mem ha, fill_placeholder_cons, fill_append_of_not_mem hb,
    fill_placeholder_cons, fill_append_of_not_mem hc, fill_placeholder_cons, fill_nil_right]

/-- Filling the code of a text splices the digits of the solution into the
text. -/
theorem Playable.splices {t : Template} (h : t.Playable) {text : String}
    (htext : CodeText.parse text = .ok t.code) (s : Solution) :
    Splices (CodeText.lowered text) s.text.toList (Hex.lower (fill t.code s.bytes)).toList := by
  obtain ⟨a, b, c, d, hcode, ⟨ha, hb, hc, hd⟩, hfill⟩ := h.exists_code_eq s
  obtain ⟨pairs, hpairs, hwrites⟩ := CodeText.exists_pairs_of_parse htext
  rw [hcode] at hwrites
  obtain ⟨m₁, rest₁, rfl, hm₁, hwrites⟩ := exists_of_forall₂_append_cons hwrites ha
  obtain ⟨m₂, rest₂, rfl, hm₂, hwrites⟩ := exists_of_forall₂_append_cons hwrites hb
  obtain ⟨m₃, rest₃, rfl, hm₃, hwrites⟩ := exists_of_forall₂_append_cons hwrites hc
  obtain rfl := eq_map_digitPair_of_not_mem hwrites hd
  refine ⟨a.map digitPair, b.map digitPair, c.map digitPair, d.map digitPair, m₁, m₂, m₃,
    digitPair s.first.byte, digitPair s.second.byte, digitPair s.third.byte, hpairs, ?_, ?_, ?_, ?_⟩
  · simp only [List.forall_mem_cons]
    exact ⟨hm₁.isSlotPair, hm₂.isSlotPair, hm₃.isSlotPair, List.forall_mem_nil _⟩
  · simp only [List.forall_mem_append]
    exact ⟨⟨⟨not_isSlotPair_of_mem_map ha, not_isSlotPair_of_mem_map hb⟩,
      not_isSlotPair_of_mem_map hc⟩, not_isSlotPair_of_mem_map hd⟩
  · rw [Solution.text, Hex.toList_lower, ← letters_map_digitPair]
    rfl
  · rw [hfill, Hex.toList_lower, ← letters_map_digitPair]
    simp only [List.map_append, List.map_cons]

end Template

/-! ## Links -/

/-- A list falls at the first place of an element into two parts only. -/
theorem eq_and_eq_of_append_cons_eq {α : Type} {a : α} {x y x' y' : List α}
    (h : x ++ a :: y = x' ++ a :: y') (hx : a ∉ x) (hx' : a ∉ x') : x = x' ∧ y = y' := by
  induction x generalizing x' with
  | nil =>
    cases x' with
    | nil => exact ⟨rfl, (List.cons_eq_cons.1 h).2⟩
    | cons b x' =>
      obtain rfl : a = b := (List.cons_eq_cons.1 h).1
      exact absurd List.mem_cons_self hx'
  | cons c x ih =>
    cases x' with
    | nil =>
      obtain rfl : c = a := (List.cons_eq_cons.1 h).1
      exact absurd List.mem_cons_self hx
    | cons b x' =>
      rw [List.mem_cons, not_or] at hx hx'
      obtain ⟨rfl, hrest⟩ := List.cons_eq_cons.1 h
      obtain ⟨rfl, rfl⟩ := ih hrest hx.2 hx'.2
      exact ⟨rfl, rfl⟩

/-- A list with two marks falls into what stands before, between and behind them
in one way only. -/
theorem eq_of_two_marks {α : Type} [DecidableEq α] {a : α} {x y z x' y' z' : List α}
    (h : x ++ a :: (y ++ a :: z) = x' ++ a :: (y' ++ a :: z')) (hx : a ∉ x) (hy : a ∉ y)
    (hz : a ∉ z) : y = y' := by
  -- Both sides hold the element twice, so that there is none in `x'` and in `y'`.
  have hcount := congrArg (List.count a) h
  simp only [List.count_append, List.count_cons_self, List.count_eq_zero.2 hx,
    List.count_eq_zero.2 hy, List.count_eq_zero.2 hz] at hcount
  obtain ⟨_, hrest⟩ := eq_and_eq_of_append_cons_eq h hx (List.count_eq_zero.1 (by omega))
  exact (eq_and_eq_of_append_cons_eq hrest hy (List.count_eq_zero.1 (by omega))).1

/-- The characters of a text that shows something between the marks of a link. -/
theorem toList_marked (before shown after : String) :
    (before ++ "code=%27" ++ shown ++ "%27_" ++ after).toList =
      (before.toList ++ ['c', 'o', 'd', 'e', '=']) ++
        '%' :: (('2' :: '7' :: shown.toList) ++ '%' :: ('2' :: '7' :: '_' :: after.toList)) := by
  simp

/-- Between the marks of a link, what stands there can be read in one way only,
unless it or the text around it holds the sign that marks begin with. -/
theorem eq_of_marked_eq {front code before shown after : String} (hfront : '%' ∉ front.toList)
    (hcode : '%' ∉ code.toList)
    (h : front ++ "code=%27" ++ code ++ "%27_" = before ++ "code=%27" ++ shown ++ "%27_" ++ after) :
    shown = code := by
  rw [← String.append_empty (s := front ++ "code=%27" ++ code ++ "%27_")] at h
  have hlists := congrArg String.toList h
  rw [toList_marked, toList_marked] at hlists
  have hbetween := eq_of_two_marks hlists (by simp [hfront]) (by simp [hcode]) (by decide)
  exact String.toList_injective (by simpa using hbetween.symm)

/-- No digit is a percent sign. -/
theorem percent_not_mem_lower (code : List UInt8) : '%' ∉ (Hex.lower code).toList :=
  (isWord_lower code).not_mem rfl

/-- What a link shows between its marks is the code, and only that, as long as the
call data does not hold the sign that marks begin with. -/
theorem exists_playgroundLink_eq_iff {callData : String} (hcall : '%' ∉ callData.toList)
    (code : List UInt8) (shown : String) :
    (∃ before after, playgroundLink callData code =
      before ++ "code=%27" ++ shown ++ "%27_" ++ after) ↔ shown = Hex.lower code := by
  let front := "https://www.evm.codes/playground?callValue=0&unit=Wei&callData=0x" ++ callData ++
    "&codeType=Bytecode&"
  have hfront : '%' ∉ front.toList := by
    simp only [front, String.toList_append, List.mem_append, not_or]
    exact ⟨⟨by decide, hcall⟩, by decide⟩
  have hlink : playgroundLink callData code =
      front ++ "code=%27" ++ Hex.lower code ++ "%27_" := by
    have hmark : "&codeType=Bytecode&code=%27" = "&codeType=Bytecode&" ++ "code=%27" := by
      decide +kernel
    unfold playgroundLink
    rw [hmark, ← String.append_assoc]
  rw [hlink]
  constructor
  · rintro ⟨before, after, h⟩
    exact eq_of_marked_eq hfront (percent_not_mem_lower code) h
  · rintro rfl
    exact ⟨front, "", String.append_empty.symm⟩

/-! ## Main theorem -/

/-- Resolving a puzzle splices the player's digits into the puzzle's text.

For every text that is accepted as a puzzle and every text that is accepted as a
solution, the solution resolves the puzzle, and the resolved code in hexadecimal
is the text of the puzzle, without the blanks around it and the base mark and in
lower case, with its three slot pairs replaced from left to right by the three
pairs of the solution's text.  All other pairs are no slot pairs, and stay.  The
link to the run shows the same between its marks, and only that. -/
theorem Template.resolve_splices_text {id : Nat} {text answer : String} {t : Template}
    {s : Solution} (htext : Template.ofText id text = .ok t)
    (hanswer : Solution.ofText? answer = some s) :
    ∃ filled, t.resolve s = .ok filled ∧
      Splices (CodeText.lowered text) answer.toList (Hex.lower filled).toList ∧
      ∀ shown, (∃ before after, playgroundLink defaultCallData filled =
        before ++ "code=%27" ++ shown ++ "%27_" ++ after) ↔ shown = Hex.lower filled := by
  obtain ⟨code, hparse, hcode⟩ := Template.exists_of_ofText htext
  obtain ⟨_, rfl, hplayable⟩ := Template.ofCode_eq_ok_iff.1 hcode
  have hsplices := hplayable.splices hparse s
  rw [Solution.text_of_ofText? hanswer] at hsplices
  refine ⟨fill t.code s.bytes, hplayable.resolve_eq s, hsplices, fun shown => ?_⟩
  exact exists_playgroundLink_eq_iff (by decide) (fill t.code s.bytes) shown

/-- A text with blanks, a base mark and slots in all spellings takes the digits of a
solution. -/
theorem Template.splices_of_sample :
    let t : Template := ⟨3, [0x60, 0x03, 0xCC, 0xCC, 0x5B, 0xCC],
      [⟨0, 0x60, .push 1, [0x03]⟩, .bare 2 0xCC, .bare 3 0xCC, .bare 4 0x5B, .bare 5 0xCC]⟩
    Template.ofText 3 " 0X6003xXcC5BXx\n" = .ok t ∧
      Solution.ofText? "040302" = some ⟨.div, .sub, .mul⟩ ∧
      ∃ filled, t.resolve ⟨.div, .sub, .mul⟩ = .ok filled ∧ Hex.lower filled = "600304035b02" ∧
        Splices "6003xxcc5bxx".toList "040302".toList "600304035b02".toList := by
  intro t
  have htext : Template.ofText 3 " 0X6003xXcC5BXx\n" = .ok t := by decide +kernel
  have hanswer : Solution.ofText? "040302" = some ⟨.div, .sub, .mul⟩ := by decide +kernel
  have hfilled : t.resolve ⟨.div, .sub, .mul⟩ = .ok [0x60, 0x03, 0x04, 0x03, 0x5B, 0x02] := by
    decide +kernel
  have hlowered : CodeText.lowered " 0X6003xXcC5BXx\n" = "6003xxcc5bxx".toList := by
    decide +kernel
  have hshown : Hex.lower [0x60, 0x03, 0x04, 0x03, 0x5B, 0x02] = "600304035b02" := by
    decide +kernel
  obtain ⟨filled, hresolve, hsplices, _⟩ := Template.resolve_splices_text htext hanswer
  obtain rfl : [0x60, 0x03, 0x04, 0x03, 0x5B, 0x02] = filled := by
    simpa [hfilled] using hresolve
  rw [hlowered, hshown] at hsplices
  exact ⟨htext, hanswer, _, hfilled, hshown, hsplices⟩

end MakeTen
