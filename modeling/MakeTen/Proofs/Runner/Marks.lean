import MakeTen.Proofs.Puzzle.Filling
import MakeTen.Proofs.Text.Parts
import MakeTen.Proofs.Text.Replacing
import MakeTen.Proofs.Text.Words
import MakeTen.Runner.Verdict
/-!
# Marks in arguments

An argument is filled mark by mark: first the code, then the call data, the gas limit and
the account.  What has been put in is looked at again for the marks whose turn is still to
come.  The code of a resolved template and a gas limit can never become part of a mark,
and the account comes last; the call data can, by itself or together with what stands
around it.  So filling mark by mark comes to the same as filling all marks of the argument
at once exactly as long as putting in the call data brings in no mark.

An argument is taken apart into pieces for this: characters and marks.  Half-filled
arguments are pieces as well, in which some marks have given way to the characters of
their values.

Main results:

- Function `RunnerSettings.fillAtOnce`: an argument with all its marks filled in one pass.
- Theorem `RunnerSettings.all_spell`: replacing a mark in a spelled text fills the pieces,
  unless the mark has come about in it.
- Theorem `RunnerSettings.fillArgument_eq`: an argument is filled in two passes.
- Theorem `RunnerSettings.arising_put_of_isInert`: values that bring in no mark.
- Theorem `RunnerSettings.fillArguments_iff_no_mark_arises`: when filling mark by mark is
  filling at once.
-/

namespace MakeTen
namespace RunnerSettings

/-! ## Marks -/

/-- What changes in an argument from run to run. -/
inductive Mark where
  | code | callData | gas | address
  deriving Repr, DecidableEq

namespace Mark

/-- How a mark is written. -/
def text : Mark → String
  | code => codeMark
  | callData => callDataMark
  | gas => gasMark
  | address => addressMark

/-- All marks, in the order in which they are filled. -/
def all : List Mark := [code, callData, gas, address]

theorem mem_all (m : Mark) : m ∈ all := by
  cases m <;> decide

/-- What follows the opening brace of a mark. -/
def rest (m : Mark) : List Char := m.text.toList.tail

theorem toList_text (m : Mark) : m.text.toList = '\x7b' :: m.rest := by
  cases m <;> rfl

/-- A mark has one opening brace. -/
theorem not_mem_rest (m : Mark) : '\x7b' ∉ m.rest := by
  cases m <;> decide

/-- A mark ends with a closing brace. -/
theorem rest_eq (m : Mark) : m.rest = m.rest.dropLast ++ ['\x7d'] := by
  cases m <;> rfl

/-- No mark begins like another. -/
theorem eq_of_prefix {m k : Mark} {cs : List Char} (h : m.text.toList <+: k.text.toList ++ cs) :
    m = k := by
  have table : ∀ m k : Mark, m.text.toList <+: k.text.toList → m = k := by
    intro m k
    cases m <;> cases k <;> decide
  rcases List.prefix_or_prefix_of_prefix h (List.prefix_append _ _) with hprefix | hprefix
  · exact table m k hprefix
  · exact (table k m hprefix).symm

end Mark

/-- What a mark is replaced by when `code` is judged. -/
def value (s : RunnerSettings) (code : List UInt8) : Mark → String
  | .code => Hex.lower code
  | .callData => s.callData
  | .gas => toString s.gasLimit
  | .address => s.address

/-! ## Pieces -/

/-- A piece of an argument. -/
inductive Piece where
  | plain (c : Char)
  | mark (m : Mark)
  deriving Repr, DecidableEq

/-- Pieces with the marks replaced by their values. -/
def fillPieces (value : Mark → List Char) : List Piece → List Char
  | [] => []
  | .plain c :: ps => c :: fillPieces value ps
  | .mark m :: ps => value m ++ fillPieces value ps

/-- The characters of some pieces. -/
def spell (ps : List Piece) : List Char :=
  fillPieces (fun m => m.text.toList) ps

/-- The mark at the head of a text, if there is one. -/
def markAt? (cs : List Char) : Option Mark :=
  Mark.all.find? fun m => m.text.toList.isPrefixOf cs

/-- The pieces of a text after `skip` characters that belong to a mark. -/
def piecesAfter (skip : Nat) : List Char → List Piece
  | [] => []
  | c :: cs =>
    match skip with
    | n + 1 => piecesAfter n cs
    | 0 =>
      match markAt? (c :: cs) with
      | some m => .mark m :: piecesAfter m.rest.length cs
      | none => .plain c :: piecesAfter 0 cs

/-- The pieces of a text, from left to right. -/
def pieces (cs : List Char) : List Piece :=
  piecesAfter 0 cs

/-- A text with some of its marks replaced in one pass from left to right.  What is put in
is not looked at. -/
def fillMarks (s : RunnerSettings) (marks : List Mark) (code : List UInt8) (cs : List Char) :
    List Char :=
  fillPieces (fun m => if m ∈ marks then (s.value code m).toList else m.text.toList) (pieces cs)

/-- An argument with all its marks replaced in one pass. -/
def fillAtOnce (s : RunnerSettings) (code : List UInt8) (argument : String) : String :=
  String.ofList (s.fillMarks Mark.all code argument.toList)

/-- Pieces with one mark replaced by the characters of its value. -/
def put (m : Mark) (v : List Char) : List Piece → List Piece
  | [] => []
  | .plain c :: ps => .plain c :: put m v ps
  | .mark k :: ps => if k = m then v.map .plain ++ put m v ps else .mark k :: put m v ps

/-- How many marks of a kind have come about in some pieces: they begin at a character
that is not a mark. -/
def arising (m : Mark) : List Piece → Nat
  | [] => 0
  | .plain c :: ps =>
    (if m.text.toList <+: c :: spell ps then 1 else 0) + arising m ps
  | .mark _ :: ps => arising m ps

@[simp]
theorem fillPieces_append (value : Mark → List Char) (ps qs : List Piece) :
    fillPieces value (ps ++ qs) = fillPieces value ps ++ fillPieces value qs := by
  induction ps with
  | nil => rfl
  | cons p ps ih => cases p <;> simp [fillPieces, ih]

@[simp]
theorem fillPieces_map_plain (value : Mark → List Char) (cs : List Char) :
    fillPieces value (cs.map .plain) = cs := by
  induction cs with
  | nil => rfl
  | cons c cs ih => rw [List.map_cons, fillPieces, ih]

@[simp]
theorem spell_plain (c : Char) (ps : List Piece) : spell (.plain c :: ps) = c :: spell ps := rfl

@[simp]
theorem spell_mark (m : Mark) (ps : List Piece) :
    spell (.mark m :: ps) = m.text.toList ++ spell ps := rfl

@[simp]
theorem spell_append (ps qs : List Piece) : spell (ps ++ qs) = spell ps ++ spell qs :=
  fillPieces_append _ ps qs

theorem spell_map_plain_append (cs : List Char) (ps : List Piece) :
    spell (cs.map .plain ++ ps) = cs ++ spell ps := by
  rw [spell_append, spell, fillPieces_map_plain]

/-- A mark that was put in need not be filled any more. -/
theorem fillPieces_put (value : Mark → List Char) (m : Mark) (v : List Char) (ps : List Piece) :
    fillPieces value (put m v ps) = fillPieces (fun k => if k = m then v else value k) ps := by
  induction ps with
  | nil => rfl
  | cons p ps ih =>
    cases p with
    | plain c => rw [put, fillPieces, fillPieces, ih]
    | mark k =>
      rw [put, fillPieces, ← ih]
      split
      · rw [fillPieces_append, fillPieces_map_plain]
      · rw [fillPieces]

/-! ## The pieces of a text -/

theorem prefix_of_markAt? {cs : List Char} {m : Mark} (h : markAt? cs = some m) :
    m.text.toList <+: cs := by
  unfold markAt? at h
  have hfound := List.find?_some h
  exact List.isPrefixOf_iff_prefix.1 hfound

theorem not_prefix_of_markAt? {cs : List Char} (h : markAt? cs = none) (m : Mark) :
    ¬ m.text.toList <+: cs := by
  rw [← List.isPrefixOf_iff_prefix]
  exact List.find?_eq_none.1 h m m.mem_all

theorem spell_piecesAfter (skip : Nat) (cs : List Char) :
    spell (piecesAfter skip cs) = cs.drop skip := by
  induction cs generalizing skip with
  | nil =>
    rw [List.drop_nil]
    rfl
  | cons c cs ih =>
    cases skip with
    | succ n => exact ih n
    | zero =>
      rw [piecesAfter, List.drop_zero]
      split
      · rename_i m hmark
        obtain ⟨more, hmore⟩ := prefix_of_markAt? hmark
        rw [m.toList_text, List.cons_append, List.cons.injEq] at hmore
        obtain ⟨rfl, rfl⟩ := hmore
        rw [spell_mark, ih, List.drop_left, m.toList_text, List.cons_append]
      · rw [spell_plain, ih, List.drop_zero]

/-- The pieces of a text spell it. -/
theorem spell_pieces (cs : List Char) : spell (pieces cs) = cs :=
  spell_piecesAfter 0 cs

theorem arising_piecesAfter (m : Mark) (skip : Nat) (cs : List Char) :
    arising m (piecesAfter skip cs) = 0 := by
  induction cs generalizing skip with
  | nil => rfl
  | cons c cs ih =>
    cases skip with
    | succ n => exact ih n
    | zero =>
      rw [piecesAfter]
      split
      · exact ih _
      · rename_i hnone
        have hspell : spell (piecesAfter 0 cs) = cs := spell_pieces cs
        rw [arising, ih, hspell, if_neg]
        exact not_prefix_of_markAt? hnone m

/-- Every mark of a text is a piece of it. -/
theorem arising_pieces (m : Mark) (cs : List Char) : arising m (pieces cs) = 0 :=
  arising_piecesAfter m 0 cs

/-! ## Replacing a mark -/

/-- Replacing a mark in a spelled text fills the pieces, unless the mark has come about
in it. -/
theorem all_spell {m : Mark} {ps : List Piece} (h : arising m ps = 0) (v : List Char) :
    Replace.all m.text.toList v (spell ps) = spell (put m v ps) := by
  induction ps with
  | nil => rfl
  | cons p ps ih =>
    cases p with
    | plain c =>
      rw [arising, Nat.add_eq_zero_iff] at h
      have hstart : ¬ m.text.toList <+: c :: spell ps := by
        intro hprefix
        rw [if_pos hprefix] at h
        exact absurd h.1 (by decide)
      rw [spell_plain, Replace.all_cons_of_not_prefix hstart, ih h.2, put, spell_plain]
    | mark k =>
      rw [arising] at h
      by_cases hk : k = m
      · subst hk
        rw [spell_mark, put, if_pos rfl, spell_map_plain_append, ← ih h, k.toList_text]
        exact Replace.all_append_self _
      · -- The mark begins neither at the opening brace of another nor behind it.
        have hstart : ¬ m.text.toList <+: '\x7b' :: (k.rest ++ spell ps) := by
          rw [← List.cons_append, ← k.toList_text]
          exact fun hprefix => hk (Mark.eq_of_prefix hprefix).symm
        rw [spell_mark, put, if_neg hk, spell_mark, ← ih h, k.toList_text, List.cons_append,
          Replace.all_cons_of_not_prefix hstart, m.toList_text,
          Replace.all_append_of_not_mem k.not_mem_rest, List.cons_append]

/-- A mark occurs in a spelled text where it is a piece and where it has come about. -/
theorem occurrences_spell (m : Mark) (ps : List Piece) :
    Replace.occurrences m.text.toList (spell ps) = ps.count (.mark m) + arising m ps := by
  induction ps with
  | nil => rfl
  | cons p ps ih =>
    cases p with
    | plain c =>
      rw [spell_plain, Replace.occurrences, ih, arising, List.count_cons_of_ne (by simp)]
      omega
    | mark k =>
      have hrest : Replace.occurrences m.text.toList (k.rest ++ spell ps) =
          Replace.occurrences m.text.toList (spell ps) := by
        rw [m.toList_text]
        exact Replace.occurrences_append_of_not_mem k.not_mem_rest _
      rw [spell_mark, k.toList_text, List.cons_append, Replace.occurrences, hrest, ih, arising,
        ← List.cons_append, ← k.toList_text]
      by_cases hk : k = m
      · subst hk
        rw [if_pos (List.prefix_append _ _), List.count_cons_self]
        omega
      · have hne : Piece.mark k ≠ .mark m := fun h => hk (Piece.mark.inj h)
        rw [if_neg fun hprefix => hk (Mark.eq_of_prefix hprefix).symm,
          List.count_cons_of_ne hne, Nat.zero_add]

/-! ## Values that bring in no mark -/

/-- A value that cannot become part of a mark: it has no brace, and a character that no
mark has. -/
def IsInert (v : List Char) : Prop :=
  '\x7b' ∉ v ∧ '\x7d' ∉ v ∧ ∃ c ∈ v, ∀ m : Mark, c ∉ m.text.toList

/-- What holds no opening brace does not reach into a mark. -/
theorem prefix_text_append_iff {w : List Char} (h : '\x7b' ∉ w) (m : Mark) (cs : List Char) :
    w <+: m.text.toList ++ cs ↔ w = [] := by
  rw [m.toList_text, List.cons_append, List.prefix_cons_iff]
  constructor
  · rintro (hnil | ⟨_, rfl, -⟩)
    · exact hnil
    · exact absurd List.mem_cons_self h
  · exact .inl

/-- What ends a mark does not reach over an inert value. -/
theorem prefix_inert_append_iff {m : Mark} {w v : List Char} (hw : w <:+ m.rest)
    (hv : IsInert v) (cs : List Char) : w <+: v ++ cs ↔ w = [] := by
  obtain ⟨-, hclose, c, hc, hforeign⟩ := hv
  constructor
  · intro h
    rw [m.rest_eq] at hw
    rcases List.suffix_concat_iff.1 hw with hnil | ⟨front, rfl, -⟩
    · exact hnil
    · rcases List.prefix_or_prefix_of_prefix h (List.prefix_append v cs) with hinside | hover
      · exact absurd (hinside.subset (by simp)) hclose
      · -- A value that lies inside the mark has no character of its own.
        rw [← m.rest_eq] at hw
        refine absurd ?_ (hforeign m)
        rw [m.toList_text]
        exact List.mem_cons_of_mem _ (hw.subset (hover.subset hc))
  · rintro rfl
    exact List.nil_prefix

/-- What ends a mark follows a place exactly if it did so before an inert value was put
in. -/
theorem prefix_spell_put_iff {k : Mark} {w : List Char} (hw : w <:+ k.rest) (m : Mark)
    {v : List Char} (hv : IsInert v) (ps : List Piece) :
    w <+: spell (put m v ps) ↔ w <+: spell ps := by
  induction ps generalizing w with
  | nil => rfl
  | cons p ps ih =>
    cases p with
    | plain c =>
      rw [put, spell_plain, spell_plain]
      cases w with
      | nil => simp
      | cons d w =>
        rw [List.cons_prefix_cons, List.cons_prefix_cons, ih ((List.suffix_cons d w).trans hw)]
    | mark l =>
      have hopen : '\x7b' ∉ w := fun h => k.not_mem_rest (hw.subset h)
      rw [put, spell_mark, prefix_text_append_iff hopen]
      split
      · rw [spell_map_plain_append, prefix_inert_append_iff hw hv]
      · rw [spell_mark, prefix_text_append_iff hopen]

/-- Characters of which none is an opening brace begin no mark. -/
theorem arising_map_plain_append (k : Mark) {v : List Char} (h : '\x7b' ∉ v) (ps : List Piece) :
    arising k (v.map .plain ++ ps) = arising k ps := by
  induction v with
  | nil => rfl
  | cons c v ih =>
    rw [List.mem_cons, not_or] at h
    rw [List.map_cons, List.cons_append, arising, ih h.2, if_neg, Nat.zero_add]
    rw [k.toList_text, List.cons_prefix_cons]
    exact fun hprefix => h.1 hprefix.1

/-- No mark comes about when an inert value is put in. -/
theorem arising_put_of_isInert (k m : Mark) {v : List Char} (hv : IsInert v) (ps : List Piece) :
    arising k (put m v ps) = arising k ps := by
  induction ps with
  | nil => rfl
  | cons p ps ih =>
    cases p with
    | plain c =>
      have hiff : k.text.toList <+: c :: spell (put m v ps) ↔ k.text.toList <+: c :: spell ps := by
        rw [k.toList_text, List.cons_prefix_cons, List.cons_prefix_cons,
          prefix_spell_put_iff (List.suffix_refl _) m hv]
      rw [put, arising, arising, ih]
      simp only [hiff]
    | mark l =>
      rw [put, arising]
      split
      · rw [arising_map_plain_append k hv.1, ih]
      · rw [arising, ih]

/-- Without an opening brace that is no mark, no mark has come about. -/
theorem arising_of_not_mem {ps : List Piece} (h : .plain '\x7b' ∉ ps) (k : Mark) :
    arising k ps = 0 := by
  induction ps with
  | nil => rfl
  | cons p ps ih =>
    rw [List.mem_cons, not_or] at h
    cases p with
    | plain c =>
      rw [arising, ih h.2, if_neg]
      rw [k.toList_text, List.cons_prefix_cons]
      rintro ⟨rfl, -⟩
      exact h.1 rfl
    | mark l => exact ih h.2

/-- Values without opening braces leave it at that. -/
theorem not_mem_put {ps : List Piece} (h : .plain '\x7b' ∉ ps) (m : Mark) {v : List Char}
    (hv : '\x7b' ∉ v) : .plain '\x7b' ∉ put m v ps := by
  induction ps with
  | nil => exact List.not_mem_nil
  | cons p ps ih =>
    rw [List.mem_cons, not_or] at h
    cases p with
    | plain c => exact List.not_mem_cons_of_ne_of_not_mem h.1 (ih h.2)
    | mark l =>
      rw [put]
      split
      · rw [List.mem_append, List.mem_map, not_or]
        refine ⟨?_, ih h.2⟩
        rintro ⟨c, hc, heq⟩
        exact hv (Piece.plain.inj heq ▸ hc)
      · exact List.not_mem_cons_of_ne_of_not_mem Piece.noConfusion (ih h.2)

/-- Without a mark there is nothing to put in. -/
theorem put_of_not_mem {m : Mark} {ps : List Piece} (h : .mark m ∉ ps) (v : List Char) :
    put m v ps = ps := by
  induction ps with
  | nil => rfl
  | cons p ps ih =>
    rw [List.mem_cons, not_or] at h
    cases p with
    | plain c => rw [put, ih h.2]
    | mark k => rw [put, if_neg fun hk : k = m => h.1 (hk ▸ rfl), ih h.2]

/-- A word without braces is inert if it has a character that no mark has. -/
theorem isInert_of_isWord {text : String} (h : IsWord text) {c : Char} (hc : c ∈ text.toList)
    (hforeign : ∀ m : Mark, c ∉ m.text.toList) : IsInert text.toList :=
  ⟨h.not_mem rfl, h.not_mem rfl, c, hc, hforeign⟩

/-- No mark has a digit. -/
theorem not_mem_text_of_digit {n : Nat} (hn : n < 10) (m : Mark) :
    Nat.digitChar n ∉ m.text.toList := by
  have table : ∀ n : Fin 10, Nat.digitChar n ∉ m.text.toList := by
    cases m <;> decide
  exact table ⟨n, hn⟩

/-- A number in decimal digits is inert. -/
theorem isInert_toString (n : Nat) : IsInert (toString n).toList := by
  have hdigits : (toString n).toList = Nat.toDigits 10 n := by
    rw [Nat.toString_eq_repr, Nat.toList_repr]
  obtain ⟨c, hc⟩ := List.exists_mem_of_ne_nil (Nat.toDigits 10 n) Nat.toDigits_ne_nil
  obtain ⟨k, hk, rfl⟩ := exists_digitChar_of_mem_toDigits (by decide) hc
  exact isInert_of_isWord (isWord_toString n) (hdigits ▸ hc) (not_mem_text_of_digit hk)

/-- The first operator takes the place of the first marker. -/
theorem mem_fill_cons {code : List UInt8} (h : placeholder ∈ code) (operator : UInt8)
    (operators : List UInt8) : operator ∈ fill code (operator :: operators) := by
  induction code with
  | nil => exact absurd h List.not_mem_nil
  | cons b code ih =>
    rw [fill]
    split
    · exact List.mem_cons_self
    · rename_i hb
      exact List.mem_cons_of_mem _ (ih ((List.mem_cons.1 h).resolve_left (Ne.symm hb)))

/-- The code of a resolved template is inert: an operator is written with a zero. -/
theorem isInert_lower {t : Template} (ht : t.Playable) (s : Solution) :
    IsInert (Hex.lower (fill t.code s.bytes)).toList := by
  have hslot : placeholder ∈ t.code := by
    rw [← List.count_pos_iff, ht.count_placeholder]
    decide
  have hzero : Nat.digitChar 0 ∈ Hex.lowerPair s.first.byte := by
    cases s.first <;> decide
  refine isInert_of_isWord (isWord_lower _) (c := Nat.digitChar 0) ?_
    (not_mem_text_of_digit (by decide))
  rw [Hex.toList_lower, List.mem_flatMap]
  exact ⟨_, mem_fill_cons hslot s.first.byte _, hzero⟩

/-! ## Counting marks -/

/-- Putting in one mark leaves the others. -/
theorem count_put_of_ne {k m : Mark} (h : k ≠ m) (v : List Char) (ps : List Piece) :
    (put m v ps).count (.mark k) = ps.count (.mark k) := by
  induction ps with
  | nil => rfl
  | cons p ps ih =>
    cases p with
    | plain c =>
      rw [put, List.count_cons_of_ne Piece.noConfusion, List.count_cons_of_ne Piece.noConfusion, ih]
    | mark l =>
      rw [put]
      split
      · rename_i hl
        have hplain : (v.map Piece.plain).count (.mark k) = 0 := by
          rw [List.count_eq_zero]
          simp
        have hne : Piece.mark l ≠ .mark k := fun heq => h (hl ▸ (Piece.mark.inj heq).symm)
        rw [List.count_append, hplain, Nat.zero_add, ih, List.count_cons_of_ne hne]
      · rw [List.count_cons, List.count_cons, ih]

/-- With each mark that is filled an opening brace goes, unless one comes in. -/
theorem count_spell_put {v : List Char} (hv : '\x7b' ∉ v) (m : Mark) (ps : List Piece) :
    (spell (put m v ps)).count '\x7b' + ps.count (.mark m) = (spell ps).count '\x7b' := by
  induction ps with
  | nil => rfl
  | cons p ps ih =>
    cases p with
    | plain c =>
      have hne : Piece.plain c ≠ .mark m := Piece.noConfusion
      rw [put, spell_plain, spell_plain, List.count_cons_of_ne hne, List.count_cons, List.count_cons]
      omega
    | mark l =>
      have hone : l.text.toList.count '\x7b' = 1 := by
        rw [l.toList_text, List.count_cons_self, List.count_eq_zero.2 l.not_mem_rest]
      rw [put, spell_mark, List.count_append, hone]
      split
      · rename_i hl
        subst hl
        rw [spell_map_plain_append, List.count_append, List.count_eq_zero.2 hv,
          List.count_cons_self]
        omega
      · rename_i hl
        have hne : Piece.mark l ≠ .mark m := fun heq => hl (Piece.mark.inj heq)
        rw [spell_mark, List.count_append, hone, List.count_cons_of_ne hne]
        omega

/-! ## Filling mark by mark -/

/-- The pieces of an argument after the code and the call data have been put in. -/
def half (s : RunnerSettings) (code : List UInt8) (argument : String) : List Piece :=
  put .callData s.callData.toList (put .code (Hex.lower code).toList (pieces argument.toList))

/-- Some pieces after the gas limit and the account have been put in. -/
def finish (s : RunnerSettings) (ps : List Piece) : List Piece :=
  put .address s.address.toList (put .gas (toString s.gasLimit).toList ps)

/-- An argument with the code and the call data put in at once, before the other marks are
looked for. -/
def halfFilled (s : RunnerSettings) (code : List UInt8) (argument : String) : List Char :=
  s.fillMarks [.code, .callData] code argument.toList

/-- The marks for the gas limit and the account are as many as they were before the code
and the call data were put in. -/
def NoneArises (s : RunnerSettings) (code : List UInt8) (argument : String) : Prop :=
  ∀ m ∈ [Mark.gas, .address],
    Replace.occurrences m.text.toList (s.halfFilled code argument) =
      Replace.occurrences m.text.toList argument.toList

theorem fillArgument_eq_all (s : RunnerSettings) (code : List UInt8) (argument : String) :
    s.fillArgument code argument =
      String.ofList (Replace.all addressMark.toList s.address.toList
        (Replace.all gasMark.toList (toString s.gasLimit).toList
          (Replace.all callDataMark.toList s.callData.toList
            (Replace.all codeMark.toList (Hex.lower code).toList argument.toList)))) := rfl

theorem spell_half (s : RunnerSettings) (code : List UInt8) (argument : String) :
    spell (s.half code argument) = s.halfFilled code argument := by
  rw [spell, half, fillPieces_put, fillPieces_put, halfFilled, fillMarks]
  congr 1
  funext m
  cases m <;> rfl

theorem spell_finish (s : RunnerSettings) (code : List UInt8) (cs : List Char) :
    spell (s.finish (pieces cs)) = s.fillMarks [.gas, .address] code cs := by
  rw [spell, finish, fillPieces_put, fillPieces_put, fillMarks]
  congr 1
  funext m
  cases m <;> rfl

theorem spell_finish_half (s : RunnerSettings) (code : List UInt8) (argument : String) :
    spell (s.finish (s.half code argument)) = s.fillMarks Mark.all code argument.toList := by
  rw [spell, finish, half, fillPieces_put, fillPieces_put, fillPieces_put, fillPieces_put,
    fillMarks]
  congr 1
  funext m
  cases m <;> rfl

/-- Once no mark of the last two has come about in some pieces, replacing them fills the
pieces. -/
theorem all_all_spell (s : RunnerSettings) {ps : List Piece} (hgas : arising .gas ps = 0)
    (haddress : arising .address ps = 0) :
    Replace.all addressMark.toList s.address.toList
        (Replace.all gasMark.toList (toString s.gasLimit).toList (spell ps)) =
      spell (s.finish ps) := by
  have hlast : arising .address (put .gas (toString s.gasLimit).toList ps) = 0 := by
    rw [arising_put_of_isInert _ _ (isInert_toString s.gasLimit), haddress]
  calc
    Replace.all addressMark.toList s.address.toList
        (Replace.all gasMark.toList (toString s.gasLimit).toList (spell ps)) =
        Replace.all addressMark.toList s.address.toList
          (spell (put .gas (toString s.gasLimit).toList ps)) :=
      congrArg _ (all_spell hgas _)
    _ = spell (s.finish ps) := all_spell hlast _

/-- Each of the last two marks that is filled takes an opening brace with it, if the
account brings in none. -/
theorem count_spell_finish {s : RunnerSettings} (h : '\x7b' ∉ s.address.toList)
    (ps : List Piece) :
    (spell (s.finish ps)).count '\x7b' + ps.count (.mark .address) + ps.count (.mark .gas) =
      (spell ps).count '\x7b' := by
  have hgas := count_spell_put (isInert_toString s.gasLimit).1 .gas ps
  have hlast := count_spell_put h .address (put .gas (toString s.gasLimit).toList ps)
  rw [count_put_of_ne (by decide)] at hlast
  rw [finish]
  omega

/-- Marks are as many as before exactly if none has come about. -/
theorem occurrences_halfFilled_eq_iff (s : RunnerSettings) (code : List UInt8)
    (argument : String) {m : Mark} (hm : m ≠ .code) (hm' : m ≠ .callData) :
    Replace.occurrences m.text.toList (s.halfFilled code argument) =
        Replace.occurrences m.text.toList argument.toList ↔
      arising m (s.half code argument) = 0 := by
  have hbefore : Replace.occurrences m.text.toList argument.toList =
      (pieces argument.toList).count (.mark m) := by
    conv_lhs => rw [← spell_pieces argument.toList]
    rw [occurrences_spell, arising_pieces, Nat.add_zero]
  rw [← spell_half, occurrences_spell, hbefore, half, count_put_of_ne hm',
    count_put_of_ne hm]
  omega

theorem noneArises_iff {s : RunnerSettings} {code : List UInt8} {argument : String} :
    s.NoneArises code argument ↔
      arising .gas (s.half code argument) = 0 ∧ arising .address (s.half code argument) = 0 := by
  rw [NoneArises, List.forall_mem_cons, List.forall_mem_singleton,
    occurrences_halfFilled_eq_iff s code argument (by decide) (by decide),
    occurrences_halfFilled_eq_iff s code argument (by decide) (by decide)]

/-- The account comes last. -/
theorem noneArises_with_address_iff (s : RunnerSettings) (address : String) (code : List UInt8)
    (argument : String) :
    { s with address }.NoneArises code argument ↔ s.NoneArises code argument := by
  have hhalf : { s with address }.halfFilled code argument = s.halfFilled code argument := by
    rw [← spell_half, ← spell_half]
    rfl
  rw [NoneArises, NoneArises, hhalf]

section Inert

variable {code : List UInt8} (hcode : IsInert (Hex.lower code).toList) (s : RunnerSettings)
  (argument : String)
include hcode

theorem all_all_eq_halfFilled :
    Replace.all callDataMark.toList s.callData.toList
        (Replace.all codeMark.toList (Hex.lower code).toList argument.toList) =
      s.halfFilled code argument := by
  have hfirst : Replace.all codeMark.toList (Hex.lower code).toList argument.toList =
      spell (put .code (Hex.lower code).toList (pieces argument.toList)) := by
    conv_lhs => rw [← spell_pieces argument.toList]
    exact all_spell (arising_pieces .code _) _
  have hquiet : arising .callData (put .code (Hex.lower code).toList (pieces argument.toList)) =
      0 := by
    rw [arising_put_of_isInert _ _ hcode, arising_pieces]
  rw [hfirst, ← spell_half]
  exact all_spell hquiet _

/-- An argument is filled in two passes: what comes in with the call data is looked at
again in the second. -/
theorem fillArgument_eq :
    s.fillArgument code argument =
      String.ofList (s.fillMarks [.gas, .address] code (s.halfFilled code argument)) := by
  rw [fillArgument_eq_all, all_all_eq_halfFilled hcode, ← spell_finish,
    ← all_all_spell s (arising_pieces _ _) (arising_pieces _ _), spell_pieces]

/-- As long as no mark comes about, filling mark by mark is filling at once. -/
theorem fillArgument_of_noneArises (h : s.NoneArises code argument) :
    s.fillArgument code argument = s.fillAtOnce code argument := by
  obtain ⟨hgas, haddress⟩ := noneArises_iff.1 h
  rw [fillArgument_eq_all, all_all_eq_halfFilled hcode, ← spell_half,
    all_all_spell s hgas haddress, spell_finish_half, fillAtOnce]

/-- A mark that comes about is filled as well, and that shows if the account brings in
nothing. -/
theorem noneArises_of_fillArgument_eq (haddress : s.address = "")
    (h : s.fillArgument code argument = s.fillAtOnce code argument) :
    s.NoneArises code argument := by
  -- The half-filled argument is read again, in which every mark is a piece.  What comes
  -- of it has as many opening braces fewer as marks are filled.
  have hnone : '\x7b' ∉ s.address.toList := by
    rw [haddress]
    decide
  have hmarks : ∀ m : Mark, (pieces (s.halfFilled code argument)).count (.mark m) =
      (s.half code argument).count (.mark m) + arising m (s.half code argument) := by
    intro m
    rw [← occurrences_spell, spell_half, ← spell_pieces (s.halfFilled code argument),
      occurrences_spell, arising_pieces, Nat.add_zero, spell_pieces]
  rw [fillArgument_eq hcode, fillAtOnce, String.ofList_inj, ← spell_finish,
    ← spell_finish_half] at h
  have hagain := count_spell_finish hnone (pieces (s.halfFilled code argument))
  have honce := count_spell_finish hnone (s.half code argument)
  rw [h, hmarks, hmarks, spell_pieces, ← spell_half] at hagain
  rw [noneArises_iff]
  omega

/-- Without call data in it, an argument is filled at once. -/
theorem noneArises_of_no_callData (h : ¬ callDataMark.toList <:+: argument.toList) :
    s.NoneArises code argument := by
  have hmark : Piece.mark .callData ∉ pieces argument.toList := by
    intro hmem
    obtain ⟨front, back, hpieces⟩ := List.append_of_mem hmem
    refine h ⟨spell front, spell back, ?_⟩
    rw [← spell_pieces argument.toList, hpieces, spell_append, spell_mark, List.append_assoc]
    rfl
  have hmark' : Piece.mark .callData ∉
      put .code (Hex.lower code).toList (pieces argument.toList) := by
    rw [← List.count_eq_zero, count_put_of_ne (by decide), List.count_eq_zero]
    exact hmark
  rw [noneArises_iff, half, put_of_not_mem hmark', arising_put_of_isInert _ _ hcode,
    arising_put_of_isInert _ _ hcode, arising_pieces, arising_pieces]
  exact ⟨rfl, rfl⟩

/-- Inert call data brings in no mark. -/
theorem noneArises_of_isInert (h : IsInert s.callData.toList) : s.NoneArises code argument := by
  have hnone : ∀ m, arising m (s.half code argument) = 0 := by
    intro m
    rw [half, arising_put_of_isInert _ _ h, arising_put_of_isInert _ _ hcode, arising_pieces]
  exact noneArises_iff.2 ⟨hnone .gas, hnone .address⟩

/-- Where all opening braces belong to marks, call data without an opening brace brings in
no mark. -/
theorem noneArises_of_no_brace (h : .plain '\x7b' ∉ pieces argument.toList)
    (hdata : '\x7b' ∉ s.callData.toList) : s.NoneArises code argument := by
  have hnone := arising_of_not_mem (not_mem_put (not_mem_put h .code hcode.1) .callData hdata)
  exact noneArises_iff.2 ⟨hnone .gas, hnone .address⟩

end Inert

/-! ## Main theorem -/

/-- For the code of a resolved template and any settings there are as many arguments as
were asked for, in their order.  Each is filled in two passes: code and call data first,
then gas limit and account, also where their marks have come about in the first pass.  So
filling comes to filling all marks at once, whatever the account, exactly if code and call
data bring in no mark.  They bring in none if the call data is inert, if the argument has
no call data in it, and if all its opening braces belong to marks and the call data has
none. -/
theorem fillArguments_iff_no_mark_arises {id : Nat} {bytes : List UInt8} {t : Template}
    (ht : Template.ofCode id bytes = .ok t) {solution : Solution} {code : List UInt8}
    (hcode : t.resolve solution = .ok code) (s : RunnerSettings) :
    (s.fillArguments code).length = s.arguments.length ∧
      ∀ (k : Nat) (argument : String), s.arguments[k]? = some argument →
        (s.fillArguments code)[k]? =
          some (String.ofList (s.fillMarks [.gas, .address] code (s.halfFilled code argument))) ∧
        ((∀ address, ({ s with address }.fillArguments code)[k]? =
            some ({ s with address }.fillAtOnce code argument)) ↔
          s.NoneArises code argument) ∧
        (IsInert s.callData.toList ∨ ¬ callDataMark.toList <:+: argument.toList ∨
            (.plain '\x7b' ∉ pieces argument.toList ∧ '\x7b' ∉ s.callData.toList) →
          s.NoneArises code argument) := by
  obtain ⟨-, -, hplayable⟩ := Template.ofCode_eq_ok_iff.1 ht
  rw [hplayable.resolve_eq, Except.ok.injEq] at hcode
  have hinert : IsInert (Hex.lower code).toList := hcode ▸ isInert_lower hplayable solution
  refine ⟨List.length_map _, fun k argument hk => ?_⟩
  have hget : ∀ s' : RunnerSettings, s'.arguments = s.arguments →
      (s'.fillArguments code)[k]? = some (s'.fillArgument code argument) := by
    intro s' hs'
    rw [fillArguments, List.getElem?_map, hs', hk, Option.map_some]
  refine ⟨?_, ⟨fun h => ?_, fun h address => ?_⟩, ?_⟩
  · rw [hget s rfl, fillArgument_eq hinert]
  · have hempty := h ""
    rw [hget { s with address := "" } rfl, Option.some.injEq] at hempty
    exact (noneArises_with_address_iff s "" code argument).1
      (noneArises_of_fillArgument_eq hinert { s with address := "" } argument rfl hempty)
  · rw [hget { s with address } rfl,
      fillArgument_of_noneArises hinert { s with address } argument
        ((noneArises_with_address_iff s address code argument).2 h)]
  · rintro (hdata | habsent | ⟨hbraces, hdata⟩)
    · exact noneArises_of_isInert hinert s argument hdata
    · exact noneArises_of_no_callData hinert s argument habsent
    · exact noneArises_of_no_brace hinert s argument hbraces hdata

/-- Call data that does not complete the mark around it. -/
theorem fillArguments_of_inert_call_data :
    let t : Template := ⟨0, [0xCC, 0xCC, 0xCC], [.bare 0 0xCC, .bare 1 0xCC, .bare 2 0xCC]⟩
    let s : RunnerSettings :=
      { usual with arguments := ["--code", "\x7ba\x7bcalldata\x7dress\x7d"], callData := "00" }
    Template.ofCode 0 [0xCC, 0xCC, 0xCC] = .ok t ∧
      t.resolve ⟨.add, .mul, .sub⟩ = .ok [0x01, 0x02, 0x03] ∧
      (s.fillArguments [0x01, 0x02, 0x03])[1]? =
        some (s.fillAtOnce [0x01, 0x02, 0x03] "\x7ba\x7bcalldata\x7dress\x7d") := by
  intro t s
  have ht : Template.ofCode 0 [0xCC, 0xCC, 0xCC] = .ok t := by decide +kernel
  have hcode : t.resolve ⟨.add, .mul, .sub⟩ = .ok [0x01, 0x02, 0x03] := by decide +kernel
  have hinert : IsInert s.callData.toList :=
    ⟨by decide, by decide, '0', by decide, not_mem_text_of_digit (n := 0) (by decide)⟩
  obtain ⟨-, hiff, hnone⟩ := (fillArguments_iff_no_mark_arises ht hcode s).2 1 _ rfl
  exact ⟨ht, hcode, hiff.2 (hnone (.inl hinert)) s.address⟩

/-- Call data that completes the mark around it: the account is put in as well. -/
theorem fillArguments_of_completed_mark :
    let t : Template := ⟨0, [0xCC, 0xCC, 0xCC], [.bare 0 0xCC, .bare 1 0xCC, .bare 2 0xCC]⟩
    let s : RunnerSettings :=
      { usual with arguments := ["\x7ba\x7bcalldata\x7dress\x7d"], callData := "dd" }
    Template.ofCode 0 [0xCC, 0xCC, 0xCC] = .ok t ∧
      t.resolve ⟨.add, .mul, .sub⟩ = .ok [0x01, 0x02, 0x03] ∧
      s.fillAtOnce [0x01, 0x02, 0x03] "\x7ba\x7bcalldata\x7dress\x7d" = "\x7baddress\x7d" ∧
      s.fillArguments [0x01, 0x02, 0x03] = [usualAddress] := by
  decide +kernel

end RunnerSettings
end MakeTen
