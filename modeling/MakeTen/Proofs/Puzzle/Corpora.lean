import MakeTen.Proofs.Puzzle.Filling
import MakeTen.Puzzle.Corpus
/-!
# Accepted corpora

A corpus holds one template for each of its texts, in their order and numbered
by their positions, and never a template that was not checked.  There is no corpus
with some of its texts: the first text that is no template refuses all of them, and it
alone is reported.

Main results:

- Theorem `Corpus.readTemplates_eq_ok_iff`: which templates are read.
- Theorem `Corpus.readTemplates_eq_error_iff`: which text is reported.
- Theorem `Corpus.playable_of_ofTexts`: every template of a corpus is playable.
- Theorem `Corpus.size_pos_of_ofTexts`: a corpus has a puzzle.
- Theorem `Corpus.loading_is_all_or_nothing`: what a list of texts comes to.
-/

namespace MakeTen

namespace Template

variable {id : Nat} {text : String} {t : Template}

/-- A text that is accepted is read, and its code is accepted. -/
theorem exists_of_ofText (h : ofText id text = .ok t) :
    ∃ code, CodeText.parse text = .ok code ∧ ofCode id code = .ok t := by
  unfold ofText at h
  split at h
  · simp at h
  · rename_i code hcode
    exact ⟨code, hcode, h⟩

/-- What is accepted as text is playable. -/
theorem playable_of_ofText (h : ofText id text = .ok t) : t.Playable := by
  obtain ⟨_, _, hcode⟩ := exists_of_ofText h
  exact (ofCode_eq_ok_iff.1 hcode).2.2

/-- The number of a template is not looked at. -/
theorem ofCode_renumber (id other : Nat) (code : List UInt8) :
    ofCode other code = (ofCode id code).map fun t => { t with id := other } := by
  unfold ofCode
  split
  · rfl
  · split
    · rfl
    · dsimp only
      split <;> rfl

theorem ofText_renumber (id other : Nat) (text : String) :
    ofText other text = (ofText id text).map fun t => { t with id := other } := by
  unfold ofText
  split
  · rfl
  · exact ofCode_renumber id other _

/-- What is accepted under one number is accepted under all. -/
theorem exists_ofText_of_ofText (h : ofText id text = .ok t) (other : Nat) :
    ∃ t, ofText other text = .ok t :=
  ⟨_, by rw [ofText_renumber id other, h]; rfl⟩

/-- What is refused under one number is refused under all, for the same reason. -/
theorem ofText_eq_error_of_ofText {fault : PuzzleFault} (h : ofText id text = .error fault)
    (other : Nat) : ofText other text = .error fault := by
  rw [ofText_renumber id other, h]
  rfl

end Template

namespace Corpus

/-- The templates that are read are those of the texts, one for each, numbered
by their positions. -/
theorem readTemplates_eq_ok_iff {index : Nat} {texts : List String} {ts : List Template} :
    readTemplates index texts = .ok ts ↔
      ts.length = texts.length ∧
        ∀ k t text, ts[k]? = some t → texts[k]? = some text →
          Template.ofText (index + k) text = .ok t := by
  induction texts generalizing index ts with
  | nil =>
    rw [readTemplates]
    constructor
    · intro h
      obtain rfl : [] = ts := by simpa using h
      simp
    · rintro ⟨hlength, _⟩
      obtain rfl : ts = [] := List.length_eq_zero_iff.1 hlength
      rfl
  | cons text texts ih =>
    constructor
    · intro h
      rw [readTemplates] at h
      split at h
      · simp at h
      · rename_i t ht
        split at h
        · simp at h
        · rename_i rest hrest
          obtain rfl : t :: rest = ts := by simpa using h
          obtain ⟨hlength, heach⟩ := ih.1 hrest
          refine ⟨by simp [hlength], ?_⟩
          intro k u other hu hother
          cases k with
          | zero =>
            obtain rfl : t = u := by simpa using hu
            obtain rfl : text = other := by simpa using hother
            exact ht
          | succ k =>
            have hk := heach k u other hu hother
            rwa [Nat.add_right_comm] at hk
    · rintro ⟨hlength, heach⟩
      cases ts with
      | nil => simp at hlength
      | cons t rest =>
        have ht : Template.ofText index text = .ok t := heach 0 t text rfl rfl
        have hrest : readTemplates (index + 1) texts = .ok rest := by
          rw [ih]
          refine ⟨by simpa using hlength, ?_⟩
          intro k u other hu hother
          have hk := heach (k + 1) u other hu hother
          rwa [Nat.add_right_comm]
        simp only [readTemplates, ht, hrest]

/-- The text that is reported is the first that is no template: those before it are
read, and those after it are not looked at. -/
theorem readTemplates_eq_error_iff {index : Nat} {texts : List String} {fault : Fault} :
    readTemplates index texts = .error fault ↔
      ∃ before text after cause, texts = before ++ text :: after ∧
        fault = .template (index + before.length) cause ∧
        Template.ofText (index + before.length) text = .error cause ∧
        ∃ ts, readTemplates index before = .ok ts := by
  induction texts generalizing index with
  | nil => simp [readTemplates]
  | cons text texts ih =>
    rw [readTemplates]
    constructor
    · intro h
      split at h
      · rename_i cause hcause
        obtain rfl : Fault.template index cause = fault := by simpa using h
        exact ⟨[], text, texts, cause, rfl, rfl, hcause, [], rfl⟩
      · rename_i t ht
        split at h
        · rename_i other hother
          obtain rfl : other = fault := by simpa using h
          obtain ⟨before, last, after, cause, rfl, rfl, hcause, ts, hts⟩ := ih.1 hother
          have hindex : index + 1 + before.length = index + (text :: before).length := by
            rw [List.length_cons]
            omega
          rw [hindex] at hcause ⊢
          refine ⟨text :: before, last, after, cause, rfl, rfl, hcause, t :: ts, ?_⟩
          simp only [readTemplates, ht, hts]
        · simp at h
    · rintro ⟨before, last, after, cause, htexts, rfl, hcause, ts, hts⟩
      cases before with
      | nil =>
        obtain ⟨rfl, rfl⟩ : text = last ∧ texts = after := by simpa using htexts
        have hfirst : Template.ofText index text = .error cause := hcause
        simp only [hfirst]
        rfl
      | cons first before =>
        obtain ⟨rfl, rfl⟩ : text = first ∧ texts = before ++ last :: after := by
          simpa using htexts
        have hindex : index + (text :: before).length = index + 1 + before.length := by
          rw [List.length_cons]
          omega
        rw [hindex] at hcause
        rw [readTemplates] at hts
        split at hts
        · simp at hts
        · rename_i t ht
          split at hts
          · simp at hts
          · rename_i rest hrest
            have hfault := ih.2
              ⟨before, last, after, cause, rfl, congrArg (Fault.template · cause) hindex, hcause,
                rest, hrest⟩
            simp only [hfault]

/-- Texts are read exactly if each of them is a template, under whatever number. -/
theorem exists_readTemplates_iff (index : Nat) {texts : List String} :
    (∃ ts, readTemplates index texts = .ok ts) ↔
      ∀ text ∈ texts, ∀ id, ∃ t, Template.ofText id text = .ok t := by
  constructor
  · rintro ⟨ts, hts⟩ text htext id
    obtain ⟨hlength, heach⟩ := readTemplates_eq_ok_iff.1 hts
    obtain ⟨k, hk, rfl⟩ := List.mem_iff_getElem.1 htext
    have hk' : k < ts.length := hlength ▸ hk
    have ht := heach k _ _ (List.getElem?_eq_getElem hk') (List.getElem?_eq_getElem hk)
    exact Template.exists_ofText_of_ofText ht id
  · intro h
    cases hread : readTemplates index texts with
    | ok ts => exact ⟨ts, rfl⟩
    | error fault =>
      obtain ⟨before, text, after, cause, rfl, -, hcause, -⟩ := readTemplates_eq_error_iff.1 hread
      obtain ⟨t, ht⟩ := h text (by simp) (index + before.length)
      rw [hcause] at ht
      simp at ht

/-- What a corpus is read from: at least one text, and each of them a
template. -/
theorem ofTexts_eq_ok_iff {texts : List String} {c : Corpus} :
    ofTexts texts = .ok c ↔ texts ≠ [] ∧ readTemplates 0 texts = .ok c.templates := by
  cases texts with
  | nil => simp [ofTexts]
  | cons text texts =>
    rw [ofTexts]
    cases hread : readTemplates 0 (text :: texts) with
    | error fault => simp [Except.map]
    | ok ts =>
      obtain ⟨templates⟩ := c
      simp [Except.map]

/-- Every template of a corpus is playable. -/
theorem playable_of_ofTexts {texts : List String} {c : Corpus} (h : ofTexts texts = .ok c) :
    ∀ t ∈ c.templates, t.Playable := by
  obtain ⟨_, hread⟩ := ofTexts_eq_ok_iff.1 h
  obtain ⟨hlength, heach⟩ := readTemplates_eq_ok_iff.1 hread
  intro t ht
  obtain ⟨k, hk, rfl⟩ := List.mem_iff_getElem.1 ht
  have htext : texts[k]? = some texts[k] := List.getElem?_eq_getElem (hlength ▸ hk)
  exact Template.playable_of_ofText (heach k _ _ (List.getElem?_eq_getElem hk) htext)

/-- A corpus has a puzzle. -/
theorem size_pos_of_ofTexts {texts : List String} {c : Corpus} (h : ofTexts texts = .ok c) :
    0 < c.size := by
  obtain ⟨hne, hread⟩ := ofTexts_eq_ok_iff.1 h
  rw [size, (readTemplates_eq_ok_iff.1 hread).1]
  exact List.length_pos_iff.2 hne

/-- What is reported of texts that make no corpus: that there is none, or the first
that is no template. -/
theorem ofTexts_eq_error_iff {texts : List String} {fault : Fault} :
    ofTexts texts = .error fault ↔
      (texts = [] ∧ fault = .empty) ∨ (texts ≠ [] ∧ readTemplates 0 texts = .error fault) := by
  cases texts with
  | nil => simp [ofTexts, eq_comm]
  | cons text texts =>
    rw [ofTexts]
    cases hread : readTemplates 0 (text :: texts) with
    | error other => simp [Except.map]
    | ok ts => simp [Except.map]

/-! ## Main theorem -/

/-- A list of texts comes to a corpus as a whole or not at all.

It is refused as empty exactly if there is no text.  Otherwise it is accepted exactly if
each text is a template, and what is reported is the first text that is none, under its
position and for what is wrong with it, whatever follows.  A corpus has one template for
each text and no other, numbered by its position and built from the text there.  Each
of them decodes, hides no marker in data, has three slots that are the marker alone, and is
resolved by every solution. -/
theorem loading_is_all_or_nothing (texts : List String) :
    (ofTexts texts = .error .empty ↔ texts = []) ∧
    ((∃ c, ofTexts texts = .ok c) ↔
      texts ≠ [] ∧ ∀ text ∈ texts, ∀ id, ∃ t, Template.ofText id text = .ok t) ∧
    (∀ index cause, ofTexts texts = .error (.template index cause) ↔
      ∃ before text after, texts = before ++ text :: after ∧ before.length = index ∧
        (∀ id, Template.ofText id text = .error cause) ∧
        ∀ earlier ∈ before, ∀ id, ∃ t, Template.ofText id earlier = .ok t) ∧
    ∀ c, ofTexts texts = .ok c →
      c.size = texts.length ∧
      (∀ i text, texts[i]? = some text →
        ∃ t, c.get? i = some t ∧ t.id = i ∧ Template.ofText i text = .ok t) ∧
      (∀ i, texts.length ≤ i → c.get? i = none) ∧
      ∀ i t, c.get? i = some t →
        disassemble t.code = .ok t.instructions ∧
        (∀ instruction ∈ t.instructions, placeholder ∉ instruction.immediate) ∧
        (∃ before between between' after p q r,
          (∀ instruction ∈ before ++ between ++ between' ++ after, instruction.isSlot = false) ∧
          t.instructions = before ++ ⟨p, placeholder, .insert, []⟩ ::
            (between ++ ⟨q, placeholder, .insert, []⟩ ::
              (between' ++ ⟨r, placeholder, .insert, []⟩ :: after))) ∧
        ∀ s, ∃ resolved, t.resolve s = .ok resolved := by
  refine ⟨?_, ?_, fun index cause => ?_, fun c hc => ?_⟩
  · rw [ofTexts_eq_error_iff]
    constructor
    · rintro (⟨hempty, -⟩ | ⟨-, hread⟩)
      · exact hempty
      · obtain ⟨_, _, _, _, -, hfault, -⟩ := readTemplates_eq_error_iff.1 hread
        simp at hfault
    · exact fun hempty => .inl ⟨hempty, rfl⟩
  · rw [← exists_readTemplates_iff 0]
    constructor
    · rintro ⟨c, hc⟩
      obtain ⟨hne, hread⟩ := ofTexts_eq_ok_iff.1 hc
      exact ⟨hne, _, hread⟩
    · rintro ⟨hne, ts, hread⟩
      exact ⟨⟨ts⟩, ofTexts_eq_ok_iff.2 ⟨hne, hread⟩⟩
  · rw [ofTexts_eq_error_iff]
    constructor
    · rintro (⟨-, hfault⟩ | ⟨-, hread⟩)
      · simp at hfault
      · obtain ⟨before, text, after, other, htexts, hfault, hother, hbefore⟩ :=
          readTemplates_eq_error_iff.1 hread
        obtain ⟨rfl, rfl⟩ : index = before.length ∧ cause = other := by simpa using hfault
        exact ⟨before, text, after, htexts, rfl, Template.ofText_eq_error_of_ofText hother,
          (exists_readTemplates_iff _).1 hbefore⟩
    · rintro ⟨before, text, after, rfl, rfl, hcause, hbefore⟩
      refine .inr ⟨by simp, readTemplates_eq_error_iff.2
        ⟨before, text, after, cause, rfl, by rw [Nat.zero_add], hcause _, ?_⟩⟩
      exact (exists_readTemplates_iff 0).2 hbefore
  · obtain ⟨hne, hread⟩ := ofTexts_eq_ok_iff.1 hc
    obtain ⟨hlength, heach⟩ := readTemplates_eq_ok_iff.1 hread
    refine ⟨hlength, fun i text htext => ?_, fun i hi => ?_, fun i t ht => ?_⟩
    · obtain ⟨hi, -⟩ := List.getElem?_eq_some_iff.1 htext
      have hi' : i < c.templates.length := hlength ▸ hi
      have hget : c.get? i = some c.templates[i] := List.getElem?_eq_getElem hi'
      have hrebuilt := heach i _ text hget htext
      rw [Nat.zero_add] at hrebuilt
      obtain ⟨_, -, hcode⟩ := Template.exists_of_ofText hrebuilt
      exact ⟨_, hget, (Template.ofCode_eq_ok_iff.1 hcode).1, hrebuilt⟩
    · exact List.getElem?_eq_none (hlength ▸ hi)
    · have hplayable := playable_of_ofTexts hc t (List.mem_of_getElem? ht)
      exact ⟨hplayable.decodes, hplayable.noneHidden, hplayable.exists_slots,
        fun s => ⟨_, hplayable.resolve_eq s⟩⟩

/-- Of three texts the second is the first that is no template, so that it is reported
and not the third; the first text alone is a corpus. -/
theorem loading_of_three_texts :
    ofTexts ["0xXXXXXX", "XXXXXX61", "zz"] =
        .error (.template 1 (.decode (.truncatedOperand 3 2 0))) ∧
      ∃ c, ofTexts ["0xXXXXXX"] = .ok c ∧ c.size = 1 ∧ c.get? 1 = none ∧
        ∃ t, c.get? 0 = some t ∧ ∀ s, ∃ resolved, t.resolve s = .ok resolved := by
  have hzero : Template.ofText 0 "0xXXXXXX" =
      .ok ⟨0, [0xCC, 0xCC, 0xCC], [.bare 0 0xCC, .bare 1 0xCC, .bare 2 0xCC]⟩ := by
    decide +kernel
  have hfirst : ∀ id, ∃ t, Template.ofText id "0xXXXXXX" = .ok t :=
    Template.exists_ofText_of_ofText hzero
  have hsecond : Template.ofText 1 "XXXXXX61" = .error (.decode (.truncatedOperand 3 2 0)) := by
    decide +kernel
  constructor
  · refine ((loading_is_all_or_nothing _).2.2.1 1 _).2
      ⟨["0xXXXXXX"], "XXXXXX61", ["zz"], rfl, rfl,
        Template.ofText_eq_error_of_ofText hsecond, ?_⟩
    rw [List.forall_mem_singleton]
    exact hfirst
  · obtain ⟨c, hc⟩ := (loading_is_all_or_nothing ["0xXXXXXX"]).2.1.2
      ⟨List.cons_ne_nil _ _, by rwa [List.forall_mem_singleton]⟩
    obtain ⟨hsize, hget, hnone, hplayable⟩ := (loading_is_all_or_nothing _).2.2.2 c hc
    obtain ⟨t, ht, -, -⟩ := hget 0 _ rfl
    exact ⟨c, hc, hsize, hnone 1 (Nat.le_refl 1), t, ht, (hplayable 0 t ht).2.2.2⟩

end Corpus
end MakeTen
