import MakeTen.Puzzle.CorpusFile
import MakeTen.Settings
import Mathlib.Tactic.Common
/-!
# What files tell

A settings file puts a setting in force if it has a value for it, and leaves the others at
their defaults.  A value has to be of the kind of its setting: the file is used as a whole or
not at all.  A corpus file is used as a whole as well.

Main results:

- Relation `DocumentReader.Says`: what a text says when something is to be made of its value.
- Structure `Settings.InForce`: the settings that a table of values puts in force.
- Theorem `Settings.ofEntries?_eq_some_iff`: these are the settings that are read.
- Relation `Settings.Told`: what a file tells, readable or not.
- Theorem `Settings.ofFile_eq_iff`: this is what comes of a file.
- Relations `CorpusFile.Lists`, `CorpusFile.Told` and theorem `CorpusFile.ofFile_eq_iff`: the
  same for corpus files.
-/

namespace MakeTen

/-! ## Texts -/

namespace DocumentReader

variable {α β : Type} {reader : DocumentReader α} {Fits : α → β → Prop}

/-- What a text says when something is to be made of its value: the text describes no value,
nothing can be made of the value, or this is what is made of it. -/
inductive Says (reader : DocumentReader α) (Fits : α → β → Prop) (text : String) :
    Except String β → Prop where
  | nothing {report : String} (h : reader.read text = .error report) :
    Says reader Fits text (.error report)
  | misfit {value : α} (h : reader.read text = .ok value) (hnone : ¬ ∃ result, Fits value result) :
    Says reader Fits text (.error (reader.misfit text))
  | result {value : α} {result : β} (h : reader.read text = .ok value)
      (hfits : Fits value result) :
    Says reader Fits text (.ok result)

/-- What is read of a text is what it says, if the shape makes of a value what fits it. -/
theorem parse_eq_iff {shape : α → Option β}
    (hshape : ∀ value result, shape value = some result ↔ Fits value result) {text : String}
    {outcome : Except String β} :
    reader.parse shape text = outcome ↔ Says reader Fits text outcome := by
  have hnone : ∀ value, shape value = none ↔ ¬ ∃ result, Fits value result := by
    intro value
    simp only [← hshape, Option.eq_none_iff_forall_ne_some, not_exists, ne_eq]
  constructor
  · rintro rfl
    cases htext : reader.parse shape text with
    | ok result =>
      obtain ⟨value, hread, hvalue⟩ := parse_eq_ok_iff.1 htext
      exact .result hread ((hshape value result).1 hvalue)
    | error report =>
      rcases parse_eq_error_iff.1 htext with hread | ⟨value, hread, hvalue, rfl⟩
      · exact .nothing hread
      · exact .misfit hread ((hnone value).1 hvalue)
  · intro h
    cases h with
    | nothing hread => exact parse_eq_error_iff.2 (.inl hread)
    | misfit hread hvalue =>
      exact parse_eq_error_iff.2 (.inr ⟨_, hread, (hnone _).2 hvalue, rfl⟩)
    | result hread hfits => exact parse_eq_ok_iff.2 ⟨_, hread, (hshape _ _).2 hfits⟩

end DocumentReader

/-! ## Modes -/

/-- The modes are found by their names. -/
theorem ColorMode.ofText?_eq_some_iff {name : String} {mode : ColorMode} :
    ofText? name = some mode ↔ name = mode.text := by
  constructor
  · intro h
    unfold ofText? at h
    split at h
    · exact Option.some.inj h ▸ rfl
    · exact Option.some.inj h ▸ rfl
    · exact Option.some.inj h ▸ rfl
    · simp at h
  · rintro rfl
    cases mode <;> rfl

/-- What a mode means. -/
theorem ColorMode.enabled_eq (mode : ColorMode) (isTerminal : Bool) :
    mode.enabled isTerminal = decide (mode = .always ∨ mode = .auto ∧ isTerminal = true) := by
  cases mode with
  | auto => cases isTerminal <;> rfl
  | always => rfl
  | never => rfl

namespace Settings

variable {entries : Toml.Entries} {s : Settings} {toml : DocumentReader Toml.Entries}

/-! ## Values of settings -/

/-- A value names a mode: as a text, or as the only key of a table with nothing behind it. -/
inductive NamesMode : Toml.Value → ColorMode → Prop where
  | text (mode : ColorMode) : NamesMode (.string mode.text) mode
  | key (origin : Toml.Origin) (mode : ColorMode) {v : Toml.Value} (h : isHollow v = true) :
    NamesMode (.table origin [(mode.text, v)]) mode

theorem text?_eq_some_iff {v : Toml.Value} {text : String} :
    text? v = some text ↔ v = .string text := by
  cases v <;> simp [text?]

theorem color?_eq_some_iff {v : Toml.Value} {mode : ColorMode} :
    color? v = some mode ↔ NamesMode v mode := by
  constructor
  · intro h
    unfold color? at h
    split at h
    · rw [ColorMode.ofText?_eq_some_iff] at h
      exact h ▸ .text mode
    · split at h
      · rename_i hhollow
        rw [ColorMode.ofText?_eq_some_iff] at h
        exact h ▸ .key _ mode hhollow
      · simp at h
    · simp at h
  · rintro (_ | ⟨origin, _, hhollow⟩)
    · exact ColorMode.ofText?_eq_some_iff.2 rfl
    · rw [color?, if_pos hhollow]
      exact ColorMode.ofText?_eq_some_iff.2 rfl

/-- A word is read as it stands: what is negative or too large is none. -/
theorem word?_eq_some_iff {v : Toml.Value} {word : UInt64} :
    word? v = some word ↔ v = .integer word.toNat := by
  cases v with
  | integer n =>
    simp only [word?, natural?, Option.map_eq_some_iff, Option.ite_none_right_eq_some,
      Option.some.injEq, Toml.Value.integer.injEq]
    constructor
    · rintro ⟨_, ⟨⟨hpos, hlt⟩, rfl⟩, rfl⟩
      have hfits : n.toNat < UInt64.size := by omega
      have hword : n.toNat.toUInt64.toNat = n.toNat := UInt64.toNat_ofNat_of_lt' hfits
      omega
    · rintro rfl
      have hlt : word.toNat < UInt64.size := word.toNat_lt
      exact ⟨word.toNat, ⟨⟨by omega, by omega⟩, rfl⟩, UInt64.ofNat_toNat⟩
  | _ => simp [word?, natural?]

/-- A setting is the default if there is no value, and otherwise what the value says. -/
theorem optional_eq_some_iff {α : Type} {read : Toml.Value → Option α} {usual setting : α}
    {value : Option Toml.Value} :
    optional read usual value = some setting ↔
      value = none ∧ setting = usual ∨ ∃ v, value = some v ∧ read v = some setting := by
  cases value <;> simp [optional, eq_comm]

/-! ## Tables of settings -/

/-- The settings that a table of values puts in force: for each there is a value that says
it, or there is none and it is the default. -/
structure InForce (entries : Toml.Entries) (s : Settings) : Prop where
  corpus : entries.get? "corpus" = none ∧ s.corpus = "puzzles/puzzles.json" ∨
    entries.get? "corpus" = some (.string s.corpus)
  seed : entries.get? "seed" = none ∧ s.seed = none ∨
    ∃ n : UInt64, entries.get? "seed" = some (.integer n.toNat) ∧ s.seed = some n
  color : entries.get? "color" = none ∧ s.color = .auto ∨
    ∃ v, entries.get? "color" = some v ∧ NamesMode v s.color
  runner : entries.get? "bridge" = none ∧ s.runner = .usual ∨
    ∃ v, entries.get? "bridge" = some v ∧ runner? v = some s.runner

/-- The settings in force are the ones that are read. -/
theorem ofEntries?_eq_some_iff : ofEntries? entries = some s ↔ InForce entries s := by
  have hread : ofEntries? entries = some s ↔
      optional text? usual.corpus (entries.get? "corpus") = some s.corpus ∧
        optional (fun v => (word? v).map some) usual.seed (entries.get? "seed") = some s.seed ∧
        optional color? usual.color (entries.get? "color") = some s.color ∧
        optional runner? usual.runner (entries.get? "bridge") = some s.runner := by
    obtain ⟨corpus, seed, color, runner⟩ := s
    simp [ofEntries?, Option.bind_eq_some_iff]
  have hseed : optional (fun v => (word? v).map some) usual.seed (entries.get? "seed") =
      some s.seed ↔ entries.get? "seed" = none ∧ s.seed = none ∨
        ∃ n : UInt64, entries.get? "seed" = some (.integer n.toNat) ∧ s.seed = some n := by
    simp only [optional_eq_some_iff, Option.map_eq_some_iff, word?_eq_some_iff]
    refine or_congr_right ?_
    constructor
    · rintro ⟨_, hvalue, n, rfl, hn⟩
      exact ⟨n, hvalue, hn.symm⟩
    · rintro ⟨n, hvalue, hn⟩
      exact ⟨_, hvalue, n, rfl, hn.symm⟩
  rw [hread, hseed]
  simp only [optional_eq_some_iff, text?_eq_some_iff, color?_eq_some_iff, exists_eq_right]
  constructor
  · rintro ⟨hcorpus, hseed, hcolor, hrunner⟩
    exact ⟨hcorpus, hseed, hcolor, hrunner⟩
  · rintro ⟨hcorpus, hseed, hcolor, hrunner⟩
    exact ⟨hcorpus, hseed, hcolor, hrunner⟩

/-! ## Settings files -/

/-- What comes of a settings file: it cannot be read, or its text says which settings are in
force, if any. -/
inductive Told (toml : DocumentReader Toml.Entries) (path : String) :
    Except HostFault String → Except Fault Settings → Prop where
  | unreadable (cause : HostFault) :
    Told toml path (.error cause) (.error (.unreadable path cause))
  | malformed {text report : String} (h : toml.Says InForce text (.error report)) :
    Told toml path (.ok text) (.error (.malformed report))
  | settings {text : String} {s : Settings} (h : toml.Says InForce text (.ok s)) :
    Told toml path (.ok text) (.ok s)

theorem toml_parse_eq_iff {text : String} {outcome : Except String Settings} :
    toml.parse ofEntries? text = outcome ↔ toml.Says InForce text outcome :=
  DocumentReader.parse_eq_iff fun _ _ => ofEntries?_eq_some_iff

/-- What comes of a settings file is what it tells. -/
theorem ofFile_eq_iff {path : String} {contents : Except HostFault String}
    {result : Except Fault Settings} :
    ofFile toml path contents = result ↔ Told toml path contents result := by
  constructor
  · rintro rfl
    cases contents with
    | error cause => exact .unreadable cause
    | ok text =>
      rw [ofFile, parse]
      cases htext : toml.parse ofEntries? text with
      | ok s => exact .settings (toml_parse_eq_iff.1 htext)
      | error report => exact .malformed (toml_parse_eq_iff.1 htext)
  · intro h
    cases h with
    | unreadable cause => rfl
    | malformed hsays =>
      rw [ofFile, parse, toml_parse_eq_iff.2 hsays]
      rfl
    | settings hsays =>
      rw [ofFile, parse, toml_parse_eq_iff.2 hsays]
      rfl

end Settings

/-! ## Corpus files -/

namespace CorpusFile

variable {v : Json.Value} {texts : List String} {json : DocumentReader Json.Value}

/-- A value lists texts: in an object all of whose keys are texts and that has one member for
the puzzles, or in an array with nothing else in it. -/
inductive Lists : Json.Value → List String → Prop where
  | member {members : List (Option String × Json.Value)} {texts : List String}
      (hkeys : ∀ m ∈ members, m.1 ≠ none)
      (h : members.filter (·.1 == some "puzzles") =
        [(some "puzzles", .array (texts.map fun text => .string (some text)))]) :
    Lists (.object members) texts
  | element (texts : List String) :
    Lists (.array [.array (texts.map fun text => .string (some text))]) texts

theorem strings?_eq_some_iff :
    strings? v = some texts ↔ v = .array (texts.map fun text => .string (some text)) := by
  cases v with
  | array elements =>
    rw [strings?, Json.Value.array.injEq]
    induction elements generalizing texts with
    | nil => cases texts <;> simp
    | cons v vs ih =>
      cases texts with
      | nil => simp [Option.bind_eq_some_iff]
      | cons text texts => cases v <;> simp [Option.bind_eq_some_iff, ih]
  | _ => simp [strings?]

/-- The texts that a value lists are the ones that are read. -/
theorem texts?_eq_some_iff : texts? v = some texts ↔ Lists v texts := by
  constructor
  · intro h
    unfold texts? at h
    split at h
    · rename_i members
      split at h
      · simp at h
      · rename_i hkeys
        split at h
        · rename_i key w hone
          have hmem : (key, w) ∈ members.filter (·.1 == some memberName) := by
            rw [hone]
            exact List.mem_singleton_self _
          obtain rfl : key = some memberName := by simpa using (List.mem_filter.1 hmem).2
          rw [strings?_eq_some_iff] at h
          simp only [List.any_eq_true, Option.isNone_iff_eq_none, not_exists, not_and] at hkeys
          exact .member hkeys (h ▸ hone)
        · simp at h
    · rw [strings?_eq_some_iff] at h
      exact h ▸ .element texts
    · simp at h
  · rintro (⟨hkeys, hone⟩ | _)
    · rename_i members
      have hnone : ¬ members.any (·.1.isNone) = true := by
        simp only [List.any_eq_true, Option.isNone_iff_eq_none, not_exists, not_and]
        exact hkeys
      simp only [texts?, if_neg hnone, memberName, hone]
      exact strings?_eq_some_iff.2 rfl
    · exact strings?_eq_some_iff.2 rfl

/-- What comes of a corpus file: it cannot be read, its text lists nothing, the texts that it
lists make no corpus, or this is the corpus. -/
inductive Told (json : DocumentReader Json.Value) (path : String) :
    Except HostFault String → Except Fault Corpus → Prop where
  | unreadable (cause : HostFault) :
    Told json path (.error cause) (.error (.unreadable path cause))
  | malformed {text report : String} (h : json.Says Lists text (.error report)) :
    Told json path (.ok text) (.error (.malformed report))
  | refused {text : String} {texts : List String} {fault : Corpus.Fault}
      (h : json.Says Lists text (.ok texts)) (hfault : Corpus.ofTexts texts = .error fault) :
    Told json path (.ok text) (.error (.puzzles fault))
  | corpus {text : String} {texts : List String} {corpus : Corpus}
      (h : json.Says Lists text (.ok texts)) (hcorpus : Corpus.ofTexts texts = .ok corpus) :
    Told json path (.ok text) (.ok corpus)

theorem json_parse_eq_iff {text : String} {outcome : Except String (List String)} :
    json.parse texts? text = outcome ↔ json.Says Lists text outcome :=
  DocumentReader.parse_eq_iff fun _ _ => texts?_eq_some_iff

/-- What comes of a corpus file is what it tells. -/
theorem ofFile_eq_iff {path : String} {contents : Except HostFault String}
    {result : Except Fault Corpus} :
    ofFile json path contents = result ↔ Told json path contents result := by
  constructor
  · rintro rfl
    cases contents with
    | error cause => exact .unreadable cause
    | ok text =>
      rw [ofFile, parse]
      cases htext : json.parse texts? text with
      | error report => exact .malformed (json_parse_eq_iff.1 htext)
      | ok texts =>
        change Told json path (.ok text) ((Corpus.ofTexts texts).mapError .puzzles)
        cases hcorpus : Corpus.ofTexts texts with
        | ok corpus => exact .corpus (json_parse_eq_iff.1 htext) hcorpus
        | error fault => exact .refused (json_parse_eq_iff.1 htext) hcorpus
  · intro h
    cases h with
    | unreadable cause => rfl
    | malformed hsays => rw [ofFile, parse, json_parse_eq_iff.2 hsays]
    | refused hsays hfault =>
      rw [ofFile, parse, json_parse_eq_iff.2 hsays]
      simp only [hfault]
      rfl
    | corpus hsays hcorpus =>
      rw [ofFile, parse, json_parse_eq_iff.2 hsays]
      simp only [hcorpus]
      rfl

end CorpusFile
end MakeTen
