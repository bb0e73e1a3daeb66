import MakeTen.Proofs.CommandLine.Configurations
import MakeTen.Proofs.CommandLine.Seeds
/-!
# Arguments of the game command

The arguments are read in groups: an option with its value, or an option that has none.
All arguments are complete groups, up to their end or up to a place at which a group begins
that ends the command.  In the first case the groups are put in place one after the other,
and what counts in the end is the last group of each kind; in the second nothing counts but
what stands at that place.

Main results:

- Type `GameCommand.Group`: the complete groups.
- Relation `GameCommand.Stops`: arguments that begin with what ends the command.
- Theorem `GameCommand.exists_groups`: all arguments come in groups.
- Theorem `GameCommand.foldl_put_empty`: the last group of each kind counts.
- Theorem `GameCommand.readAt_eq`: reading by positions stays within the arguments.
- Theorem `GameCommand.run_by_last_groups`: what the command does on any arguments.
-/

namespace MakeTen
namespace GameCommand

/-! ## Groups -/

/-- An option with its value, if it takes one. -/
inductive Group where
  | config (path : String)
  | corpus (path : String)
  | seed (text : String) (number : UInt64) (h : seed? text = some number)
  | plain
  deriving DecidableEq

/-- What a group is about. -/
inductive Kind where
  | config | corpus | seed | plain
  deriving Repr, DecidableEq

namespace Group

/-- The arguments that a group is made of. -/
def words : Group → List String
  | config path => ["--config", path]
  | corpus path => ["--corpus", path]
  | seed text _ _ => ["--seed", text]
  | plain => ["--no-color"]

/-- What a group is about. -/
def kind : Group → Kind
  | config _ => .config
  | corpus _ => .corpus
  | seed _ _ _ => .seed
  | plain => .plain

/-- The settings file that a group names. -/
def config? : Group → Option String
  | config path => some path
  | _ => none

/-- The corpus file that a group names. -/
def corpus? : Group → Option String
  | corpus path => some path
  | _ => none

/-- The seed that a group gives. -/
def number? : Group → Option UInt64
  | seed _ number _ => some number
  | _ => none

end Group

/-- Some options with a group on top. -/
def Options.put (o : Options) : Group → Options
  | .config path => { o with config := some path }
  | .corpus path => { o with corpus := some path }
  | .seed _ number _ => { o with seed := some number }
  | .plain => { o with isPlain := true }

/-- The options that take a value. -/
def valued : List String := ["--config", "--corpus", "--seed"]

/-- The options that stand alone. -/
def single : List String := ["--no-color", "-h", "--help"]

/-- Arguments that begin with what ends the command: a wish for help, an option that is
not known, one whose value is missing at the end, or a seed that is none. -/
inductive Stops : List String → Stop → Prop
  | help {word : String} (h : word = "-h" ∨ word = "--help") (rest : List String) :
    Stops (word :: rest) .help
  | unknown {word : String} (h : word ∉ valued ++ single) (rest : List String) :
    Stops (word :: rest) (.unknown word)
  | missingValue {option : String} (h : option ∈ valued) : Stops [option] (.missingValue option)
  | badSeed {text : String} (h : seed? text = none) (rest : List String) :
    Stops ("--seed" :: text :: rest) (.badSeed text)

/-- Any arguments begin with a group or with what ends the command. -/
theorem group_or_stops (word : String) (rest : List String) :
    (∃ (g : Group) (args : List String), word :: rest = g.words ++ args) ∨
      ∃ stop, Stops (word :: rest) stop := by
  by_cases hvalued : word ∈ valued
  · rcases rest with _ | ⟨value, rest⟩
    · exact .inr ⟨_, .missingValue hvalued⟩
    · simp only [valued, List.mem_cons, List.not_mem_nil, or_false] at hvalued
      rcases hvalued with rfl | rfl | rfl
      · exact .inl ⟨.config value, rest, rfl⟩
      · exact .inl ⟨.corpus value, rest, rfl⟩
      · cases hseed : seed? value with
        | none => exact .inr ⟨_, .badSeed hseed rest⟩
        | some number => exact .inl ⟨.seed value number hseed, rest, rfl⟩
  by_cases hsingle : word ∈ single
  · simp only [single, List.mem_cons, List.not_mem_nil, or_false] at hsingle
    rcases hsingle with rfl | hhelp
    · exact .inl ⟨.plain, rest, rfl⟩
    · exact .inr ⟨_, .help hhelp rest⟩
  · refine .inr ⟨_, .unknown ?_ rest⟩
    rw [List.mem_append, not_or]
    exact ⟨hvalued, hsingle⟩

/-- A group has an argument. -/
theorem Group.length_words_pos (g : Group) : 0 < g.words.length := by
  cases g <;> exact Nat.succ_pos _

/-- All arguments are complete groups, up to their end or up to what ends the command. -/
theorem exists_groups (args : List String) :
    ∃ (gs : List Group) (rest : List String), args = gs.flatMap Group.words ++ rest ∧
      (rest = [] ∨ ∃ stop, Stops rest stop) := by
  induction hlength : args.length using Nat.strongRecOn generalizing args with
  | ind n ih =>
    rcases args with _ | ⟨word, rest⟩
    · exact ⟨[], [], rfl, .inl rfl⟩
    rcases group_or_stops word rest with ⟨g, args, heq⟩ | hstops
    · have hlt : args.length < n := by
        have hpos := g.length_words_pos
        rw [← hlength, heq, List.length_append]
        omega
      obtain ⟨gs, rest', rfl, hend⟩ := ih _ hlt args rfl
      refine ⟨g :: gs, rest', ?_, hend⟩
      rw [heq, List.flatMap_cons, List.append_assoc]
    · exact ⟨[], word :: rest, rfl, .inr hstops⟩

/-! ## Reading groups -/

/-- A group is put in place. -/
theorem read_words_append (o : Options) (g : Group) (args : List String) :
    read o (g.words ++ args) = read (o.put g) args := by
  cases g with
  | config path => rfl
  | corpus path => rfl
  | seed text number h =>
    rw [Group.words, List.cons_append, List.cons_append, List.nil_append, read,
      if_neg (by decide), if_neg (by decide), if_pos rfl, h]
    rfl
  | plain => cases args <;> rfl

/-- Groups are put in place from left to right. -/
theorem read_flatMap_words_append (o : Options) (gs : List Group) (args : List String) :
    read o (gs.flatMap Group.words ++ args) = read (gs.foldl Options.put o) args := by
  induction gs generalizing o with
  | nil => rfl
  | cons g gs ih =>
    rw [List.flatMap_cons, List.append_assoc, read_words_append, ih, List.foldl_cons]

theorem read_flatMap_words (o : Options) (gs : List Group) :
    read o (gs.flatMap Group.words) = .ok (gs.foldl Options.put o) := by
  have happend := read_flatMap_words_append o gs []
  rw [List.append_nil] at happend
  exact happend

/-- What ends the command does so whatever was read before. -/
theorem Stops.read_eq {args : List String} {stop : Stop} (h : Stops args stop) (o : Options) :
    read o args = .error stop := by
  cases h with
  | help hword rest =>
    rcases hword with rfl | rfl <;> cases rest <;> rfl
  | unknown hword rest =>
    simp only [valued, single, List.cons_append, List.nil_append, List.mem_cons,
      List.not_mem_nil, or_false, not_or] at hword
    cases rest <;> simp [read, hword]
  | missingValue hoption => rw [read, if_pos (by simpa [valued] using hoption)]
  | badSeed htext rest =>
    rw [read, if_neg (by decide), if_neg (by decide), if_pos rfl, htext]

/-! ## The last of each kind -/

/-- The last of what some groups give. -/
def lastOf {β : Type} (f : Group → Option β) (gs : List Group) : Option β :=
  (gs.filterMap f).getLast?

/-- The options of some groups: of each kind the last. -/
def Options.of (gs : List Group) : Options :=
  ⟨lastOf Group.config? gs, lastOf Group.corpus? gs, lastOf Group.number? gs,
    decide (Group.plain ∈ gs)⟩

section LastOf

variable {β : Type} (f : Group → Option β)

theorem lastOf_append (gs gs' : List Group) :
    lastOf f (gs ++ gs') = (lastOf f gs').or (lastOf f gs) := by
  rw [lastOf, List.filterMap_append, List.getLast?_append]
  rfl

theorem lastOf_cons (g : Group) (gs : List Group) :
    lastOf f (g :: gs) = (lastOf f gs).or (f g) := by
  rw [← List.singleton_append, lastOf_append]
  cases h : f g <;> simp [lastOf, h]

theorem lastOf_concat (gs : List Group) (g : Group) :
    lastOf f (gs ++ [g]) = (f g).or (lastOf f gs) := by
  rw [lastOf_append, lastOf_cons]
  rfl

theorem lastOf_eq_none_iff {gs : List Group} : lastOf f gs = none ↔ ∀ g ∈ gs, f g = none := by
  rw [lastOf, List.getLast?_eq_none_iff, List.filterMap_eq_nil_iff]

variable {f} {kind : Kind} (h : ∀ g, (f g).isSome ↔ g.kind = kind)
include h

/-- What the last of a kind gives, the groups of that kind tell. -/
theorem lastOf_filter (gs : List Group) : lastOf f (gs.filter (·.kind = kind)) = lastOf f gs := by
  have hother : ∀ g : Group, (if decide (g.kind = kind) = true then f g else none) = f g := by
    intro g
    split
    · rfl
    · rename_i hg
      rw [decide_eq_true_eq, ← h, Option.not_isSome_iff_eq_none] at hg
      exact hg.symm
  rw [lastOf, lastOf, List.filterMap_filter]
  simp only [hother]

/-- What comes before one of its kind does not count. -/
theorem lastOf_append_cons {front back : List Group} {g : Group}
    (hback : ∃ g' ∈ back, g'.kind = g.kind) :
    lastOf f (front ++ g :: back) = lastOf f (front ++ back) := by
  rw [lastOf_append, lastOf_append, lastOf_cons]
  by_cases hg : g.kind = kind
  · obtain ⟨g', hmem, hkind⟩ := hback
    cases hlast : lastOf f back with
    | none =>
      have hnone := (lastOf_eq_none_iff f).1 hlast g' hmem
      rw [← Option.not_isSome_iff_eq_none, h, hkind] at hnone
      exact absurd hg hnone
    | some x => rfl
  · rw [← h, Option.not_isSome_iff_eq_none] at hg
    rw [hg, Option.or_none]

end LastOf

theorem Group.isSome_config?_iff (g : Group) : g.config?.isSome ↔ g.kind = .config := by
  cases g <;> simp [config?, kind]

theorem Group.isSome_corpus?_iff (g : Group) : g.corpus?.isSome ↔ g.kind = .corpus := by
  cases g <;> simp [corpus?, kind]

theorem Group.isSome_number?_iff (g : Group) : g.number?.isSome ↔ g.kind = .seed := by
  cases g <;> simp [number?, kind]

theorem Group.eq_plain_iff (g : Group) : g = .plain ↔ g.kind = .plain := by
  cases g <;> simp [kind]

/-- Put in place one after the other, the last group of each kind counts. -/
theorem foldl_put_empty (gs : List Group) : gs.foldl Options.put .empty = Options.of gs := by
  induction gs using List.reverseRecOn with
  | nil => rfl
  | append_singleton gs g ih =>
    rw [List.foldl_append, ih, List.foldl_cons, List.foldl_nil]
    cases g <;>
      simp [Options.put, Options.of, lastOf_concat, Group.config?, Group.corpus?, Group.number?]

/-- Groups of different kinds may change places. -/
theorem Options.of_congr {gs gs' : List Group}
    (h : ∀ kind, gs.filter (·.kind = kind) = gs'.filter (·.kind = kind)) :
    Options.of gs = Options.of gs' := by
  have hlast : ∀ {β : Type} {f : Group → Option β} {kind : Kind},
      (∀ g, (f g).isSome ↔ g.kind = kind) → lastOf f gs = lastOf f gs' := by
    intro β f kind hf
    rw [← lastOf_filter hf gs, ← lastOf_filter hf gs', h]
  have hplain : Group.plain ∈ gs ↔ Group.plain ∈ gs' := by
    have hmem : ∀ gs : List Group,
        Group.plain ∈ gs ↔ Group.plain ∈ gs.filter (·.kind = .plain) := by
      intro gs
      simp [List.mem_filter, Group.kind]
    rw [hmem gs, hmem gs', h]
  rw [Options.of, Options.of, hlast Group.isSome_config?_iff, hlast Group.isSome_corpus?_iff,
    hlast Group.isSome_number?_iff]
  simp only [hplain]

/-- A group is of no effect if one of its kind follows. -/
theorem Options.of_append_cons {front back : List Group} {g : Group}
    (h : ∃ g' ∈ back, g'.kind = g.kind) :
    Options.of (front ++ g :: back) = Options.of (front ++ back) := by
  have hplain : Group.plain ∈ front ++ g :: back ↔ Group.plain ∈ front ++ back := by
    have hlater : Group.plain = g → Group.plain ∈ back := by
      rintro rfl
      obtain ⟨g', hmem, hkind⟩ := h
      rwa [← g'.eq_plain_iff.2 hkind]
    rw [List.mem_append, List.mem_cons, List.mem_append]
    tauto
  rw [Options.of, Options.of, lastOf_append_cons Group.isSome_config?_iff h,
    lastOf_append_cons Group.isSome_corpus?_iff h, lastOf_append_cons Group.isSome_number?_iff h]
  simp only [hplain]

/-! ## Reading by positions -/

/-- The options of the arguments of a program from a position on, on top of those read so
far.  Every argument is looked up at its position; there is no result if one is looked up
past the end. -/
def readAt (argv : List String) (o : Options) (i : Nat) : Option (Except Stop Options) :=
  if i < argv.length then
    argv[i]?.bind fun argument =>
      if argument ∈ valued ∧ argv.length ≤ i + 1 then some (.error (.missingValue argument))
      else if argument = "--config" then
        argv[i + 1]?.bind fun path => readAt argv { o with config := some path } (i + 2)
      else if argument = "--corpus" then
        argv[i + 1]?.bind fun path => readAt argv { o with corpus := some path } (i + 2)
      else if argument = "--seed" then
        argv[i + 1]?.bind fun text =>
          match seed? text with
          | some number => readAt argv { o with seed := some number } (i + 2)
          | none => some (.error (.badSeed text))
      else if argument = "--no-color" then readAt argv { o with isPlain := true } (i + 1)
      else if argument = "-h" ∨ argument = "--help" then some (.error .help)
      else some (.error (.unknown argument))
  else some (.ok o)
termination_by argv.length - i

/-- What stands at a position, when it is known what is left from there. -/
theorem getElem?_of_drop_eq {argv : List String} {i : Nat} {word : String} {rest : List String}
    (h : argv.drop i = word :: rest) :
    i < argv.length ∧ argv[i]? = some word ∧ argv.drop (i + 1) = rest := by
  have hlt : i < argv.length := by
    by_contra hge
    rw [List.drop_eq_nil_of_le (Nat.not_lt.1 hge)] at h
    exact absurd h.symm (List.cons_ne_nil word rest)
  rw [List.drop_eq_getElem_cons hlt, List.cons.injEq] at h
  exact ⟨hlt, List.getElem?_eq_some_iff.2 ⟨hlt, h.1⟩, h.2⟩

/-- What stands at a position and behind it. -/
theorem getElem?_of_drop_eq_pair {argv : List String} {i : Nat} {word value : String}
    {rest : List String} (h : argv.drop i = word :: value :: rest) :
    i < argv.length ∧ argv[i]? = some word ∧ i + 1 < argv.length ∧ argv[i + 1]? = some value := by
  obtain ⟨hlt, hhere, hrest⟩ := getElem?_of_drop_eq h
  obtain ⟨hlt', hnext, -⟩ := getElem?_of_drop_eq hrest
  exact ⟨hlt, hhere, hlt', hnext⟩

/-- Reading by positions goes on behind a group. -/
theorem readAt_of_drop_eq_words {argv : List String} {i : Nat} {g : Group} {args : List String}
    (h : argv.drop i = g.words ++ args) (o : Options) :
    readAt argv o i = readAt argv (o.put g) (i + g.words.length) := by
  cases g with
  | config path =>
    obtain ⟨hlt, hhere, hlt', hnext⟩ := getElem?_of_drop_eq_pair h
    rw [readAt, if_pos hlt, hhere, Option.bind_some, if_neg (by omega), if_pos rfl, hnext,
      Option.bind_some]
    rfl
  | corpus path =>
    obtain ⟨hlt, hhere, hlt', hnext⟩ := getElem?_of_drop_eq_pair h
    rw [readAt, if_pos hlt, hhere, Option.bind_some, if_neg (by omega), if_neg (by decide),
      if_pos rfl, hnext, Option.bind_some]
    rfl
  | seed text number hnumber =>
    obtain ⟨hlt, hhere, hlt', hnext⟩ := getElem?_of_drop_eq_pair h
    rw [readAt, if_pos hlt, hhere, Option.bind_some, if_neg (by omega), if_neg (by decide),
      if_neg (by decide), if_pos rfl, hnext, Option.bind_some, hnumber]
    rfl
  | plain =>
    obtain ⟨hlt, hhere, -⟩ := getElem?_of_drop_eq h
    rw [readAt, if_pos hlt, hhere, Option.bind_some, if_neg (by simp [valued]),
      if_neg (by decide), if_neg (by decide), if_neg (by decide), if_pos rfl]
    rfl

/-- What ends the command does so at any position. -/
theorem Stops.readAt_eq {argv : List String} {i : Nat} {stop : Stop}
    (h : Stops (argv.drop i) stop) (o : Options) : readAt argv o i = some (.error stop) := by
  generalize hargs : argv.drop i = args at h
  cases h with
  | help hword rest =>
    obtain ⟨hlt, hhere, -⟩ := getElem?_of_drop_eq hargs
    rw [readAt, if_pos hlt, hhere, Option.bind_some]
    rcases hword with rfl | rfl <;> simp [valued]
  | unknown hword rest =>
    obtain ⟨hlt, hhere, -⟩ := getElem?_of_drop_eq hargs
    rw [readAt, if_pos hlt, hhere, Option.bind_some]
    simp only [valued, single, List.cons_append, List.nil_append, List.mem_cons,
      List.not_mem_nil, or_false, not_or] at hword
    simp [valued, hword]
  | missingValue hoption =>
    obtain ⟨hlt, hhere, hrest⟩ := getElem?_of_drop_eq hargs
    rw [readAt, if_pos hlt, hhere, Option.bind_some,
      if_pos ⟨hoption, List.drop_eq_nil_iff.1 hrest⟩]
  | badSeed htext rest =>
    obtain ⟨hlt, hhere, hlt', hnext⟩ := getElem?_of_drop_eq_pair hargs
    rw [readAt, if_pos hlt, hhere, Option.bind_some, if_neg (by omega), if_neg (by decide),
      if_neg (by decide), if_pos rfl, hnext, Option.bind_some, htext]

/-- Reading by positions never looks past the end, and gives what is read from the
arguments that are left. -/
theorem readAt_eq (argv : List String) (o : Options) (i : Nat) :
    readAt argv o i = some (read o (argv.drop i)) := by
  obtain ⟨gs, rest, hargs, hend⟩ := exists_groups (argv.drop i)
  rw [hargs, read_flatMap_words_append]
  -- The groups are passed one after the other; what comes behind them is the same.
  induction gs generalizing o i with
  | nil =>
    rcases hend with rfl | ⟨stop, hstop⟩
    · have hend : ¬ i < argv.length := by
        rw [Nat.not_lt, ← List.drop_eq_nil_iff]
        exact hargs
      rw [readAt, if_neg hend]
      rfl
    · rw [List.foldl_nil, hstop.read_eq]
      exact Stops.readAt_eq (hargs ▸ hstop) o
  | cons g gs ih =>
    rw [List.flatMap_cons, List.append_assoc] at hargs
    have hrest : argv.drop (i + g.words.length) = gs.flatMap Group.words ++ rest := by
      rw [← List.drop_drop, hargs, List.drop_left]
    rw [readAt_of_drop_eq_words hargs, ih _ _ hrest, List.foldl_cons]

/-! ## What takes effect -/

section Command

variable {γ σ : Type} {m : Type → Type} [Monad m] (packages : Packages γ) (world : World γ σ m)
  (name : String)

/-- The settings come from the file that is asked for, from the usual one if none is asked
for and it is there, or else they are the defaults. -/
theorem baseSettings_eq [LawfulMonad m] (o : Options) :
    baseSettings packages world o =
      (match o.config with
      | some path => Settings.ofFile packages.toml path <$> world.readText path
      | none => do
        if ← world.isThere "fourten.toml" then
          Settings.ofFile packages.toml "fourten.toml" <$> world.readText "fourten.toml"
        else pure (.ok ⟨"puzzles/puzzles.json", none, .auto, .usual⟩)) := by
  unfold baseSettings configPath
  cases o.config with
  | some path => simp
  | none =>
    simp only [bind_assoc, pure_bind]
    refine bind_congr fun isThere => ?_
    cases isThere <;> simp [usualConfig, Settings.usual]

/-- A session is played on the corpus, with the seed and in the mode of the settings. -/
theorem play_eq [LawfulMonad m] (s : Settings) :
    play packages world s = (do
      match CorpusFile.ofFile packages.json s.corpus (← world.readText s.corpus) with
      | .error fault => pure (.failing ["Error: " ++ fault.message, "",
          "Point --corpus (or `corpus` in fourten.toml) at a puzzle file."])
      | .ok puzzles =>
        let position ← (match s.seed with
          | some seed => pure (packages.random.ofSeed seed)
          | none => world.entropy)
        let isTerminal ← world.isTerminal
        world.play ⟨puzzles, Picker.pick, s.runner.judge (s.runner.logging world.launch)⟩
          ⟨packages.random, position, s.seed.isSome⟩
          (s.color = .always ∨ s.color = .auto ∧ isTerminal)) := by
  unfold play
  refine bind_congr fun contents => ?_
  cases CorpusFile.ofFile packages.json s.corpus contents with
  | error fault => rfl
  | ok puzzles =>
    cases s.seed with
    | some seed => simp [Picker.ofSeed?, Picker.ofSeed, game, ColorMode.enabled_eq]
    | none => simp [Picker.ofSeed?, game, ColorMode.enabled_eq]

/-- If the arguments are complete groups, the last of each kind takes effect. -/
theorem run_flatMap_words (gs : List Group) :
    run packages world name (gs.flatMap Group.words) = (do
      let base ← baseSettings packages world (.of gs)
      match base with
      | .error fault => pure (settingsExit fault)
      | .ok s => play packages world (settle (.of gs) s)) := by
  have hread : read .empty (gs.flatMap Group.words) = .ok (.of gs) := by
    rw [read_flatMap_words, foldl_put_empty]
  unfold run
  split
  · rename_i stop hstop
    simp [hread] at hstop
  · rename_i o ho
    obtain rfl : Options.of gs = o := Except.ok.inj (hread.symm.trans ho)
    rfl

/-- What ends the command does so whatever stands before and behind it, and before
anything is done. -/
theorem run_of_stops (gs : List Group) {rest : List String} {stop : Stop} (h : Stops rest stop) :
    run packages world name (gs.flatMap Group.words ++ rest) = pure (stop.exit name) := by
  rw [run, read_flatMap_words_append, h.read_eq]

theorem run_congr {gs gs' : List Group} (h : Options.of gs = Options.of gs') :
    run packages world name (gs.flatMap Group.words) =
      run packages world name (gs'.flatMap Group.words) := by
  rw [run_flatMap_words, run_flatMap_words, h]

end Command

theorem Stop.output_exit (name : String) (stop : Stop) : (stop.exit name).output = [] := by
  cases stop <;> rfl

theorem Stop.status_exit (name : String) (stop : Stop) :
    (stop.exit name).status = if stop = .help then 0 else 1 := by
  cases stop <;> rfl

/-! ## Main theorem -/

/-- Arguments are complete groups or else complete groups up to what ends the command, and
reading them never looks past their end.

If they are complete groups, the command looks at the settings file that is named last, or
at the usual one if none is named and it is there, and at no other.  What that file puts in
force is in force, and what it leaves open is the default; a file that cannot be read, or
whose text describes no table or one with a value of the wrong kind, ends the command with
a report on it.  In place of the corpus, the seed and the colour that are in force there are
the corpus that is named last, the last seed, and plain output if that is asked for
anywhere; they are the ones that the session is played with, unless the corpus file cannot
be read or lists no puzzles that make a corpus.  So groups of different kinds
may change places, and those that are repeated later may be left out.

Otherwise the first place at which the groups are not complete decides, and before anything
is done in the surroundings: nothing is put out, and the status is zero for a wish for help
and one for anything else.

This holds for all packages and in all surroundings. -/
theorem run_by_last_groups {γ σ : Type} {m : Type → Type} [Monad m] [LawfulMonad m]
    (packages : Packages γ) (world : World γ σ m) (name : String) :
    (∀ args, readAt (name :: args) .empty 1 = some (read .empty args)) ∧
      (∀ text number, seed? text = some number ↔ SpellsSeed text number) ∧
      (∀ args, (∃ gs : List Group, args = gs.flatMap Group.words) ↔
        ¬ ∃ (gs : List Group) (rest : List String) (stop : Stop),
          args = gs.flatMap Group.words ++ rest ∧ Stops rest stop) ∧
      (∀ gs : List Group, run packages world name (gs.flatMap Group.words) = do
        let base ← (match lastOf Group.config? gs with
          | some path => Settings.ofFile packages.toml path <$> world.readText path
          | none => do
            if ← world.isThere "fourten.toml" then
              Settings.ofFile packages.toml "fourten.toml" <$> world.readText "fourten.toml"
            else pure (.ok ⟨"puzzles/puzzles.json", none, .auto, .usual⟩))
        match base with
        | .error fault => pure (.failing ["Error: " ++ fault.message])
        | .ok s =>
          let corpus := (lastOf Group.corpus? gs).getD s.corpus
          let seed := (lastOf Group.number? gs).or s.seed
          let color := if Group.plain ∈ gs then ColorMode.never else s.color
          match CorpusFile.ofFile packages.json corpus (← world.readText corpus) with
          | .error fault => pure (.failing ["Error: " ++ fault.message, "",
              "Point --corpus (or `corpus` in fourten.toml) at a puzzle file."])
          | .ok puzzles =>
            let position ← (match seed with
              | some seed => pure (packages.random.ofSeed seed)
              | none => world.entropy)
            let isTerminal ← world.isTerminal
            world.play ⟨puzzles, Picker.pick, s.runner.judge (s.runner.logging world.launch)⟩
              ⟨packages.random, position, seed.isSome⟩
              (color = .always ∨ color = .auto ∧ isTerminal)) ∧
      (∀ path contents result, Settings.ofFile packages.toml path contents = result ↔
        Settings.Told packages.toml path contents result) ∧
      (∀ path contents result, CorpusFile.ofFile packages.json path contents = result ↔
        CorpusFile.Told packages.json path contents result) ∧
      (∀ gs gs' : List Group,
        (∀ kind, gs.filter (·.kind = kind) = gs'.filter (·.kind = kind)) →
          run packages world name (gs.flatMap Group.words) =
            run packages world name (gs'.flatMap Group.words)) ∧
      (∀ (front back : List Group) (g : Group), (∃ g' ∈ back, g'.kind = g.kind) →
        run packages world name ((front ++ g :: back).flatMap Group.words) =
          run packages world name ((front ++ back).flatMap Group.words)) ∧
      ∀ (gs : List Group) (rest : List String) (stop : Stop), Stops rest stop →
        run packages world name (gs.flatMap Group.words ++ rest) = pure (stop.exit name) ∧
          (stop.exit name).output = [] ∧
          (stop.exit name).status = if stop = .help then 0 else 1 := by
  refine ⟨fun args => readAt_eq _ _ _, fun text number => seed?_eq_some_iff, fun args => ?_,
    fun gs => ?_, fun path contents result => Settings.ofFile_eq_iff,
    fun path contents result => CorpusFile.ofFile_eq_iff,
    fun gs gs' h => run_congr packages world name (Options.of_congr h),
    fun front back g h => run_congr packages world name (Options.of_append_cons h),
    fun gs rest stop h => ⟨run_of_stops packages world name gs h, stop.output_exit name,
      stop.status_exit name⟩⟩
  · constructor
    · rintro ⟨gs, rfl⟩ ⟨gs', rest, stop, heq, hstop⟩
      have hread := read_flatMap_words .empty gs
      rw [heq, read_flatMap_words_append, hstop.read_eq] at hread
      cases hread
    · intro hnone
      obtain ⟨gs, rest, rfl, rfl | ⟨stop, hstop⟩⟩ := exists_groups args
      · exact ⟨gs, List.append_nil _⟩
      · exact absurd ⟨gs, rest, stop, rfl, hstop⟩ hnone
  · rw [run_flatMap_words, baseSettings_eq]
    refine bind_congr fun base => ?_
    cases base with
    | error fault => rfl
    | ok s =>
      refine (play_eq packages world _).trans ?_
      simp only [settle, Options.of, decide_eq_true_eq]

/-- Surroundings in which the files have the given texts, no program can be started, and a
session is played on the given input. -/
def World.ofTexts {γ : Type} (packages : Packages γ) (position : γ)
    (texts : List (String × String)) (input : List UInt8) : World γ Unit Id where
  isThere path := (texts.lookup path).isSome
  readText path := (texts.lookup path).elim (.error .missing) .ok
  launch _ _ state := (.notStarted .missing, state)
  entropy := position
  isTerminal := true
  play g picker colored :=
    playExit packages <|
      Playthrough.run g picker ((), []) ⟨input, .exhausted⟩ ⟨colored, none, none⟩

/-- What the usual settings file says is worth as much as options that say it, and gives way
to an option that says something else, the last one if there are two; so a corpus file that
holds no JSON ends the command.  A settings file that is asked for is the only one that is
looked at, and a seed that is none ends the command in front of a wish for help. -/
theorem run_with_settings_file :
    let settings := "seed = 3\ncolor = \"never\"\n"
    let puzzles := "\x7b\"puzzles\": [\"XXXXXX\", \"00XXXXXX\"]\x7d"
    let packages : Packages Generator :=
      { toml := ⟨fun text =>
          if text = settings then .ok [("seed", .integer 3), ("color", .string "never")]
          else .error "no document", fun _ => "no settings"⟩
        json := ⟨fun text =>
          if text = puzzles then
            .ok (.object [("puzzles", .array [.string "XXXXXX", .string "00XXXXXX"])])
          else .error "expected value at line 1 column 1", fun _ => "no puzzles"⟩
        random := Generator.source
        logger := fun _ warning => Utf8.encodeString warning.message }
    let bare := World.ofTexts packages (.ofSeed 0) [("puzzles/puzzles.json", puzzles)] []
    let full := World.ofTexts packages (.ofSeed 0)
      [("fourten.toml", settings), ("puzzles/puzzles.json", puzzles)] []
    (run packages full "game" []).status = 0 ∧
      run packages full "game" [] = run packages bare "game" ["--no-color", "--seed", "+03"] ∧
      run packages full "game" ["--corpus", "fourten.toml"] =
        .failing ["Error: Invalid puzzle corpus: expected value at line 1 column 1", "",
          "Point --corpus (or `corpus` in fourten.toml) at a puzzle file."] ∧
      run packages full "game" ["--seed", "1", "--corpus", "--help", "--seed", "+08"] =
        run packages full "game" ["--seed", "+08", "--corpus", "--help"] ∧
      run packages full "game" ["--config", "--seed"] =
        .failing ["Error: Cannot read config file '--seed': " ++
          "No such file or directory (os error 2)"] ∧
      run packages full "game" ["--config", "--seed", "--seed", "x", "--help"] =
        .failing ["Error: Invalid seed: x"] := by
  intro settings puzzles packages bare full
  obtain ⟨-, hseeds, -, hfull, -, -, hreorder, hdrop, hstop⟩ :=
    run_by_last_groups packages full "game"
  obtain ⟨-, -, -, hbare, -⟩ := run_by_last_groups packages bare "game"
  have hone : seed? "1" = some 1 := (hseeds _ _).2 ⟨[], 0, .inl rfl, rfl⟩
  have hthree : seed? "+03" = some 3 := (hseeds _ _).2 ⟨['+'], 1, .inr rfl, rfl⟩
  have height : seed? "+08" = some 8 := (hseeds _ _).2 ⟨['+'], 1, .inr rfl, rfl⟩
  have hstatus : (run packages full "game" []).status = 0 := by decide +kernel
  refine ⟨hstatus, ?_, hfull [.corpus "fourten.toml"], ?_, hfull [.config "--seed"], ?_⟩
  · exact (hfull []).trans (hbare [.plain, .seed "+03" 3 hthree]).symm
  · calc
      run packages full "game" ["--seed", "1", "--corpus", "--help", "--seed", "+08"] =
          run packages full "game" ["--corpus", "--help", "--seed", "+08"] :=
        hdrop [] [.corpus "--help", .seed "+08" 8 height] (.seed "1" 1 hone)
          ⟨_, List.mem_cons_of_mem _ List.mem_cons_self, rfl⟩
      _ = run packages full "game" ["--seed", "+08", "--corpus", "--help"] :=
        hreorder [.corpus "--help", .seed "+08" 8 height]
          [.seed "+08" 8 height, .corpus "--help"] (fun kind => by cases kind <;> rfl)
  · have hbad : seed? "x" = none := by decide
    exact (hstop [.config "--seed"] _ _ (.badSeed hbad ["--help"])).1

end GameCommand
end MakeTen
