import MakeTen.CommandLine.Exit
import MakeTen.Play.Playthrough
import MakeTen.Puzzle.CorpusFile
import MakeTen.Random.Draw
import MakeTen.Runner.Verdict
import MakeTen.Settings
/-!
# The game command

The command plays a session.  Its arguments are read from left to right, and a
later one overrides an earlier one of the same kind; the first that cannot be
read ends the command before any file is touched.  What the arguments leave
open is taken from the settings file.

What the command does is said once, for all surroundings that it may find itself
in: they look for files, read them and play sessions, by whatever means.  A host
is one whose files, programs and input are given as data.  Taking TOML and JSON
apart, writing warnings down and drawing random words is left to packages that
may be any.

Main definitions:

- Structure `GameCommand.Options`: what the arguments ask for.
- Function `GameCommand.read`: the options of some arguments.
- Function `GameCommand.settle`: the settings with the options in place.
- Structures `GameCommand.Packages` and `GameCommand.World`: what the command is
  built on, and what it finds around it.
- Function `GameCommand.run`: the command.
- Function `GameCommand.runOn`: the command on a host.
-/

namespace MakeTen
namespace GameCommand

/-! ## Arguments -/

/-- What the arguments ask for. -/
structure Options where
  config : Option String
  corpus : Option String
  seed : Option UInt64
  isPlain : Bool
  deriving Repr, DecidableEq

/-- The options of no arguments. -/
def Options.empty : Options := ⟨none, none, none, false⟩

/-- Why the arguments end the command. -/
inductive Stop where
  | help
  | missingValue (option : String)
  | badSeed (text : String)
  | unknown (option : String)
  deriving Repr, DecidableEq

/-- The number that decimal digits stand for; there has to be a digit. -/
def decimal? (digits : List Char) : Option Nat :=
  if digits.isEmpty ∨ ¬ digits.all Char.isDigit then none
  else some (digits.foldl (fun n d => n * 10 + (d.toNat - 0x30)) 0)

/-- The seed that a text stands for: decimal digits, with one plus sign in front
if need be, and less than 2 to the 64th power. -/
def seed? (text : String) : Option UInt64 :=
  let digits := match text.toList with
    | '+' :: rest => rest
    | cs => cs
  match decimal? digits with
  | some n => if n < UInt64.size then some n.toUInt64 else none
  | none => none

/-- The options of some arguments, on top of those read so far. -/
def read (o : Options) : List String → Except Stop Options
  | [] => .ok o
  | [argument] =>
    if argument = "--config" ∨ argument = "--corpus" ∨ argument = "--seed" then
      .error (.missingValue argument)
    else if argument = "--no-color" then .ok { o with isPlain := true }
    else if argument = "-h" ∨ argument = "--help" then .error .help
    else .error (.unknown argument)
  | argument :: value :: rest =>
    if argument = "--config" then read { o with config := some value } rest
    else if argument = "--corpus" then read { o with corpus := some value } rest
    else if argument = "--seed" then
      match seed? value with
      | some seed => read { o with seed := some seed } rest
      | none => .error (.badSeed value)
    else if argument = "--no-color" then read { o with isPlain := true } (value :: rest)
    else if argument = "-h" ∨ argument = "--help" then .error .help
    else .error (.unknown argument)

/-- The settings file that is looked for when none is asked for. -/
def usualConfig : String := "fourten.toml"

/-- The lines of the help text of the program `name`. -/
def usage (name : String) : List String :=
  ["fourten - the 4=10 EVM bytecode puzzle",
    "",
    "Usage: " ++ name ++ " [options]",
    "",
    "Options:",
    "  --config <file>   Read settings from a TOML file (default: ./" ++ usualConfig ++ ")",
    "  --corpus <file>   Puzzle corpus JSON file",
    "  --seed <n>        Fixed seed for a repeatable puzzle order",
    "  --no-color        Plain output",
    "  -h, --help        Show this help message"]

/-- How the program `name` ends when the arguments end it. -/
def Stop.exit (name : String) : Stop → Exit
  | .help => .saying 0 (usage name)
  | .missingValue option => .failing ["Missing value for " ++ option]
  | .badSeed text => .failing [Exit.announce ("Invalid seed: " ++ text)]
  | .unknown option =>
    .failing ["Unknown option: " ++ option, "Try '" ++ name ++ " -h' for help"]

/-! ## Endings -/

/-- How the command ends when the settings cannot be read. -/
def settingsExit (fault : Settings.Fault) : Exit :=
  .failing [Exit.announce fault.message]

/-- How the command ends when the corpus cannot be read. -/
def corpusExit (fault : CorpusFile.Fault) : Exit :=
  .failing [Exit.announce fault.message, "",
    "Point --corpus (or `corpus` in " ++ usualConfig ++ ") at a puzzle file."]

/-- How the command ends when a session breaks off. -/
def sessionExit (fault : SessionFault) : Exit :=
  .failing [Exit.announce fault.message]

/-! ## Packages and surroundings -/

/-- What the command is built on. -/
structure Packages (γ : Type) where
  toml : DocumentReader Toml.Entries
  json : DocumentReader Json.Value
  random : WordSource γ
  /-- What is written on the error output for a warning, by how many there were before. -/
  logger : Nat → Warning → List UInt8

/-- What is written on the error output for some warnings. -/
def Packages.log {γ : Type} (packages : Packages γ) (warnings : List Warning) : List UInt8 :=
  (warnings.mapIdx packages.logger).flatten

/-- What the command finds around it: what it does there is done in `m`, and the programs
that it starts have states of type `σ`. -/
structure World (γ σ : Type) (m : Type → Type) where
  isThere : String → m Bool
  readText : String → m (Except HostFault String)
  launch : String → List String → σ → Execution × σ
  /-- Where an order of puzzles begins that cannot be repeated. -/
  entropy : m γ
  isTerminal : m Bool
  /-- Plays a session, coloured or not, and says how the command ends after it. -/
  play : Game (Picker γ) (σ × List Warning) → Picker γ → Bool → m Exit

/-! ## The command -/

section Command

variable {γ σ : Type} {m : Type → Type} [Monad m] (packages : Packages γ) (world : World γ σ m)

/-- The settings file to read, if any: the one that is asked for, or else the usual one if
it is there. -/
def configPath (o : Options) : m (Option String) :=
  match o.config with
  | some path => return some path
  | none => return if ← world.isThere usualConfig then some usualConfig else none

/-- The settings before the options are put in place. -/
def baseSettings (o : Options) : m (Except Settings.Fault Settings) := do
  match ← configPath world o with
  | some path => return Settings.ofFile packages.toml path (← world.readText path)
  | none => return .ok .usual

/-- The settings with the options in place. -/
def settle (o : Options) (s : Settings) : Settings :=
  { s with
    corpus := o.corpus.getD s.corpus
    seed := o.seed.or s.seed
    color := if o.isPlain then .never else s.color }

/-- The game that some settings describe, with programs started by `launch`. -/
def game (s : Settings) (corpus : Corpus) (launch : String → List String → σ → Execution × σ) :
    Game (Picker γ) (σ × List Warning) :=
  ⟨corpus, Picker.pick, s.runner.judge (s.runner.logging launch)⟩

/-- What is left to do once the settings are known. -/
def play (s : Settings) : m Exit := do
  match CorpusFile.ofFile packages.json s.corpus (← world.readText s.corpus) with
  | .error fault => return corpusExit fault
  | .ok corpus =>
    let picker ← Picker.ofSeed? packages.random s.seed world.entropy
    world.play (game s corpus world.launch) picker (s.color.enabled (← world.isTerminal))

/-- The command, called `name`, with some arguments. -/
def run (name : String) (arguments : List String) : m Exit :=
  match read .empty arguments with
  | .error stop => return stop.exit name
  | .ok o => do
    match ← baseSettings packages world o with
    | .error fault => return settingsExit fault
    | .ok s => play packages world (settle o s)

end Command

/-! ## Hosts -/

variable {γ σ : Type}

/-- Surroundings whose files and programs are given as data. -/
structure Host (γ σ : Type) where
  files : Files
  launch : String → List String → σ → Execution × σ
  /-- The state that programs start from. -/
  state : σ
  entropy : γ
  isTerminal : Bool

/-- The text of the file that a path leads to, and what is left of the input.  A
path may lead to the input itself, which is used up then. -/
def readText (files : Files) (input : List UInt8) (path : String) :
    Except HostFault String × List UInt8 :=
  match files.node? path with
  | some (.device (.descriptor n)) =>
    if n = 0 then (Files.textOf input, []) else (.error .missing, input)
  | _ => (files.readText path, input)

/-- What a playthrough leaves behind: what was warned of stands before the fault. -/
def playExit (packages : Packages γ) (p : Playthrough (σ × List Warning)) : Exit :=
  let ending := match p.result with
    | .ok _ => Exit.saying 0 []
    | .error fault => sessionExit fault
  { ending with output := p.output, errors := packages.log p.judge.2 ++ ending.errors }

/-- The surroundings that a host makes.  They keep what is left of the input. -/
def Host.world (packages : Packages γ) (host : Host γ σ) :
    World γ σ (StateM (List UInt8)) where
  isThere path := return host.files.isThere path
  readText path input := readText host.files input path
  launch := host.launch
  entropy := return host.entropy
  isTerminal := return host.isTerminal
  play g picker colored input :=
    (playExit packages <|
      Playthrough.run g picker (host.state, []) ⟨input, .exhausted⟩ ⟨colored, none, none⟩, [])

/-- The command on a host, with a standard input. -/
def runOn (packages : Packages γ) (name : String) (host : Host γ σ) (arguments : List String)
    (input : List UInt8) : Exit :=
  ((run packages (host.world packages) name arguments).run input).1

end GameCommand
end MakeTen
