import MakeTen.Host.Files
import MakeTen.Runner.Settings
import MakeTen.Text.Document
import MakeTen.Toml.Value
/-!
# Settings

The settings of the game are kept in a TOML file.  Everything has a default, so
an empty file is a complete one.  What the file holds beyond the settings is
ignored; a setting with a value of the wrong kind refuses the whole file.  The
text is taken apart by any reader of TOML.

Main definitions:

- Structure `Settings`: all settings.
- Function `Settings.ofEntries?`: the settings in a TOML table.
- Functions `Settings.parse`, `Settings.ofFile` and `Settings.load`: those of a
  text or file.
-/

namespace MakeTen

/-! ## The settings -/

/-- When the output is coloured. -/
inductive ColorMode where
  /-- If the output goes to a terminal. -/
  | auto
  | always
  | never
  deriving Repr, DecidableEq

/-- The name of a mode. -/
def ColorMode.text : ColorMode → String
  | .auto => "auto"
  | .always => "always"
  | .never => "never"

/-- The mode of a name. -/
def ColorMode.ofText? : String → Option ColorMode
  | "auto" => some .auto
  | "always" => some .always
  | "never" => some .never
  | _ => none

/-- Whether the output is coloured. -/
def ColorMode.enabled (mode : ColorMode) (isTerminal : Bool) : Bool :=
  match mode with
  | .auto => isTerminal
  | .always => true
  | .never => false

/-- All settings of the game. -/
structure Settings where
  corpus : String
  /-- Seed for a repeatable order of puzzles. -/
  seed : Option UInt64
  color : ColorMode
  runner : RunnerSettings
  deriving Repr, DecidableEq

namespace Settings

/-- The settings when nothing else is asked for. -/
def usual : Settings where
  corpus := "puzzles/puzzles.json"
  seed := none
  color := .auto
  runner := .usual

/-- Why a file holds no settings. -/
inductive Fault where
  | unreadable (path : String) (cause : HostFault)
  /-- The text is not TOML, or a setting has a value of the wrong kind. -/
  | malformed (report : String)
  deriving Repr, DecidableEq

/-- The fault in words. -/
def Fault.message : Fault → String
  | .unreadable path cause => "Cannot read config file '" ++ path ++ "': " ++ cause.message
  | .malformed report => "Invalid config: " ++ report

/-! ## Reading values -/

/-- A text. -/
def text? : Toml.Value → Option String
  | .string text => some text
  | _ => none

/-- A list of texts. -/
def texts? : Toml.Value → Option (List String)
  | .array elements => elements.mapM text?
  | _ => none

/-- A number that is not negative and fits into 64 bits. -/
def natural? : Toml.Value → Option Nat
  | .integer n => if 0 ≤ n ∧ n < UInt64.size then some n.toNat else none
  | _ => none

/-- The same number as a word of 64 bits. -/
def word? (v : Toml.Value) : Option UInt64 :=
  (natural? v).map Nat.toUInt64

/-- Whether an array or table is there but holds nothing. -/
def isHollow : Toml.Value → Bool
  | .array [] => true
  | .table _ [] => true
  | _ => false

/-- A mode by its name; the name may also be the only key of a table and have
nothing in it. -/
def color? : Toml.Value → Option ColorMode
  | .string name => ColorMode.ofText? name
  | .table _ [(name, v)] => if isHollow v then ColorMode.ofText? name else none
  | _ => none

/-- A setting that may be missing. -/
def optional {α : Type} (read : Toml.Value → Option α) (usual : α) :
    Option Toml.Value → Option α
  | none => some usual
  | some v => read v

/-- The settings of the runner, each given by its value if there is one. -/
def runnerOf (program arguments address callData gasLimit failureMarkers : Option Toml.Value) :
    Option RunnerSettings := do
  let usual := RunnerSettings.usual
  return {
    program := ← optional text? usual.program program
    arguments := ← optional texts? usual.arguments arguments
    address := ← optional text? usual.address address
    callData := ← optional text? usual.callData callData
    gasLimit := ← optional natural? usual.gasLimit gasLimit
    failureMarkers := ← optional texts? usual.failureMarkers failureMarkers }

/-- The settings of the runner by their names. -/
def runnerOfEntries (entries : Toml.Entries) : Option RunnerSettings :=
  runnerOf (entries.get? "program") (entries.get? "args") (entries.get? "address")
    (entries.get? "call_data") (entries.get? "gas_limit") (entries.get? "failure_markers")

/-- The settings of the runner in a fixed order.  Those at the end may be
missing, and what follows them is ignored. -/
def runnerOfElements (vs : List Toml.Value) : Option RunnerSettings :=
  runnerOf vs[0]? vs[1]? vs[2]? vs[3]? vs[4]? vs[5]?

/-- The settings of the runner in a value.  A moment counts as a table that
holds none of them. -/
def runner? : Toml.Value → Option RunnerSettings
  | .table _ entries => runnerOfEntries entries
  | .array elements => runnerOfElements elements
  | .tables latestFirst => runnerOfElements latestFirst.reverse
  | .moment => some .usual
  | _ => none

/-! ## Reading files -/

/-- The settings in a TOML table. -/
def ofEntries? (entries : Toml.Entries) : Option Settings := do
  return {
    corpus := ← optional text? usual.corpus (entries.get? "corpus")
    seed := ← optional (fun v => (word? v).map some) usual.seed (entries.get? "seed")
    color := ← optional color? usual.color (entries.get? "color")
    runner := ← optional runner? usual.runner (entries.get? "bridge") }

/-- The settings of a TOML text. -/
def parse (toml : DocumentReader Toml.Entries) (text : String) : Except Fault Settings :=
  (toml.parse ofEntries? text).mapError .malformed

/-- The settings of what came of reading the file at `path`. -/
def ofFile (toml : DocumentReader Toml.Entries) (path : String) :
    Except HostFault String → Except Fault Settings
  | .error cause => .error (.unreadable path cause)
  | .ok text => parse toml text

/-- The settings of the file at `path`. -/
def load (toml : DocumentReader Toml.Entries) (files : Files) (path : String) :
    Except Fault Settings :=
  ofFile toml path (files.readText path)

end Settings
end MakeTen
