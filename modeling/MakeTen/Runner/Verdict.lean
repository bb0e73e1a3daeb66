import MakeTen.Host.Signal
import MakeTen.Runner.Settings
import MakeTen.Text.Blank
import MakeTen.Text.Replace
import MakeTen.Text.Utf8
/-!
# Judging by a program

A program is started once for every verdict.  Its arguments are made from the
settings and the code.  The run passes when the program ends well and no line
of its output holds one of the words that mean that the code was reverted.

Main definitions:

- Function `RunnerSettings.fillArgument`: an argument with its marks replaced.
- Type `Execution`: what became of starting a program.
- Function `RunnerSettings.verdict`: the verdict on it.
- Function `RunnerSettings.judge`: the judge that starts programs.
- Function `RunnerSettings.warnings`: what is left to the log after a run.
-/

namespace MakeTen

/-! ## Arguments -/

namespace RunnerSettings

/-- The marks of an argument and what replaces them when `code` is judged, in
the order in which they are replaced. -/
def replacements (s : RunnerSettings) (code : List UInt8) : List (String × String) :=
  [(codeMark, Hex.lower code), (callDataMark, s.callData), (gasMark, toString s.gasLimit),
    (addressMark, s.address)]

/-- An argument with its marks replaced one after the other.  A mark that comes
in with a value is replaced as well if its turn is still to come. -/
def fillArgument (s : RunnerSettings) (code : List UInt8) (argument : String) : String :=
  String.ofList <|
    (s.replacements code).foldl
      (fun text (mark, value) => Replace.all mark.toList value.toList text) argument.toList

/-- The arguments for judging some code. -/
def fillArguments (s : RunnerSettings) (code : List UInt8) : List String :=
  s.arguments.map (s.fillArgument code)

end RunnerSettings

/-! ## Verdicts -/

/-- How a program ended: with a status, or by a signal that may have left an image of its
memory behind. -/
inductive ExitStatus where
  | exit (code : Nat)
  | signal (number : Nat) (isDumped : Bool)
  deriving Repr, DecidableEq

namespace ExitStatus

/-- Whether the program ended well. -/
def isWell (status : ExitStatus) : Bool :=
  status = .exit 0

/-- The end of a program in words. -/
def text : ExitStatus → String
  | .exit code => "exit status: " ++ toString code
  | .signal number isDumped =>
    "signal: " ++ toString number ++
      (Signal.name? number).elim "" (fun name => " (SIG" ++ name ++ ")") ++
      if isDumped then " (core dumped)" else ""

end ExitStatus

/-- What became of starting a program. -/
inductive Execution where
  | notStarted (cause : HostFault)
  | ended (status : ExitStatus) (output errors : List UInt8)
  deriving Repr, DecidableEq

namespace RunnerSettings

/-- A text in which letter case of ASCII letters does not show. -/
def foldCase (cs : List Char) : List Char :=
  cs.map Char.toLower

/-- Whether a line holds one of the words. -/
def isFailureLine (s : RunnerSettings) (line : List Char) : Bool :=
  s.failureMarkers.any fun marker => Replace.hasPart (foldCase marker.toList) (foldCase line)

/-- Whether some line of an output holds one of the words. -/
def reportsFailure (s : RunnerSettings) (output : List UInt8) : Bool :=
  (Replace.lines (Utf8.decodeLossy output)).any s.isFailureLine

/-- The verdict on what became of starting the program. -/
def verdict (s : RunnerSettings) : Execution → Verdict
  | .notStarted cause => .error (.launch s.program cause)
  | .ended status output errors =>
    if status.isWell then .ok !(s.reportsFailure errors || s.reportsFailure output)
    else .error (.runner (String.ofList (Blank.trim (Utf8.decodeLossy errors))))

/-- The judge that starts programs by means of `launch`. -/
def judge {σ : Type} (s : RunnerSettings) (launch : String → List String → σ → Execution × σ) :
    Judge σ where
  execute state code :=
    let (execution, state) := launch s.program (s.fillArguments code) state
    (s.verdict execution, state)
  link state code := (playgroundLink s.callData code, state)

/-! ## Warnings -/

/-- What is warned of after a run: by the judge if the program did not end well, and then by
the attempt if there is no verdict. -/
def warnings (s : RunnerSettings) (execution : Execution) : List Warning :=
  let own := match execution with
    | .notStarted _ => []
    | .ended status _ _ =>
      if status.isWell then [] else [⟨"fourten::bridge", "Runner exited with " ++ status.text⟩]
  own ++ (s.verdict execution).warnings

/-- Starting programs, with a list of the warnings so far beside the state. -/
def logging {σ : Type} (s : RunnerSettings) (launch : String → List String → σ → Execution × σ) :
    String → List String → σ × List Warning → Execution × σ × List Warning :=
  fun program arguments state =>
    let (execution, inner) := launch program arguments state.1
    (execution, inner, state.2 ++ s.warnings execution)

end RunnerSettings
end MakeTen
