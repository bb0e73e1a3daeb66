import MakeTen.Host.Fault
import MakeTen.Text.Hex
/-!
# Judges

A judge runs resolved code and says whether the run passed.  It may keep a
state from one call to the next, and it may fail, in which case the run counts
as not passed.  It also knows the address of a page on which the run can be
looked at.

What goes wrong with a run is not shown to the player.  It is left to a log, as
warnings.

Main definitions:

- Structure `Judge`: what an attempt needs to know of a judge.
- Function `playgroundLink`: the page of a run.
- Structure `Warning`: what is left to a log.
- Functions `Judge.recorded` and `Judge.traced`: a judge that writes down its
  runs, or all that it was asked.
-/

namespace MakeTen

/-- Why a judge gave no verdict. -/
inductive JudgeFault where
  | launch (program : String) (cause : HostFault)
  | runner (report : String)
  deriving Repr, DecidableEq

/-- The fault in words. -/
def JudgeFault.message : JudgeFault → String
  | .launch program cause => "Failed to launch '" ++ program ++ "': " ++ cause.message
  | .runner report => "Runner reported an error: " ++ report

/-- The verdict on a run: passed or not, unless the judge failed. -/
abbrev Verdict := Except JudgeFault Bool

/-! ## Warnings -/

/-- What is left to a log: where it comes from, and what it says. -/
structure Warning where
  origin : String
  message : String
  deriving Repr, DecidableEq

/-- What an attempt warns of when it is given a verdict. -/
def Verdict.warnings : Verdict → List Warning
  | .ok _ => []
  | .error fault =>
    [⟨"fourten::attempt", "Execution failed, counting as rejected: " ++ fault.message⟩]

/-! ## Judges -/

/-- A judge with states of type `σ`. -/
structure Judge (σ : Type) where
  execute : σ → List UInt8 → Verdict × σ
  /-- The page on which a run can be looked at. -/
  link : σ → List UInt8 → String × σ

/-- Page on which a run of `code` called with `callData`, written in
hexadecimal, can be looked at. -/
def playgroundLink (callData : String) (code : List UInt8) : String :=
  "https://www.evm.codes/playground?callValue=0&unit=Wei&callData=0x" ++ callData ++
    "&codeType=Bytecode&code=%27" ++ Hex.lower code ++ "%27_"

/-- Call data of a run when nothing else is asked for: a single zero byte. -/
def defaultCallData : String := "00"

namespace Judge

variable {σ : Type}

/-- The page of a run of some code, asked for right after the run, and the judge after
both. -/
def page (judge : Judge σ) (j : σ) (code : List UInt8) : String × σ :=
  judge.link (judge.execute j code).2 code

/-- The same judge, with a list of the runs so far beside its state. -/
def recorded (judge : Judge σ) : Judge (σ × List (List UInt8 × Verdict)) where
  execute state code :=
    let (verdict, inner) := judge.execute state.1 code
    (verdict, inner, state.2 ++ [(code, verdict)])
  link state code :=
    let (address, inner) := judge.link state.1 code
    (address, inner, state.2)

/-- What a judge is asked, with its answer. -/
inductive Inquiry where
  | run (code : List UInt8) (verdict : Verdict)
  | page (code : List UInt8) (address : String)
  deriving Repr

/-- The same judge, with a list of all that it was asked so far beside its state. -/
def traced (judge : Judge σ) : Judge (σ × List Inquiry) where
  execute state code :=
    let (verdict, inner) := judge.execute state.1 code
    (verdict, inner, state.2 ++ [.run code verdict])
  link state code :=
    let (address, inner) := judge.link state.1 code
    (address, inner, state.2 ++ [.page code address])

/-- A judge that gives out prepared verdicts in order, and fails when there are
none left. -/
def scripted : Judge (List Verdict) where
  execute
    | [], _ => (.error (.runner "no verdict left"), [])
    | verdict :: rest, _ => (verdict, rest)
  link state code := (playgroundLink defaultCallData code, state)

end Judge
end MakeTen
