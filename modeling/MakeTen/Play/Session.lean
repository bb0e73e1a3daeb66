import MakeTen.Play.Display
import MakeTen.Play.Score
import MakeTen.Puzzle.Corpus
import MakeTen.Text.Blank
/-!
# Sessions

A session shows a puzzle, asks for a solution until it gets one, has it judged,
and asks whether to go on: with the same puzzle after a rejection, with another
one after a solution.  Between two prompts it does not wait for anything, so it
is a machine that takes one line at a time.

Everything that happens is written down in order: what is shown, what is heard
and how it is taken, which code is judged, which puzzle is drawn.

Main definitions:

- Structure `Game`: what stays the same during a session.
- Structure `Session`: what changes.
- Type `Event`: what happens.
- Functions `Session.start`, `Session.hear`, `Session.leave`: the machine.
-/

namespace MakeTen

/-! ## Events -/

/-- How a line is taken. -/
inductive Use where
  | turnedAway
  | taken (solution : Solution)
  | unclear
  | yes
  | no
  deriving Repr, DecidableEq

/-- What happens in a session. -/
inductive Event where
  | shown (display : Display)
  | heard (line : String) (use : Use)
  | judged (code : List UInt8) (outcome : Outcome)
  | drew (index : Nat)
  deriving Repr, DecidableEq

/-! ## Sessions -/

/-- Why a session breaks off. -/
inductive SessionFault where
  | puzzle (fault : PuzzleFault)
  | noSuchPuzzle (index : Nat)
  | terminal (reason : String)
  deriving Repr, DecidableEq

/-- The fault in words. -/
def SessionFault.message : SessionFault → String
  | .puzzle fault => fault.message
  | .noSuchPuzzle index => "No puzzle at corpus index " ++ toString index
  | .terminal reason => "Terminal I/O failed: " ++ reason

/-- What a session is waiting for. -/
inductive Phase where
  | solving (attempt : Attempt)
  /-- An answer to the question after an attempt with the given outcome. -/
  | asking (outcome : Outcome)
  | closed
  | failed (fault : SessionFault)
  deriving Repr, DecidableEq

/-- What stays the same during a session: the puzzles, how one of them is
picked, and who judges. -/
structure Game (π σ : Type) where
  corpus : Corpus
  /-- Picks an index below a number. -/
  pick : π → Nat → Nat × π
  judge : Judge σ

/-- What changes during a session. -/
structure Session (π σ : Type) where
  picker : π
  judge : σ
  score : Score
  phase : Phase

/-- Whether the session waits for nothing any more. -/
def Phase.isOver : Phase → Bool
  | .closed => true
  | .failed _ => true
  | _ => false

/-- The answer that a line gives to a question: nothing means yes, and letter
case does not matter. -/
def answer? (line : String) : Option Bool :=
  match String.ofList ((Blank.trim line.toList).map Char.toLower) with
  | "" => some true
  | "y" => some true
  | "yes" => some true
  | "n" => some false
  | "no" => some false
  | _ => none

namespace Session

variable {π σ : Type}

/-! ## Rounds -/

/-- What is shown at the start of a round. -/
def roundEvents (number : Nat) (template : Template) : List Event :=
  [.shown (.banner number), .shown (.listing template.instructions), .shown .blankLine,
    .shown (.prompt .solution)]

/-- Show the current puzzle and ask for a solution. -/
def beginRound (g : Game π σ) (s : Session π σ) : List Event × Session π σ :=
  match g.corpus.get? s.score.puzzleIndex with
  | none => ([], { s with phase := .failed (.noSuchPuzzle s.score.puzzleIndex) })
  | some template =>
    (roundEvents s.score.puzzleNumber template, { s with phase := .solving (.start template) })

/-- Greet the player, draw the first puzzle and show it. -/
def start (g : Game π σ) (picker : π) (judge : σ) : List Event × Session π σ :=
  let (index, picker) := g.pick picker g.corpus.size
  let (events, s) := beginRound g ⟨picker, judge, .start index, .closed⟩
  (.shown .welcome :: .drew index :: events, s)

/-- Draw the next puzzle and show it. -/
def nextPuzzle (g : Game π σ) (s : Session π σ) : List Event × Session π σ :=
  let (index, picker) := g.pick s.picker g.corpus.size
  let (events, s) := beginRound g { s with picker, score := s.score.advance index }
  (.drew index :: events, s)

/-- What is shown once an attempt is over. -/
def reportEvents (report : Report) (instructions : List Instruction) : List Event :=
  [.judged report.resolved report.outcome, .shown .blankLine, .shown (.listing instructions),
    .shown .blankLine, .shown (.verdict report.outcome), .shown .blankLine,
    .shown (.link report.link), .shown .blankLine,
    .shown (.prompt (.goOn report.outcome))]

/-- Have the attempt judged, report on it, and ask whether to go on. -/
def conclude (g : Game π σ) (s : Session π σ) (attempt : Attempt) : List Event × Session π σ :=
  match attempt.finish g.judge s.judge with
  | (.error fault, _, judge) => ([], { s with judge, phase := .failed (.puzzle fault) })
  | (.ok report, _, judge) =>
    match disassemble report.resolved with
    | .error fault =>
      ([.judged report.resolved report.outcome, .shown .blankLine],
        { s with judge, phase := .failed (.puzzle (.decode fault)) })
    | .ok instructions =>
      (reportEvents report instructions,
        { s with
          judge
          score := s.score.record report.outcome report.invalidInputs
          phase := .asking report.outcome })

/-! ## The machine -/

/-- What a session says when a second solution turns up. -/
def alreadyTaken : SessionFault := .puzzle (.attemptNotReady "solution already taken")

/-- Take a line at a solution prompt. -/
def hearSolution (g : Game π σ) (s : Session π σ) (attempt : Attempt) (line : String) :
    List Event × Session π σ :=
  match attempt.submit (Blank.trimmed line) with
  | (.ignored, _) => ([], { s with phase := .failed alreadyTaken })
  | (.invalid, attempt) =>
    ([.heard line .turnedAway, .shown (.prompt .solution)], { s with phase := .solving attempt })
  | (.accepted, attempt) =>
    let events := match attempt.stage with
      | .resolving solution => [.heard line (.taken solution)]
      | _ => []
    let (rest, s) := conclude g s attempt
    (events ++ rest, s)

/-- Take a line at the question after an attempt. -/
def hearAnswer (g : Game π σ) (s : Session π σ) (outcome : Outcome) (line : String) :
    List Event × Session π σ :=
  match answer? line with
  | none => ([.heard line .unclear, .shown (.prompt (.goOn outcome))], s)
  | some false =>
    ([.heard line .no, .shown .blankLine, .shown .farewell], { s with phase := .closed })
  | some true =>
    let (events, s) := match outcome with
      | .solved => nextPuzzle g s
      | .rejected => beginRound g s
    (.heard line .yes :: .shown .blankLine :: events, s)

/-- Take a line. -/
def hear (g : Game π σ) (s : Session π σ) (line : String) : List Event × Session π σ :=
  match s.phase with
  | .solving attempt => hearSolution g s attempt line
  | .asking outcome => hearAnswer g s outcome line
  | _ => ([], s)

/-- Take note that there are no more lines. -/
def leave (s : Session π σ) : List Event × Session π σ :=
  if s.phase.isOver then ([], s) else ([.shown .farewell], { s with phase := .closed })

end Session
end MakeTen
