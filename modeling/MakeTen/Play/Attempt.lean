import MakeTen.Play.Judge
import MakeTen.Puzzle.Template
/-!
# Attempts

An attempt takes one solution for one template to its verdict.  It waits for a
text that is a solution, fills the template, has the code judged, and is over.
Nothing moves by itself: the caller hands in texts and asks for each step.

Main definitions:

- Type `Stage`: how far an attempt has got.
- Function `Attempt.submit`: hand in a text.
- Function `Attempt.step`: go on by one stage.
- Function `Attempt.finish`: go on until the attempt is over.
-/

namespace MakeTen

/-! ## Reports -/

/-- How an attempt ended. -/
inductive Outcome where
  | solved | rejected
  deriving Repr, DecidableEq

/-- Whether a verdict lets the run pass.  A judge that fails lets none pass. -/
def Verdict.passed : Verdict → Bool
  | .ok passed => passed
  | .error _ => false

/-- Only a verdict that the run passed lets it pass. -/
theorem Verdict.passed_eq_true_iff {v : Verdict} : v.passed = true ↔ v = .ok true := by
  cases v with
  | error fault => simp [passed]
  | ok passed => cases passed <;> simp [Verdict.passed]

/-- What an attempt came to. -/
structure Report where
  outcome : Outcome
  solution : Solution
  resolved : List UInt8
  link : String
  /-- How many texts were turned away before the solution was taken. -/
  invalidInputs : Nat
  deriving Repr, DecidableEq

/-! ## Attempts -/

/-- How far an attempt has got. -/
inductive Stage where
  | awaiting
  | resolving (solution : Solution)
  | judging (solution : Solution) (resolved : List UInt8)
  | solved (report : Report)
  | rejected (report : Report)
  deriving Repr, DecidableEq

/-- How many stages are still to come. -/
def Stage.remaining : Stage → Nat
  | .awaiting => 3
  | .resolving _ => 2
  | .judging _ _ => 1
  | .solved _ => 0
  | .rejected _ => 0

/-- Whether the attempt is over. -/
def Stage.isOver : Stage → Bool
  | .solved _ => true
  | .rejected _ => true
  | _ => false

/-- The report, once the attempt is over. -/
def Stage.report? : Stage → Option Report
  | .solved report => some report
  | .rejected report => some report
  | _ => none

/-- What became of a text handed in. -/
inductive Submission where
  | accepted
  /-- A solution had been taken before; the text is dropped. -/
  | ignored
  | invalid
  deriving Repr, DecidableEq

/-- One attempt at one template. -/
structure Attempt where
  template : Template
  stage : Stage
  invalidInputs : Nat
  deriving Repr, DecidableEq

namespace Attempt

/-- A new attempt. -/
def start (template : Template) : Attempt :=
  ⟨template, .awaiting, 0⟩

/-- Hand in a text.  Only an attempt that waits for a solution looks at it. -/
def submit (a : Attempt) (text : String) : Submission × Attempt :=
  match a.stage with
  | .awaiting =>
    match Solution.ofText? text with
    | some solution => (.accepted, { a with stage := .resolving solution })
    | none => (.invalid, { a with invalidInputs := a.invalidInputs + 1 })
  | _ => (.ignored, a)

variable {σ : Type}

/-- What an attempt says when it has no solution to go on with. -/
def notReady : PuzzleFault := .attemptNotReady "no valid solution submitted"

/-- Go on by one stage, with the judge in state `j`.  A judge that fails counts
as a rejection; an attempt that is over stays as it is. -/
def step (judge : Judge σ) (a : Attempt) (j : σ) : Except PuzzleFault Unit × Attempt × σ :=
  match a.stage with
  | .awaiting => (.error notReady, a, j)
  | .resolving solution =>
    match a.template.resolve solution with
    | .error fault => (.error fault, a, j)
    | .ok resolved => (.ok (), { a with stage := .judging solution resolved }, j)
  | .judging solution resolved =>
    let (verdict, j) := judge.execute j resolved
    let (link, j) := judge.link j resolved
    let report : Report :=
      { outcome := if verdict.passed then .solved else .rejected
        solution
        resolved
        link
        invalidInputs := a.invalidInputs }
    (.ok (), { a with stage := if verdict.passed then .solved report else .rejected report }, j)
  | .solved _ => (.ok (), a, j)
  | .rejected _ => (.ok (), a, j)

/-- A step that succeeds brings the end nearer. -/
theorem remaining_step_lt {judge : Judge σ} {a b : Attempt} {j k : σ}
    (h : step judge a j = (.ok (), b, k)) (ha : a.stage.report? = none) :
    b.stage.remaining < a.stage.remaining := by
  unfold step at h
  split at h
  · simp at h
  · rename_i solution hs
    split at h
    · simp at h
    · simp only [Prod.mk.injEq, true_and] at h
      obtain ⟨rfl, _⟩ := h
      simp [hs, Stage.remaining]
  · rename_i solution resolved hs
    simp only [Prod.mk.injEq, true_and] at h
    obtain ⟨rfl, _⟩ := h
    rw [hs]
    split <;> simp [Stage.remaining]
  · rename_i report hs
    simp [hs, Stage.report?] at ha
  · rename_i report hs
    simp [hs, Stage.report?] at ha

/-- Go on until the attempt is over, or until a step fails. -/
def finish (judge : Judge σ) (a : Attempt) (j : σ) : Except PuzzleFault Report × Attempt × σ :=
  match _hover : a.stage.report? with
  | some report => (.ok report, a, j)
  | none =>
    match _hstep : step judge a j with
    | (.error fault, b, k) => (.error fault, b, k)
    | (.ok (), b, k) => finish judge b k
termination_by a.stage.remaining
decreasing_by exact remaining_step_lt _hstep _hover

end Attempt
end MakeTen
