import MakeTen.Play.Attempt
/-!
# Scores

The counters of a session.  A judged attempt is recorded with its outcome; a
solved puzzle may be followed by the next one.
-/

namespace MakeTen

/-- The counters of a session. -/
structure Score where
  /-- Number of the puzzle in the title, from one on. -/
  puzzleNumber : Nat
  puzzleIndex : Nat
  attempts : Nat
  totalAttempts : Nat
  solved : Nat
  /-- Texts turned away before the solutions of judged attempts. -/
  reprompts : Nat
  deriving Repr, DecidableEq

namespace Score

/-- The counters before the first attempt. -/
def start (index : Nat) : Score :=
  ⟨1, index, 0, 0, 0, 0⟩

/-- Counts one for a solved puzzle. -/
def point : Outcome → Nat
  | .solved => 1
  | .rejected => 0

/-- The counters after a judged attempt before whose solution `reprompts` texts
were turned away. -/
def record (s : Score) (outcome : Outcome) (reprompts : Nat) : Score :=
  { s with
    attempts := s.attempts + 1
    totalAttempts := s.totalAttempts + 1
    solved := s.solved + point outcome
    reprompts := s.reprompts + reprompts }

/-- The counters at the start of the next puzzle. -/
def advance (s : Score) (index : Nat) : Score :=
  { s with puzzleNumber := s.puzzleNumber + 1, puzzleIndex := index, attempts := 0 }

end Score
end MakeTen
