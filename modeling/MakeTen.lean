import MakeTen.Main
import MakeTen.Proofs.Bytecode.Assembly
import MakeTen.Proofs.Puzzle.Filling
import MakeTen.Proofs.Play.Attempts
import MakeTen.Proofs.Puzzle.Corpora
import MakeTen.Proofs.Play.Courses
import MakeTen.Proofs.Play.Exchanges
import MakeTen.Proofs.Play.Scores
import MakeTen.Proofs.Play.Rounds
import MakeTen.Proofs.Play.Tales
import MakeTen.Proofs.Puzzle.Spelling
import MakeTen.Proofs.Puzzle.Splicing
import MakeTen.Proofs.Puzzle.Acceptance
import MakeTen.Proofs.Puzzle.Grammar
import MakeTen.Proofs.Terminal.Untinting
import MakeTen.Proofs.Play.Colours
import MakeTen.Proofs.Play.Records
import MakeTen.Proofs.Play.Rooms
import MakeTen.Proofs.Play.Interruptions
import MakeTen.Proofs.Play.Hearings
import MakeTen.Proofs.Play.Lines
import MakeTen.Proofs.Play.Orders
import MakeTen.Proofs.Play.Uses
import MakeTen.Proofs.Text.Padding
import MakeTen.Proofs.Play.LineForms
import MakeTen.Proofs.Play.Insertions
import MakeTen.Proofs.Bytecode.Truncation
import MakeTen.Proofs.Bytecode.Boundaries
import MakeTen.Proofs.Bytecode.Sweeps
import MakeTen.Proofs.Puzzle.Substitution
import MakeTen.Proofs.Puzzle.Answers
import MakeTen.Proofs.Puzzle.Misspelling
import MakeTen.Proofs.Play.Finishing
import MakeTen.Proofs.Bytecode.Layout
import MakeTen.Proofs.Text.Parts
import MakeTen.Proofs.Runner.Verdicts
import MakeTen.Proofs.Text.Replacing
import MakeTen.Proofs.CommandLine.Seeds
import MakeTen.Proofs.Runner.Marks
import MakeTen.Proofs.CommandLine.Arguments
import MakeTen.Proofs.Bytecode.Columns
import MakeTen.Proofs.Puzzle.Pointing
import MakeTen.Proofs.Random.Fairness
import MakeTen.Proofs.CommandLine.Listings
import MakeTen.Proofs.Play.Readings
