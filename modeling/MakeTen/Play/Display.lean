import MakeTen.Bytecode.Listing
import MakeTen.Play.Attempt
/-!
# What a session shows

A session shows a small number of things: a welcome, titles, listings, prompts,
verdicts and links.  They are values first and styled text afterwards, so that
colour cannot have a say in the game.

Main definitions:

- Type `Prompt`: the questions that a session asks.
- Type `Display`: the things that a session shows.
- Function `Display.spans`: a thing as styled text.
-/

namespace MakeTen

/-! ## Titles -/

/-- The title of a puzzle in a frame of hash signs. -/
def titleBanner (number : Nat) : String :=
  let title := "Puzzle " ++ toString number
  let border := String.ofList (List.replicate (title.length + 4) '#')
  border ++ "\n# " ++ title ++ " #\n" ++ border ++ "\n"

/-! ## Prompts -/

/-- What a session asks. -/
inductive Prompt where
  | solution
  /-- Whether to go on after an attempt with the given outcome. -/
  | goOn (outcome : Outcome)
  deriving Repr, DecidableEq

/-- The words of a prompt. -/
def Prompt.text : Prompt → String
  | .solution => "Enter the opcodes unseparated:"
  | .goOn .solved => "Do you want to play the next puzzle? (Y/n)"
  | .goOn .rejected => "Do you want to try again? (Y/n)"

/-! ## Displays -/

/-- What a session shows. -/
inductive Display where
  | welcome
  | banner (number : Nat)
  | listing (instructions : List Instruction)
  | blankLine
  | prompt (p : Prompt)
  | verdict (outcome : Outcome)
  | link (address : String)
  | farewell
  deriving Repr, DecidableEq

namespace Display

/-- The words that open a session. -/
def welcomeText : String :=
  "\nWelcome to the 4=10 EVM Codes puzzle game!\n\n" ++
  "Your task is to manipulate the 4 numbers on the stack to yield 10 " ++
  "using the 4 basic mathematical operations.\n\n" ++
  "The only allowed opcodes are 01 (ADD), 02 (MUL), 03 (SUB) and 04 (DIV).\n"

/-- The words that close a session. -/
def farewellText : String := "Thanks for playing!"

/-- The words of an outcome and their tint. -/
def verdictSpan : Outcome → Span
  | .solved => .tinted .green "Puzzle solved!"
  | .rejected => .tinted .red "Wrong solution :("

/-- A thing as styled text. -/
def spans : Display → List Span
  | .welcome => [.plain (welcomeText ++ "\n")]
  | .banner number => [.plain (titleBanner number ++ "\n")]
  | .listing instructions => Listing.spans instructions
  | .blankLine => [.plain "\n"]
  | .prompt p => [.tinted .green "? ", .plain (p.text ++ " ")]
  | .verdict outcome => [verdictSpan outcome, .plain "\n"]
  | .link address => [.plain ("Run it in evm.codes: " ++ address ++ "\n")]
  | .farewell => [.plain (farewellText ++ "\n")]

/-- Whether the terminal is flushed once the thing has been sent to it. -/
def isFlushed : Display → Bool
  | .listing _ => true
  | .prompt _ => true
  | .farewell => true
  | _ => false

/-- A thing as it is sent to a terminal. -/
def render (colored : Bool) (d : Display) : String :=
  Span.renderAll colored d.spans

end Display
end MakeTen
