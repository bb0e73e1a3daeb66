import MakeTen.Bytecode.Listing
import MakeTen.CommandLine.Exit
import MakeTen.Puzzle.CodeText
/-!
# The listing command

The command prints the listing of a code.  The code text is the first argument
that is no option, or else the whole standard input.  Nothing is printed unless
all of the text can be read and all of the code decodes.

Main definitions:

- Type `ListingCommand.Source`: where the code text comes from.
- Function `ListingCommand.source`: what the arguments say about it.
- Function `ListingCommand.list`: the listing of a code text.
- Function `ListingCommand.run`: the command.
-/

namespace MakeTen
namespace ListingCommand

/-! ## Arguments -/

/-- Where the code text comes from, or why there is none. -/
inductive Source where
  | help
  | unknown (option : String)
  | argument (text : String)
  | input
  deriving Repr, DecidableEq

/-- Whether an argument is an option. -/
def isOption (argument : String) : Bool :=
  argument.toList.head? = some '-'

/-- What the arguments say, from left to right, and whether they ask for plain
output on the way. -/
def source (isPlain : Bool) : List String → Bool × Source
  | [] => (isPlain, .input)
  | argument :: rest =>
    if argument = "--no-color" then source true rest
    else if argument = "-h" ∨ argument = "--help" then (isPlain, .help)
    else if isOption argument then (isPlain, .unknown argument)
    else (isPlain, .argument argument)

/-- The lines of the help text of the program `name`. -/
def usage (name : String) : List String :=
  ["Usage: " ++ name ++ " [options] [hex-code]",
    "",
    "Reads the code from stdin when no argument is given.",
    "XX marks an open operator slot.",
    "",
    "Options:",
    "  --no-color  Plain output",
    "  -h          Show this help message"]

/-! ## The command -/

/-- What is said of a standard input that is no text. -/
def garbledInput : String :=
  "Error \x7b kind: InvalidData, message: \"stream did not contain valid UTF-8\" \x7d"

/-- The instructions that a code text stands for, or what is wrong with it. -/
def instructions (text : String) : Except String (List Instruction) :=
  match CodeText.parse text with
  | .error fault => .error fault.message
  | .ok code =>
    match disassemble code with
    | .error fault => .error fault.message
    | .ok is => .ok is

/-- The listing of a code text. -/
def list (colored : Bool) (text : String) : Exit :=
  match instructions text with
  | .error message => .failing [Exit.announce message]
  | .ok is => ⟨0, Utf8.encodeString (Span.renderAll colored (Listing.spans is)), []⟩

/-- The command, called `name`, with some arguments and a standard input. -/
def run (name : String) (isTerminal : Bool) (arguments : List String) (input : List UInt8) :
    Exit :=
  let (isPlain, source) := source false arguments
  let colored := !isPlain && isTerminal
  match source with
  | .help => .saying 0 (usage name)
  | .unknown option => .failing ["Unknown option: " ++ option]
  | .argument text => list colored text
  | .input =>
    match Utf8.decode? input with
    | some chars => list colored (String.ofList chars)
    | none => .failing [Exit.announce garbledInput]

end ListingCommand
end MakeTen
