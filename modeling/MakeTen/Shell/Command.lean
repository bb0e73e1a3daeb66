import MakeTen.Text.Raw
/-!
# Shell commands

The commands of the POSIX shell.  A word is a list of parts, some of them
quoted; what a word comes to is known only when it is expanded.
-/

namespace MakeTen
namespace Shell

/-- Which end of a value is cut off, and how much of it. -/
inductive Cut where
  | shortHead | longHead | shortTail | longTail
  deriving Repr, DecidableEq

/-- How a redirection opens its file. -/
inductive Opening where
  | read
  | write
  /-- Like `write`, also where files are protected from it. -/
  | overwrite
  | append
  | both
  deriving Repr, DecidableEq

mutual

/-- A part of a word. -/
inductive Part where
  /-- Characters that stand for themselves. -/
  | text (quoted : Bool) (raw : Raw)
  /-- The home directory of a user; the empty name is that of whoever runs the
  shell.  It may be one only where a value is assigned. -/
  | home (onlyInValue : Bool) (user : Raw)
  /-- The value of a parameter. -/
  | parameter (quoted : Bool) (name : String) (use : ParameterUse)
  /-- The output of commands. -/
  | output (quoted : Bool) (body : List Command)
  /-- The value of an arithmetic expression. -/
  | arithmetic (quoted : Bool) (expression : List Part)

/-- What is done with the value of a parameter.  The flag says whether an empty
value counts as none. -/
inductive ParameterUse where
  | value
  | length
  | orElse (emptyToo : Bool) (word : List Part)
  | orAssign (emptyToo : Bool) (word : List Part)
  | orFail (emptyToo : Bool) (word : List Part)
  | instead (emptyToo : Bool) (word : List Part)
  | without (cut : Cut) (pattern : List Part)
  /-- A use that cannot be made sense of. -/
  | malformed

/-- A redirection of a descriptor. -/
inductive Redirect where
  | file (descriptor : Nat) (opening : Opening) (path : List Part)
  | copy (descriptor : Nat) (source : List Part)
  /-- A text that stands in the script itself. -/
  | document (descriptor : Nat) (text : List Part)

/-- A command.  Those that can go wrong by themselves know the line of the
script that they start on. -/
inductive Command where
  | simple (line : Nat) (assignments : List (String × List Part))
      (words : List (List Part)) (redirects : List Redirect)
  | redirected (line : Nat) (body : Command) (redirects : List Redirect)
  | pipeline (commands : List Command)
  | negated (body : Command)
  | andThen (first second : Command)
  | orElse (first second : Command)
  | background (body : Command)
  | group (body : List Command)
  | subshell (body : List Command)
  | choose (test body : List Command) (otherwise : List Command)
  | repeated (untilTrue : Bool) (test body : List Command)
  | each (line : Nat) (name : String) (words : Option (List (List Part)))
      (body : List Command)
  | branch (line : Nat) (subject : List Part)
      (branches : List (List (List Part) × List Command))
  | define (name : String) (body : Command)

end

/-- A word is a list of parts. -/
abbrev Word := List Part

/-- What is wrong with a script. -/
structure ScriptFault where
  message : String
  line : Nat

end Shell
end MakeTen
