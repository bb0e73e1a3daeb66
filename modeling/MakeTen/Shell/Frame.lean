import MakeTen.Shell.State
/-!
# What a shell still has to do

A shell works through a stack of frames.  Some are commands to be carried out;
others put things back as they were when what is above them is done, however it
comes to its end.

Main definitions:

- Type `Shell.Frame`: one thing to be done.
- Type `Shell.Flow`: how commands are left before their end.
-/

namespace MakeTen
namespace Shell

/-- Why commands are left before their end. -/
inductive Flow where
  /-- The shell ends. -/
  | exit
  /-- The shell ends because of a fault, unless a builtin command catches it. -/
  | fault
  /-- Some loops are left. -/
  | leave (loops : Nat)
  /-- A loop goes on with its next turn, after some inner loops are left. -/
  | again (loops : Nat)
  /-- A function or a script is left. -/
  | back
  deriving DecidableEq

/-- A redirection whose word has been expanded. -/
inductive Redirection where
  | file (descriptor : Nat) (opening : Opening) (path : Raw)
  | copy (descriptor source : Nat)
  | close (descriptor : Nat)
  | document (descriptor : Nat) (text : Raw)

/-- What redirections are made for. -/
inductive Redirected where
  /-- A simple command of these fields, and the assignments in front of it. -/
  | simple (fields : List Raw) (assignments : List (String × Word))
  | compound (body : Command)
  /-- The commands of a copy of the shell, which is the current process. -/
  | copied (body : List Command)

/-- A loop: how its test is read, its test, and its body. -/
structure Loop where
  untilTrue : Bool
  test : List Command
  body : List Command

/-- What a function hides of the one who calls it. -/
structure Caller where
  positional : List Raw
  hidden : List (String × Option Variable)
  loops : Nat
  optionIndex : Nat
  cursor : Option Nat

/-- One thing that a shell has to do. -/
inductive Frame where
  /-- Carry out the next lines of a script of so many line ends; they may have to
  be shown if the shell is asked to. -/
  | script (total : Nat) (isShown : Bool) (rest : Raw)
  /-- Read a script from the input and carry it out. -/
  | input (done : List Raw)
  | command (command : Command)
  | sequence (commands : List Command)
  /-- Expand the words of a simple command; those done are in reverse. -/
  | expand (todo : List Word) (done : List Raw) (assignments : List (String × Word))
      (redirects : List Redirect)
  /-- Expand redirections; those done are in reverse. -/
  | redirect (todo : List Redirect) (done : List Redirection) (next : Redirected)
  /-- Make the assignments of a simple command; those done are in reverse.  The
  descriptor is where commands are shown. -/
  | assign (todo : List (String × Word)) (done : List (String × Raw)) (fields : List Raw)
      (shown : Nat)
  | invoke (fields : List Raw)
  /-- Expand the words of a loop. -/
  | eachWords (name : String) (todo : List Word) (done : List Raw) (body : List Command)
  | each (name : String) (fields : List Raw) (body : List Command)
  | subject (word : Word) (branches : List (List Word × List Command))
  | choice (subject : Raw) (patterns : List Word) (body : List Command)
      (others : List (List Word × List Command))
  /-- Look at what the test of a loop has come to; the status is that of the
  last turn. -/
  | test (loop : Loop) (status : Nat)
  /-- Look at what the body of a loop has come to. -/
  | turn (loop : Loop)
  /-- One loop more is being turned. -/
  | loop
  | choose (body otherwise : List Command)
  | andThen (second : Command)
  | orElse (second : Command)
  | negate
  /-- End the shell if it is to end on failure and the command has failed. -/
  | check
  /-- Put back whether failures are looked at. -/
  | shield (before : Bool)
  /-- Put descriptors back where they were, or forget about that; each has been
  kept under another number or was closed. -/
  | descriptors (kept : List (Nat × Option Nat)) (isRestored : Bool)
  /-- Put back variables. -/
  | bindings (before : List (String × Option Variable))
  /-- Leave a function. -/
  | call (before : Caller)
  /-- Leave a script that was read from a file. -/
  | source
  /-- Catch a fault. -/
  | guard
  /-- Put back how complaints start. -/
  | voice (lead : Raw)
  /-- Put back the status after a trap. -/
  | status (status : Nat)
  /-- Wait for processes; the status is that of the last one. -/
  | await (processes : List Nat)
  /-- Take the output of a process from a descriptor. -/
  | gather (process descriptor : Nat) (done : List Raw)
  /-- Wait for all processes in the background. -/
  | joinAll
  /-- Wait for those that some names stand for; the status is that of the last one. -/
  | join (names : List Raw) (status : Nat)
  /-- Read a line into variables, the start of which has been read. -/
  | read (names : List String) (isRaw : Bool) (done : Raw)
  /-- End the shell. -/
  | ending

end Shell
end MakeTen
