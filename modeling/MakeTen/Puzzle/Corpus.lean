import MakeTen.Puzzle.Template
/-!
# Corpora

A corpus is a non-empty list of templates.  All of its texts are checked when
it is built, and the first text that is no template refuses the whole corpus,
so a broken puzzle never reaches a player.

Main definitions:

- Structure `Corpus`: the templates, each numbered by its position.
- Function `Corpus.ofTexts`: the corpus written as a list of code texts.
-/

namespace MakeTen

/-- The puzzles of a game. -/
structure Corpus where
  /-- The templates; each has its position as its number. -/
  templates : List Template
  deriving Repr, DecidableEq

namespace Corpus

/-- Why a list of texts is no corpus. -/
inductive Fault where
  | empty
  | template (index : Nat) (fault : PuzzleFault)
  deriving Repr, DecidableEq

/-- The fault in words. -/
def Fault.message : Fault → String
  | .empty => "Puzzle corpus is empty"
  | .template index fault =>
    "Puzzle " ++ toString index ++ " is malformed: " ++ fault.message

/-- The templates of some texts, numbered from `index` on. -/
def readTemplates (index : Nat) : List String → Except Fault (List Template)
  | [] => .ok []
  | text :: texts =>
    match Template.ofText index text with
    | .error fault => .error (.template index fault)
    | .ok t =>
      match readTemplates (index + 1) texts with
      | .error fault => .error fault
      | .ok ts => .ok (t :: ts)

/-- The corpus written as a list of code texts. -/
def ofTexts (texts : List String) : Except Fault Corpus :=
  match texts with
  | [] => .error .empty
  | text :: rest => (readTemplates 0 (text :: rest)).map Corpus.mk

/-- Number of puzzles. -/
def size (c : Corpus) : Nat :=
  c.templates.length

/-- Whether there is no puzzle. -/
def isEmpty (c : Corpus) : Bool :=
  c.templates.isEmpty

/-- The puzzle at an index. -/
def get? (c : Corpus) (index : Nat) : Option Template :=
  c.templates[index]?

end Corpus
end MakeTen
