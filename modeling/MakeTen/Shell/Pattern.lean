import MakeTen.Host.Files
import MakeTen.Text.Raw
/-!
# Patterns

A pattern is matched against a whole text: a question mark stands for one
character, a star for any number of them, brackets for one out of a set.
Quoted characters stand for themselves.

Main definitions:

- Function `Shell.compile`: the pattern that some characters spell.
- Function `Shell.fits`: whether a text matches a pattern.
- Functions `Shell.cutHead` and `Shell.cutTail`: a text without a matching end.
- Function `Shell.matchNames`: the paths that match a pattern.
-/

namespace MakeTen
namespace Shell

/-- A character and whether it is quoted. -/
structure Glyph where
  char : Char
  quoted : Bool
  deriving Repr, DecidableEq

/-- One item of a pattern. -/
inductive Piece where
  | char (c : Char)
  | one
  | many
  /-- One character in, or not in, one of some ranges. -/
  | set (negated : Bool) (ranges : List (Char × Char))
  deriving Repr, DecidableEq

/-! ## Sets -/

/-- The ranges of a named class of characters. -/
def classRanges? : String → Option (List (Char × Char))
  | "alpha" => some [('a', 'z'), ('A', 'Z')]
  | "digit" => some [('0', '9')]
  | "alnum" => some [('a', 'z'), ('A', 'Z'), ('0', '9')]
  | "upper" => some [('A', 'Z')]
  | "lower" => some [('a', 'z')]
  | "space" => some [('\t', '\r'), (' ', ' ')]
  | "blank" => some [('\t', '\t'), (' ', ' ')]
  | "xdigit" => some [('0', '9'), ('a', 'f'), ('A', 'F')]
  | "punct" => some [('!', '/'), (':', '@'), ('[', '\x60'), ('\x7b', '~')]
  | "print" => some [(' ', '~')]
  | "graph" => some [('!', '~')]
  | "cntrl" => some [(Char.ofNat 0, Char.ofNat 31), (Char.ofNat 127, Char.ofNat 127)]
  | _ => none

/-- The ranges of a named class after its opening bracket, and what follows
it. -/
def readClass (glyphs : List Glyph) : Option (List (Char × Char) × List Glyph) :=
  match glyphs with
  | ⟨':', false⟩ :: rest =>
    let name := rest.takeWhile (·.char.isAlpha)
    match rest.drop name.length with
    | ⟨':', false⟩ :: ⟨']', false⟩ :: rest =>
      (classRanges? (String.ofList (name.map Glyph.char))).map fun ranges => (ranges, rest)
    | _ => none
  | _ => none

/-- The ranges of a set up to its closing bracket, and what follows it.  A
bracket that comes first does not close the set.  The fuel is the length of the
pattern. -/
def readRanges (isFirst : Bool) : Nat → List Glyph → Option (List (Char × Char) × List Glyph)
  | 0, _ => none
  | _, [] => none
  | fuel + 1, g :: rest =>
    let more (ranges : List (Char × Char)) (rest : List Glyph) :
        Option (List (Char × Char) × List Glyph) :=
      (readRanges false fuel rest).map fun (others, rest) => (ranges ++ others, rest)
    if g = ⟨']', false⟩ ∧ ¬ isFirst then some ([], rest)
    else
      match if g = ⟨'[', false⟩ then readClass rest else none with
      | some (ranges, rest) => more ranges rest
      | none =>
        match rest with
        | ⟨'-', false⟩ :: high :: after =>
          if high = ⟨']', false⟩ then more [(g.char, g.char)] rest
          else more [(g.char, high.char)] after
        | rest => more [(g.char, g.char)] rest

/-- A set after its opening bracket, and what follows it. -/
def readSet (glyphs : List Glyph) : Option (Piece × List Glyph) :=
  let (negated, glyphs) := match glyphs with
    | ⟨'!', false⟩ :: rest => (true, rest)
    | _ => (false, glyphs)
  (readRanges true (glyphs.length + 1) glyphs).map fun (ranges, rest) =>
    (.set negated ranges, rest)

/-! ## Patterns -/

/-- Characters with those quoted that follow a backslash. -/
def quoteEscaped : List Glyph → List Glyph
  | [] => []
  | [g] => [g]
  | g :: h :: rest =>
    if g = ⟨'\\', false⟩ then ⟨h.char, true⟩ :: quoteEscaped rest else g :: quoteEscaped (h :: rest)

/-- The pattern that at most `fuel` characters spell. -/
def compileWithin : Nat → List Glyph → List Piece
  | 0, _ => []
  | _, [] => []
  | fuel + 1, g :: rest =>
    if g.quoted then .char g.char :: compileWithin fuel rest
    else if g.char = '*' then .many :: compileWithin fuel rest
    else if g.char = '?' then .one :: compileWithin fuel rest
    else if g.char = '[' then
      match readSet rest with
      | some (piece, rest) => piece :: compileWithin fuel rest
      | none => .char g.char :: compileWithin fuel rest
    else .char g.char :: compileWithin fuel rest

/-- The pattern that some characters spell. -/
def compile (glyphs : List Glyph) : List Piece :=
  compileWithin glyphs.length (quoteEscaped glyphs)

/-- Whether a set has a character. -/
def inSet (negated : Bool) (ranges : List (Char × Char)) (c : Char) : Bool :=
  (ranges.any fun (low, high) => low ≤ c && c ≤ high) != negated

/-- Whether a piece other than a star stands for a character. -/
def Piece.fits (piece : Piece) (c : Char) : Bool :=
  match piece with
  | .char d => c == d
  | .one => true
  | .many => true
  | .set negated ranges => inSet negated ranges c

/-- A position in a text: how many characters are before it, and those after
it. -/
abbrev Place := Nat × Raw

/-- A position and all those after it. -/
def onwards (n : Nat) : Raw → List Place
  | [] => [(n, [])]
  | c :: rest => (n, c :: rest) :: onwards (n + 1) rest

/-- The positions after a piece that starts at one of some positions, which are
in order. -/
def Piece.advance (piece : Piece) (places : List Place) : List Place :=
  match piece with
  | .many =>
    match places with
    | (n, raw) :: _ => onwards n raw
    | [] => []
  | piece =>
    places.filterMap fun
      | (n, c :: rest) => if piece.fits c then some (n + 1, rest) else none
      | (_, []) => none

/-- How long the heads of a text are that match a pattern, the shortest first. -/
def headSizes (pieces : List Piece) (raw : Raw) : List Nat :=
  (pieces.foldl (fun places piece => piece.advance places) [(0, raw)]).map Prod.fst

/-- Whether a text matches a pattern. -/
def fits (pieces : List Piece) (raw : Raw) : Bool :=
  (pieces.foldl (fun places piece => piece.advance places) [(0, raw)]).any (·.2.isEmpty)

/-- Whether a pattern is more than the characters that it spells. -/
def isOpenPattern (pieces : List Piece) : Bool :=
  pieces.any fun
    | .char _ => false
    | _ => true

/-! ## Cutting -/

/-- A text without its shortest or longest head that matches a pattern. -/
def cutHead (longest : Bool) (pieces : List Piece) (raw : Raw) : Raw :=
  let sizes := headSizes pieces raw
  match if longest then sizes.getLast? else sizes.head? with
  | some n => raw.drop n
  | none => raw

/-- A text without its shortest or longest tail that matches a pattern. -/
def cutTail (longest : Bool) (pieces : List Piece) (raw : Raw) : Raw :=
  (cutHead longest pieces.reverse raw.reverse).reverse

/-! ## Paths -/

/-- The parts of a field between slashes. -/
def splitField (current : List Glyph) : List Glyph → List (List Glyph)
  | [] => [current.reverse]
  | g :: rest =>
    if g.char = '/' then current.reverse :: splitField [] rest else splitField (g :: current) rest

/-- Whether a name matches one part of a path.  A dot in front has to be asked
for. -/
def nameFits (part : List Glyph) (name : Raw) : Bool :=
  fits (compile part) name &&
    (name.head? != some '.' || (quoteEscaped part).head?.any (·.char == '.'))

/-- The paths that start with one of some paths and go on as a pattern says. -/
def extendPaths (files : Files) (starts : List Raw) : List (List Glyph) → List Raw
  | [] => starts
  | part :: rest =>
    let ending : Raw := if rest.isEmpty then [] else ['/']
    let plain := (quoteEscaped part).map Glyph.char
    let next (start : Raw) : List Raw :=
      if ¬ isOpenPattern (compile part) then [start ++ plain ++ ending]
      else
        match files.follow (if start.isEmpty then "." else Raw.toString start) with
        | .error _ => []
        | .ok place =>
          if files.at? place ≠ some .directory then []
          else
            let names := (files.children place).map Raw.ofString ++ [['.'], ['.', '.']]
            ((names.filter (nameFits part)).map fun name => start ++ name ++ ending).filter
              fun path => (files.lead false (Raw.toString path)).isOk
    extendPaths files (starts.flatMap next) rest

/-- The paths that a field stands for, in alphabetical order; the field itself
if it stands for none. -/
def matchNames (files : Files) (field : List Glyph) : List Raw :=
  let plain := field.map Glyph.char
  if ¬ isOpenPattern (compile field) then [plain]
  else
    let found := (extendPaths files [[]] (splitField [] field)).filter fun path =>
      (files.lead false (Raw.toString path)).isOk
    if found.isEmpty then [plain] else found.mergeSort Raw.le

end Shell
end MakeTen
