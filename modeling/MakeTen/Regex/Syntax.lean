import MakeTen.Text.Raw
/-!
# Regular expressions

Patterns for parts of a text, built from characters, alternatives, repetitions
and groups, with references to what a group has matched.

Main definitions:

- Structure `CharacterSet`: characters by ranges and classes.
- Type `Regex`: patterns.
-/

namespace MakeTen

/-! ## Characters -/

/-- A class of characters by its name. -/
inductive CharacterClass where
  | alnum
  | alpha
  | blank
  | cntrl
  | digit
  | graph
  | lower
  | print
  | punct
  | space
  | upper
  | xdigit
  /-- Letters, digits and the underscore. -/
  | word
  deriving Repr, DecidableEq

namespace CharacterClass

/-- The class of a name. -/
def ofName? (name : String) : Option CharacterClass :=
  match name with
  | "alnum" => some .alnum
  | "alpha" => some .alpha
  | "blank" => some .blank
  | "cntrl" => some .cntrl
  | "digit" => some .digit
  | "graph" => some .graph
  | "lower" => some .lower
  | "print" => some .print
  | "punct" => some .punct
  | "space" => some .space
  | "upper" => some .upper
  | "xdigit" => some .xdigit
  | _ => none

/-- Whether a character is in a class; only ASCII characters are in any. -/
def holds (k : CharacterClass) (c : Char) : Bool :=
  match k with
  | .alnum => c.isAlphanum
  | .alpha => c.isAlpha
  | .blank => c == ' ' || c == '\t'
  | .cntrl => c.toNat < 32 || c.toNat == 127
  | .digit => c.isDigit
  | .graph => '!' ≤ c && c ≤ '~'
  | .lower => c.isLower
  | .print => ' ' ≤ c && c ≤ '~'
  | .punct => '!' ≤ c && c ≤ '~' && !c.isAlphanum
  | .space => c == ' ' || ('\t' ≤ c && c ≤ '\r')
  | .upper => c.isUpper
  | .xdigit => c.isDigit || ('a' ≤ c && c ≤ 'f') || ('A' ≤ c && c ≤ 'F')
  | .word => c.isAlphanum || c == '_'

/-- The characters in a class. -/
def plainRanges : CharacterClass → List (Char × Char)
  | .alnum => [('0', '9'), ('A', 'Z'), ('a', 'z')]
  | .alpha => [('A', 'Z'), ('a', 'z')]
  | .blank => [(' ', ' '), ('\t', '\t')]
  | .cntrl => [('\x00', '\x1f'), ('\x7f', '\x7f')]
  | .digit => [('0', '9')]
  | .graph => [('!', '~')]
  | .lower => [('a', 'z')]
  | .print => [(' ', '~')]
  | .punct => [('!', '/'), (':', '@'), ('[', '\x60'), ('\x7b', '~')]
  | .space => [(' ', ' '), ('\t', '\r')]
  | .upper => [('A', 'Z')]
  | .xdigit => [('0', '9'), ('A', 'F'), ('a', 'f')]
  | .word => [('0', '9'), ('A', 'Z'), ('a', 'z'), ('_', '_')]

end CharacterClass

/-- Characters by ranges and classes, or all others. -/
structure CharacterSet where
  isNegated : Bool
  ranges : List (Char × Char)
  classes : List CharacterClass
  deriving Repr, DecidableEq

/-- Whether a character is in a set, in either letter case if that does not count. -/
def CharacterSet.holds (s : CharacterSet) (foldsCase : Bool) (c : Char) : Bool :=
  let isMember (c : Char) : Bool :=
    (s.ranges.any fun r => r.1 ≤ c && c ≤ r.2) || s.classes.any (·.holds c)
  let isIn := isMember c || (foldsCase && (isMember c.toLower || isMember c.toUpper))
  isIn != s.isNegated

/-! ## Patterns -/

/-- A place in a text. -/
inductive Edge where
  | lineStart
  | lineEnd
  | textStart
  | textEnd
  | wordStart
  | wordEnd
  /-- The start or end of a word. -/
  | wordEdge
  | noWordEdge
  deriving Repr, DecidableEq

/-- Patterns for parts of a text. -/
inductive Regex where
  /-- Nothing at all. -/
  | empty
  | char (c : Char)
  /-- Any character. -/
  | any
  | set (s : CharacterSet)
  | edge (e : Edge)
  | seq (first second : Regex)
  | alt (first second : Regex)
  /-- A pattern so many times, as often as possible or as rarely as possible. -/
  | times (r : Regex) (least : Nat) (most : Option Nat) (isLazy : Bool)
  | group (n : Nat) (r : Regex)
  /-- What a group has matched. -/
  | back (n : Nat)
  /-- Whether a pattern follows, or does not. -/
  | ahead (isNegated : Bool) (r : Regex)
  /-- Whether a pattern comes before, or does not. -/
  | behind (isNegated : Bool) (r : Regex)
  /-- What has matched so far does not belong to the match. -/
  | keep
  deriving Repr

namespace Regex

/-- Whether there are groups in a pattern. -/
def hasGroups : Regex → Bool
  | .seq a b => a.hasGroups || b.hasGroups
  | .alt a b => a.hasGroups || b.hasGroups
  | .times r _ _ _ => r.hasGroups
  | .group _ _ => true
  | .ahead _ r => r.hasGroups
  | .behind _ r => r.hasGroups
  | .back _ => true
  | _ => false

/-- Whether there are references in a pattern. -/
def hasReferences : Regex → Bool
  | .seq a b => a.hasReferences || b.hasReferences
  | .alt a b => a.hasReferences || b.hasReferences
  | .times r _ _ _ => r.hasReferences
  | .group _ r => r.hasReferences
  | .ahead _ r => r.hasReferences
  | .behind _ r => r.hasReferences
  | .back _ => true
  | _ => false

/-- The number of groups in a pattern. -/
def groupCount : Regex → Nat
  | .seq a b => max a.groupCount b.groupCount
  | .alt a b => max a.groupCount b.groupCount
  | .times r _ _ _ => r.groupCount
  | .group n r => max n r.groupCount
  | .ahead _ r => r.groupCount
  | .behind _ r => r.groupCount
  | _ => 0

/-- The pattern that matches a text and nothing else. -/
def ofChars : List Char → Regex
  | [] => .empty
  | [c] => .char c
  | c :: rest => .seq (.char c) (ofChars rest)

end Regex
end MakeTen
