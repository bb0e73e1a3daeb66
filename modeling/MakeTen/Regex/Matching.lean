import MakeTen.Regex.Syntax
/-!
# Matching

A pattern matches a part of a text.  Of all parts that it matches, those that
start first count, and of these the longest one.  What the groups have matched
is settled from left to right, each as long as possible.

Main definitions:

- Structure `Regex.Subject`: a text, and how it is looked at.
- Function `Regex.ends`: where the matches from a position end.
- Function `Regex.trace`: one match with its groups.
- Function `Regex.find?`: the first match in a text.
-/

namespace MakeTen
namespace Regex

/-- A text, and how it is looked at. -/
structure Subject where
  text : Array Char
  foldsCase : Bool
  /-- Whether a line end inside the text separates lines. -/
  hasLines : Bool
  /-- Whether the text starts, and ends, a line. -/
  isStart : Bool
  isEnd : Bool
  /-- Whether the first alternative that matches counts instead of the longest. -/
  isOrdered : Bool

/-- A text that is a line. -/
def Subject.ofLine (foldsCase : Bool) (text : List Char) : Subject :=
  ⟨text.toArray, foldsCase, false, true, true, false⟩

/-- A part of a text that a pattern has matched, with its groups. -/
structure Match where
  first : Nat
  last : Nat
  groups : List (Nat × Nat × Nat)

/-- The part that a group has matched. -/
def Match.group? (m : Match) (n : Nat) : Option (Nat × Nat) :=
  if n = 0 then some (m.first, m.last) else m.groups.lookup n

namespace Subject

/-- Whether two characters are the same. -/
def isSame (s : Subject) (a b : Char) : Bool :=
  a == b || (s.foldsCase && a.toLower == b.toLower)

/-- Whether a word has a character at a position. -/
def isWordAt (s : Subject) (i : Nat) : Bool :=
  match s.text[i]? with
  | some c => CharacterClass.word.holds c
  | none => false

/-- Whether a position is of some kind. -/
def isEdge (s : Subject) (i : Nat) : Edge → Bool
  | .lineStart =>
    (i == 0 && s.isStart) || (s.hasLines && 0 < i && s.text[i - 1]? == some '\n')
  | .lineEnd => (i == s.text.size && s.isEnd) || (s.hasLines && s.text[i]? == some '\n')
  | .textStart => i == 0 && s.isStart
  | .textEnd => i == s.text.size
  | .wordStart => s.isWordAt i && !(0 < i && s.isWordAt (i - 1))
  | .wordEnd => !s.isWordAt i && 0 < i && s.isWordAt (i - 1)
  | .wordEdge => s.isWordAt i != (0 < i && s.isWordAt (i - 1))
  | .noWordEdge => s.isWordAt i == (0 < i && s.isWordAt (i - 1))

/-- Whether a pattern of one character matches at a position; nothing if it is no
such pattern. -/
def single? (s : Subject) (i : Nat) : Regex → Option Bool
  | .char c => some (s.text[i]?.any (s.isSame c))
  | .any => some (s.text[i]?.any fun d => !(s.hasLines && d == '\n'))
  | .set members => some (s.text[i]?.any (members.holds s.foldsCase))
  | _ => none

/-- How many characters in a row from a position on a pattern of one character
matches, but no more than `fuel`. -/
def run (s : Subject) (r : Regex) : Nat → Nat → Nat
  | 0, _ => 0
  | fuel + 1, i => if s.single? i r = some true then s.run r fuel (i + 1) + 1 else 0

/-- Whether what one part of the text holds stands at a position as well. -/
def repeats (s : Subject) (first size i : Nat) : Bool :=
  (List.range size).all fun k =>
    match s.text[first + k]?, s.text[i + k]? with
    | some a, some b => s.isSame a b
    | _, _ => false

end Subject

/-! ## Ends of matches -/

/-- Positions without repetitions, the last one first. -/
def ordered (positions : List Nat) : List Nat :=
  match positions with
  | [] => []
  | [i] => [i]
  | _ =>
    (positions.mergeSort (· ≥ ·)).foldr
      (fun i rest => if rest.head? = some i then rest else i :: rest) []

/-- The positions that some steps lead to, one step after the other, with all those
on the way; `known` are found already. -/
def reach (step : Nat → List Nat) : Nat → List Nat → List Nat → List Nat
  | 0, known, _ => known
  | fuel + 1, known, frontier =>
    let next := (ordered (frontier.flatMap step)).filter (!known.contains ·)
    if next.isEmpty then known else reach step fuel (next ++ known) next

/-- The positions that exactly so many steps lead to. -/
def advance (step : Nat → List Nat) : Nat → List Nat → List Nat
  | 0, positions => positions
  | n + 1, positions => advance step n (ordered (positions.flatMap step))

/-- Where the matches of a pattern from a position end, the last one first.  A
reference may stand for anything. -/
def ends (s : Subject) : Regex → Nat → List Nat
  | .empty, i => [i]
  | .char c, i => if s.text[i]?.any (s.isSame c) then [i + 1] else []
  | .any, i => if s.single? i .any = some true then [i + 1] else []
  | .set members, i => if s.text[i]?.any (members.holds s.foldsCase) then [i + 1] else []
  | .edge e, i => if s.isEdge i e then [i] else []
  | .seq a b, i =>
    match ends s a i with
    | [j] => ends s b j
    | js => ordered (js.flatMap (ends s b))
  | .alt a b, i => ordered (ends s a i ++ ends s b i)
  | .times r least most _, i =>
    if (s.single? i r).isSome then
      let size := s.run r (min (most.getD s.text.size) (s.text.size - i)) i
      if size < least then []
      else (List.range (size + 1 - least)).map fun k => i + size - k
    else
      let start := advance (ends s r) least [i]
      let fuel := match most with
        | some n => n - least
        | none => s.text.size + 1
      ordered (reach (ends s r) fuel start start)
  | .group _ r, i => ends s r i
  | .back _, i => (List.range (s.text.size + 1 - i)).map fun k => s.text.size - k
  | .ahead isNegated r, i => if (ends s r i).isEmpty == isNegated then [i] else []
  | .behind isNegated r, i =>
    let isBehind := (List.range (i + 1)).any fun first => (ends s r first).contains i
    if isBehind == isNegated then [] else [i]
  | .keep, i => [i]

/-! ## Matches with groups -/

/-- What groups have matched. -/
abbrev Groups := List (Nat × Nat × Nat)

/-- Try one position after the other. -/
def tryAll {α : Type} (next : Nat → Option α) : List Nat → Option α
  | [] => none
  | i :: rest =>
    match next i with
    | some found => some found
    | none => tryAll next rest

/-- Matches of a pattern one after the other, from a position on, until `next` can go
on.  A match of nothing is not repeated. -/
def again {α : Type} (least : Nat) (most : Option Nat) (isLazy : Bool)
    (body : Nat → Groups → (Nat → Groups → Option α) → Option α)
    (next : Nat → Groups → Option α) : Nat → Nat → Nat → Groups → Option α
  | 0, _, i, groups => next i groups
  | fuel + 1, count, i, groups =>
    let stop (_ : Unit) : Option α := if least ≤ count then next i groups else none
    let go (_ : Unit) : Option α :=
      if most.any (· ≤ count) then none
      else body i groups fun j groups =>
        if j = i ∧ least ≤ count then none
        else again least most isLazy body next fuel (count + 1) j groups
    if isLazy then
      match stop () with
      | some found => some found
      | none => go ()
    else
      match go () with
      | some found => some found
      | none => stop ()

/-- A match of a pattern from a position that `next` can go on from.  Matches are
tried in the order in which they are preferred. -/
def trace {α : Type} (s : Subject) :
    Regex → Nat → Groups → (Nat → Groups → Option α) → Option α
  | .seq a b, i, groups, next =>
    trace s a i groups fun j groups => trace s b j groups next
  | .alt a b, i, groups, next =>
    if s.isOrdered ∨ (Regex.alt a b).hasGroups then
      match trace s a i groups next with
      | some found => some found
      | none => trace s b i groups next
    else tryAll (next · groups) (ends s (.alt a b) i)
  | .times r least most isLazy, i, groups, next =>
    if ¬ s.isOrdered ∧ ¬ r.hasGroups then
      tryAll (next · groups) (ends s (.times r least most isLazy) i)
    else
      again least most isLazy (fun j groups next => trace s r j groups next) next
        (least + s.text.size + 1 - i) 0 i groups
  | .group n r, i, groups, next =>
    trace s r i groups fun j groups =>
      next j ((n, i, j) :: groups.filter (·.1 ≠ n))
  | .back n, i, groups, next =>
    match groups.lookup n with
    | some (first, last) =>
      if s.repeats first (last - first) i then next (i + (last - first)) groups else none
    | none => none
  | .ahead isNegated r, i, groups, next =>
    if (trace s r i groups fun j _ => some j).isNone == isNegated then next i groups else none
  | .keep, i, groups, next => next i ((0, i, i) :: groups.filter (·.1 ≠ 0))
  | r, i, groups, next => tryAll (next · groups) (ends s r i)

/-- The longest match of a pattern from a position, or the first one if the order of
alternatives counts. -/
def matchAt? (s : Subject) (r : Regex) (i : Nat) : Option Match :=
  let make (j : Nat) (groups : Groups) : Option Match :=
    some ⟨((groups.lookup 0).map Prod.fst).getD i, j, groups⟩
  if s.isOrdered then trace s r i [] make
  else
    let candidates := ends s r i
    if ¬ r.hasGroups then candidates.head?.map fun j => ⟨i, j, []⟩
    else
      candidates.findSome? fun last =>
        trace s r i [] fun j groups => if j = last then make j groups else none

/-- The first match from one of some positions on. -/
def findFrom (s : Subject) (r : Regex) : Nat → Nat → Option Match
  | 0, i => matchAt? s r i
  | fuel + 1, i =>
    match matchAt? s r i with
    | some found => some found
    | none => findFrom s r fuel (i + 1)

/-- The first match in a text from a position on. -/
def find? (s : Subject) (r : Regex) (start : Nat) : Option Match :=
  if s.text.size < start then none else findFrom s r (s.text.size - start) start

/-- Whether a pattern matches a part of a text. -/
def isIn (s : Subject) (r : Regex) : Bool :=
  (find? s r 0).isSome

/-- All matches in a text that do not overlap, from a position on.  An empty match
right after another one does not count. -/
def findAllFrom (s : Subject) (r : Regex) : Nat → Nat → Option Nat → List Match
  | 0, _, _ => []
  | fuel + 1, start, last =>
    match find? s r start with
    | none => []
    | some m =>
      if m.first = m.last then
        if last = some m.first then findAllFrom s r fuel (m.last + 1) none
        else m :: findAllFrom s r fuel (m.last + 1) none
      else m :: findAllFrom s r fuel m.last (some m.last)

/-- All matches in a text that do not overlap. -/
def findAll (s : Subject) (r : Regex) : List Match :=
  findAllFrom s r (s.text.size + 2) 0 none

end Regex
end MakeTen
