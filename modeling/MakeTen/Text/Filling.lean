import MakeTen.Text.Raw
/-!
# Filled paragraphs

A paragraph is filled by breaking its words into lines of about the same length.
Each way of breaking it has a cost: of lines that miss the length aimed at, of
neighbours that differ much, and of breaks near the ends of sentences.  The cheapest
way is found from the last word to the first: what follows a break does not hang on
what is in front of it.

Main definitions:

- Structure `Filling.Word`: a word of a paragraph and what counts for breaks.
- Function `Filling.plan`: the cheapest way from each word on.
- Function `Filling.lines`: the words of each line.
-/

namespace MakeTen
namespace Filling

/-! ## Words -/

/-- A word of a paragraph. -/
structure Word where
  text : Raw
  length : Nat
  /-- How many blanks follow it on its line. -/
  space : Nat
  /-- Whether it starts with an opening mark. -/
  opens : Bool
  /-- Whether it ends as a sentence does, and whether it ends one. -/
  hasPeriod : Bool
  isFinal : Bool
  /-- Whether it ends with a mark. -/
  hasMark : Bool

/-- Whether a word may start with a mark of this kind. -/
def isOpening (c : Char) : Bool :=
  "(['\x60\"".toList.contains c

/-- Whether marks of this kind may follow the end of a sentence. -/
def isClosing (c : Char) : Bool :=
  ")]'\"".toList.contains c

/-- Whether a character ends a sentence. -/
def isPeriod (c : Char) : Bool :=
  ".?!".toList.contains c

/-- Whether a character is a mark. -/
def isMark (c : Char) : Bool :=
  Raw.isVisible c && !c.isAlphanum

/-- A word of some characters, which are given in reverse. -/
def Word.ofReverse (reversed : Raw) : Word :=
  let inner := reversed.dropLast.dropWhile isClosing
  let finish := (inner.head?.orElse fun _ => reversed.getLast?).getD ' '
  { text := reversed.reverse
    length := reversed.length
    space := 0
    opens := reversed.getLast?.any isOpening
    hasPeriod := isPeriod finish
    isFinal := false
    hasMark := reversed.head?.any isMark }

/-! ## Costs -/

/-- The measures of lines: what no line may reach, and what lines aim at. -/
structure Measure where
  limit : Nat
  goal : Nat
  /-- Where the first line of a paragraph starts, and where the others do. -/
  first : Nat
  other : Nat
  /-- The length of the line before the paragraph, or zero. -/
  before : Nat

/-- The cost of a line that misses the length aimed at. -/
def missCost (n : Int) : Int :=
  (n * 10) * (n * 10)

/-- The cost of the difference between neighbours. -/
def raggedCost (n : Int) : Int :=
  (missCost n).tdiv 2

/-- The cost of starting a line with a word, given the words before it, the nearest
first. -/
def startCost (before : List Word) (w : Word) : Int :=
  let atBreak : Int := match before with
    | [] => 0
    | previous :: earlier =>
      if previous.hasPeriod then (if previous.isFinal then -2500 else 360000)
      else if previous.hasMark then -1600
      else
        match earlier with
        | second :: _ => if second.isFinal then 40000 / (previous.length + 2) else 0
        | _ => 0
  let ofWord : Int :=
    if w.opens then -1600
    else if w.isFinal then 22500 / (w.length + 2)
    else 0
  4900 + atBreak + ofWord

/-- How the words from one on are broken into lines. -/
structure Plan where
  cost : Int
  /-- How many words are on the first line, and its length. -/
  count : Nat
  length : Nat
  /-- Whether that is the last line. -/
  isLast : Bool

/-- The cheaper one of two plans; of equal ones the first. -/
def cheaper (best : Option Plan) (other : Plan) : Option Plan :=
  if best.all (other.cost < ·.cost) then some other else best

/-- The cheaper one of a plan and those that break a line later, where `length` and
`count` are of the line up to some words, and `space` is what follows its last word. -/
def bestPlan (m : Measure) (isFirst : Bool) (best : Option Plan) (length count space : Nat)
    (rest : List (Word × Plan)) : Option Plan :=
  let ragged : Int :=
    if isFirst ∧ 0 < m.before then raggedCost ((length : Int) - m.before) else 0
  match rest with
  | [] => cheaper best ⟨ragged, count, length, true⟩
  | (w, after) :: rest =>
    let difference : Int :=
      if after.isLast then 0 else raggedCost ((length : Int) - after.length)
    let cost := missCost ((m.goal : Int) - length) + difference + after.cost + ragged
    let best := cheaper best ⟨cost, count, length, false⟩
    let longer := length + space + w.length
    if longer < m.limit then bestPlan m isFirst best longer (count + 1) w.space rest
    else best

/-- Words with the cheapest plan from each on; the words before are given in reverse. -/
def planOnto (m : Measure) : List Word → List (Word × Plan) → List (Word × Plan)
  | [], planned => planned
  | w :: before, planned =>
    let isFirst := before.isEmpty
    let length := (if isFirst then m.first else m.other) + w.length
    let best := (bestPlan m isFirst none length 1 w.space planned).getD ⟨0, 1, length, true⟩
    planOnto m before ((w, { best with cost := best.cost + startCost before w }) :: planned)

/-- Words with the cheapest plan from each on. -/
def plan (m : Measure) (words : List Word) : List (Word × Plan) :=
  planOnto m words.reverse []

/-- The words of each line, with the cost from its start on. -/
def linesWithin : Nat → List (Word × Plan) → List (List Word × Int)
  | fuel + 1, planned@((_, p) :: _) =>
    ((planned.take p.count).map Prod.fst, p.cost) :: linesWithin fuel (planned.drop p.count)
  | _, _ => []

/-- The words of each line, with the cost from its start on. -/
def lines (planned : List (Word × Plan)) : List (List Word × Int) :=
  linesWithin planned.length planned

/-- How many of some lines are best written when the paragraph is to go on: up to a
cheap break near the end.  `best` is the cost of the cheapest break so far, and `chosen`
how many lines are before it. -/
def settledOnto (best : Option Int) (chosen : Option Nat) (done : Nat) :
    List (List Word × Int) → Option Nat
  | [] => chosen
  | (_, cost) :: rest =>
    let after := (rest.head?.map Prod.snd).getD 0
    let isBetter : Bool := match best with
      | none => true
      | some b => cost - after < b
    let (best, chosen) := if isBetter then (cost - after, some done)
      else (best.getD 0, chosen)
    settledOnto (some (best + 9)) chosen (done + 1) rest

/-- How many of some lines are best written when the paragraph is to go on. -/
def settled (lines : List (List Word × Int)) : Nat :=
  (settledOnto none none 1 (lines.drop 1)).getD lines.length

/-! ## Blanks -/

/-- Blanks from one column on, with tabs where those are in use. -/
def spacing (hasTabs : Bool) (column width : Nat) : Raw :=
  let target := column + width
  let stop := target / 8 * 8
  if hasTabs ∧ column + 1 < stop then
    List.replicate (stop / 8 - column / 8) '\t' ++ List.replicate (target - stop) ' '
  else List.replicate width ' '

end Filling
end MakeTen
