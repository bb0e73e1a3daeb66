/-!
# Alignments of sequences

Two sequences are compared by finding as few elements as possible that have to go
from the first one and to come into the second one.  The search goes from both ends
at once; where the two searches meet, the sequences are cut in two.  Runs of changed
elements can often be moved without changing their number; they are moved to the
end, and to where the other sequence changes as well.

Main definitions:

- Structure `Alignment`: which elements of two sequences change.
- Function `Alignment.ofSequences`: the alignment of two sequences.
- Function `Alignment.spots`: the places at which something changes.
-/

namespace MakeTen

/-- Which elements of two sequences change. -/
structure Alignment where
  left : Array Bool
  right : Array Bool
  deriving Repr

namespace Alignment

/-- Two sequences of numbers that stand for their elements. -/
structure Pair where
  left : Array Nat
  right : Array Nat

/-- A part of both sequences, from places on and before others. -/
structure Part where
  leftStart : Nat
  leftEnd : Nat
  rightStart : Nat
  rightEnd : Nat

/-- Whether elements of the two sequences are equal. -/
def Pair.agree (p : Pair) (x y : Int) : Bool :=
  match p.left[x.toNat]?, p.right[y.toNat]? with
  | some a, some b => a == b
  | _, _ => false

/-! ## The middle -/

/-- How far a search has come on the diagonals that it has reached. -/
structure Front where
  reached : Array Int
  low : Int
  high : Int

/-- How far a search has come on a diagonal; `offset` is the place of diagonal
zero. -/
def Front.get (f : Front) (offset : Nat) (diagonal : Int) : Int :=
  f.reached.getD (diagonal + offset).toNat 0

/-- Note how far a search has come. -/
def Front.set (f : Front) (offset : Nat) (diagonal value : Int) : Front :=
  { f with reached := f.reached.setIfInBounds (diagonal + offset).toNat value }

/-- Make the front of a search wider by a diagonal at each side, as long as there are
more; unreached diagonals get a value. -/
def Front.widen (f : Front) (offset : Nat) (least most unreached : Int) : Front :=
  let f := if least < f.low then
      { f with low := f.low - 1 }.set offset (f.low - 2) unreached
    else { f with low := f.low + 1 }
  if f.high < most then { f with high := f.high + 1 }.set offset (f.high + 2) unreached
  else { f with high := f.high - 1 }

/-- The end of a run of equal elements, forward. -/
def runForward (p : Pair) (part : Part) : Nat → Int → Int → Int
  | 0, x, _ => x
  | fuel + 1, x, y =>
    if x < part.leftEnd ∧ y < part.rightEnd ∧ p.agree x y then
      runForward p part fuel (x + 1) (y + 1)
    else x

/-- The start of a run of equal elements, backward. -/
def runBackward (p : Pair) (part : Part) : Nat → Int → Int → Int
  | 0, x, _ => x
  | fuel + 1, x, y =>
    if part.leftStart < x ∧ part.rightStart < y ∧ p.agree (x - 1) (y - 1) then
      runBackward p part fuel (x - 1) (y - 1)
    else x

/-- Go on with a search on one diagonal after the other, down to the lowest one.  The
answer is the new front, and the place where `meets` finds that the searches have
met. -/
def sweep (offset : Nat) (advance : Front → Int → Int) (meets : Int → Int → Bool) :
    Nat → Int → Front → Front × Option (Int × Int)
  | 0, _, f => (f, none)
  | fuel + 1, diagonal, f =>
    if diagonal < f.low then (f, none)
    else
      let x := advance f diagonal
      let f := f.set offset diagonal x
      if meets diagonal x then (f, some (x, x - diagonal))
      else sweep offset advance meets fuel (diagonal - 2) f

/-- A place in the middle of the shortest way through a part, as far as `fuel`
goes. -/
def search (p : Pair) (part : Part) (offset : Nat) : Nat → Front → Front → Int × Int
  | 0, _, _ => (part.leftEnd, part.rightStart)
  | fuel + 1, forward, backward =>
    let least : Int := part.leftStart - part.rightEnd
    let most : Int := part.leftEnd - part.rightStart
    let size := p.left.size + p.right.size + 2
    let start : Int := part.leftStart - part.rightStart
    let finish : Int := part.leftEnd - part.rightEnd
    let isOdd : Bool := (start - finish) % 2 ≠ 0
    let forward := forward.widen offset least most (-1)
    let advance (f : Front) (d : Int) : Int :=
      let low := f.get offset (d - 1)
      let high := f.get offset (d + 1)
      let x := if low < high then high else low + 1
      runForward p part size x (x - d)
    let hasMet (d x : Int) : Bool :=
      isOdd && backward.low ≤ d && d ≤ backward.high && backward.get offset d ≤ x
    match sweep offset advance hasMet (size + 2) forward.high forward with
    | (_, some found) => found
    | (forward, none) =>
      let backward := backward.widen offset least most (size + 1)
      let retreat (f : Front) (d : Int) : Int :=
        let low := f.get offset (d - 1)
        let high := f.get offset (d + 1)
        let x := if low < high then low else high - 1
        runBackward p part size x (x - d)
      let hasMet (d x : Int) : Bool :=
        !isOdd && forward.low ≤ d && d ≤ forward.high && x ≤ forward.get offset d
      match sweep offset retreat hasMet (size + 2) backward.high backward with
      | (_, some found) => found
      | (backward, none) => search p part offset fuel forward backward

/-- A place in the middle of the shortest way through a part. -/
def middle (p : Pair) (part : Part) : Int × Int :=
  let offset := p.right.size + 2
  let blank : Array Int := Array.replicate (p.left.size + p.right.size + 5) 0
  let start : Int := part.leftStart - part.rightStart
  let finish : Int := part.leftEnd - part.rightEnd
  let forward := (Front.mk blank start start).set offset start part.leftStart
  let backward := (Front.mk blank finish finish).set offset finish part.leftEnd
  search p part offset (p.left.size + p.right.size + 2) forward backward

/-! ## Marks -/

/-- Marks at all places from one on and before another one. -/
def markFrom (marks : Array Bool) (start finish : Nat) : Array Bool :=
  (List.range (finish - start)).foldl (fun m n => m.setIfInBounds (start + n) true) marks

/-- Marks for what changes in a part, as far as `fuel` goes. -/
def mark (p : Pair) : Nat → Part → Alignment → Alignment
  | 0, _, a => a
  | fuel + 1, part, a =>
    let size := p.left.size + p.right.size
    let x := (runForward p part size part.leftStart part.rightStart).toNat
    let part := { part with leftStart := x, rightStart := part.rightStart + (x - part.leftStart) }
    let x := (runBackward p part size part.leftEnd part.rightEnd).toNat
    let part := { part with leftEnd := x, rightEnd := part.rightEnd - (part.leftEnd - x) }
    if part.leftStart = part.leftEnd then
      { a with right := markFrom a.right part.rightStart part.rightEnd }
    else if part.rightStart = part.rightEnd then
      { a with left := markFrom a.left part.leftStart part.leftEnd }
    else
      let (x, y) := middle p part
      let a := mark p fuel { part with leftEnd := x.toNat, rightEnd := y.toNat } a
      mark p fuel { part with leftStart := x.toNat, rightStart := y.toNat } a

/-! ## Moving runs -/

/-- Whether there is a mark at a place; there is none outside. -/
def marked (marks : Array Bool) (place : Int) : Bool :=
  0 ≤ place && marks.getD place.toNat false

/-- A run of marks in one sequence, and the place in the other one that goes with its
end. -/
structure Run where
  marks : Array Bool
  start : Int
  finish : Int
  other : Int

/-- The first place from one on that has no mark. -/
def skipMarks (marks : Array Bool) : Nat → Int → Int
  | 0, n => n
  | fuel + 1, n => if marked marks n then skipMarks marks fuel (n + 1) else n

/-- The first place from one down before which there is no mark. -/
def skipMarksDown (marks : Array Bool) : Nat → Int → Int
  | 0, n => n
  | fuel + 1, n => if marked marks (n - 1) then skipMarksDown marks fuel (n - 1) else n

/-- The last place before one that has no mark. -/
def stepDown (marks : Array Bool) : Nat → Int → Int
  | 0, n => n - 1
  | fuel + 1, n => if marked marks (n - 1) then stepDown marks fuel (n - 1) else n - 1

/-- Move a run by one place toward the start. -/
def Run.back (r : Run) (others : Array Bool) (size : Nat) (joins : Bool) : Run :=
  let marks := r.marks.setIfInBounds (r.start - 1).toNat true
  let marks := marks.setIfInBounds (r.finish - 1).toNat false
  let start := if joins then skipMarksDown marks size (r.start - 1) else r.start - 1
  ⟨marks, start, r.finish - 1, stepDown others size r.other⟩

/-- Move a run toward the start as long as that changes nothing else. -/
def slideBack (elements : Array Nat) (others : Array Bool) (size : Nat) : Nat → Run → Run
  | 0, r => r
  | fuel + 1, r =>
    if 0 < r.start ∧ elements[(r.start - 1).toNat]? = elements[(r.finish - 1).toNat]? then
      slideBack elements others size fuel (r.back others size true)
    else r

/-- Move a run toward the end as long as that changes nothing else.  The second value is
the last end at which the other sequence changes too. -/
def slideOn (elements : Array Nat) (others : Array Bool) (size : Nat) :
    Nat → Run → Int → Run × Int
  | 0, r, matching => (r, matching)
  | fuel + 1, r, matching =>
    if r.finish < elements.size ∧ elements[r.start.toNat]? = elements[r.finish.toNat]? then
      let marks := r.marks.setIfInBounds r.start.toNat false
      let marks := marks.setIfInBounds r.finish.toNat true
      let finish := skipMarks marks size (r.finish + 1)
      let other := skipMarks others size (r.other + 1)
      let matching := if other = r.other + 1 then matching else finish
      slideOn elements others size fuel ⟨marks, r.start + 1, finish, other⟩ matching
    else (r, matching)

/-- Move a run toward the start until it ends at a place. -/
def returnTo (others : Array Bool) (size : Nat) (place : Int) : Nat → Run → Run
  | 0, r => r
  | fuel + 1, r =>
    if place < r.finish then returnTo others size place fuel (r.back others size false) else r

/-- Move a run back and on until it does not grow any more. -/
def settle (elements : Array Nat) (others : Array Bool) (size : Nat) : Nat → Run → Run
  | 0, r => r
  | fuel + 1, r =>
    let length := r.finish - r.start
    let r := slideBack elements others size size r
    let matching := if marked others (r.other - 1) then r.finish else (elements.size : Int)
    let (r, matching) := slideOn elements others size size r matching
    if r.finish - r.start = length then returnTo others size matching size r
    else settle elements others size fuel r

/-- Move all runs of one sequence from a place on; `other` is the place that goes with it
in the other sequence. -/
def settleAll (elements : Array Nat) (others : Array Bool) (size : Nat) :
    Nat → Int → Int → Array Bool → Array Bool
  | 0, _, _, marks => marks
  | fuel + 1, place, other, marks =>
    if elements.size ≤ place then marks
    else if ¬ marked marks place then
      settleAll elements others size fuel (place + 1) (skipMarks others size other + 1) marks
    else
      let finish := skipMarks marks size place
      let r := settle elements others size size
        ⟨marks, place, finish, skipMarks others size other⟩
      settleAll elements others size fuel r.finish r.other r.marks

/-! ## Alignments -/

/-- The elements of a sequence that are in another one, with their places. -/
def shared (elements others : Array Nat) : Array (Nat × Nat) :=
  let most := (elements.toList ++ others.toList).foldl max 0
  let known := others.foldl (fun (k : Array Bool) e => k.setIfInBounds e true)
    (Array.replicate (most + 1) false)
  elements.zipIdx.filter fun (e, _) => known.getD e false

/-- Marks for all places but some, which have marks of their own. -/
def spreadMarks (size : Nat) (places : Array (Nat × Nat)) (marks : Array Bool) : Array Bool :=
  (places.zip marks).foldl (fun m ((_, place), isMarked) => m.setIfInBounds place isMarked)
    (Array.replicate size true)

/-- The alignment of two sequences. -/
def ofSequences (left right : Array Nat) : Alignment :=
  let inLeft := shared left right
  let inRight := shared right left
  let p : Pair := ⟨inLeft.map Prod.fst, inRight.map Prod.fst⟩
  let part : Part := ⟨0, p.left.size, 0, p.right.size⟩
  let none : Alignment :=
    ⟨Array.replicate p.left.size false, Array.replicate p.right.size false⟩
  let found := mark p (p.left.size + p.right.size + 1) part none
  let a : Alignment :=
    ⟨spreadMarks left.size inLeft found.left, spreadMarks right.size inRight found.right⟩
  let size := left.size + right.size + 2
  let newLeft := settleAll left a.right size size 0 0 a.left
  let newRight := settleAll right newLeft size size 0 0 a.right
  ⟨newLeft, newRight⟩

/-- A place at which something changes: where, and how many elements go and come. -/
structure Spot where
  left : Nat
  right : Nat
  gone : Nat
  new : Nat
  deriving Repr

/-- The places at which something changes, from places in both sequences on. -/
def spotsFrom (a : Alignment) : Nat → Nat → Nat → List Spot
  | 0, _, _ => []
  | fuel + 1, x, y =>
    if a.left.size ≤ x ∧ a.right.size ≤ y then []
    else
      let xEnd := (skipMarks a.left (a.left.size + 1) x).toNat
      let yEnd := (skipMarks a.right (a.right.size + 1) y).toNat
      if x = xEnd ∧ y = yEnd then spotsFrom a fuel (x + 1) (y + 1)
      else ⟨x, y, xEnd - x, yEnd - y⟩ :: spotsFrom a fuel xEnd yEnd

/-- The places at which something changes. -/
def spots (a : Alignment) : List Spot :=
  spotsFrom a (a.left.size + a.right.size + 1) 0 0

end Alignment
end MakeTen
