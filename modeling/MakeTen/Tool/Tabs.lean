import MakeTen.Tool.Lines
/-!
# Tabs

The programs that exchange tabs and blanks.  Tabs lead to stops, which are given by
lists or are the same distance apart.

Main definitions:

- Structure `Tool.TabStops`: where tabs lead to.
- Functions `Tool.expand` and `Tool.unexpand`: the programs.
-/

namespace MakeTen
namespace Tool

/-! ## Stops -/

/-- Stops as they are given, before it is clear what they come to. -/
structure TabList where
  stops : List Nat
  /-- How far further stops are apart, counted from the start or from the last stop. -/
  extension : Nat
  increment : Nat

/-- What is read of a list of stops: marks that hold for the numbers that follow, and the
digits of a number. -/
structure TabCursor where
  list : TabList
  mark : Option Char
  digits : Raw

/-- The list with a number that has been read. -/
def TabCursor.settle (c : TabCursor) : Job TabCursor := do
  let n := Raw.valueIn 10 c.digits.reverse
  let done (list : TabList) : TabCursor := { c with list, digits := [] }
  if c.digits.isEmpty then return c
  else
    match c.mark with
    | some '/' =>
      if c.list.extension ≠ 0 then
        giveUp 1 "'/' specifier only allowed with the last value".toList
      else return done { c.list with extension := n }
    | some _ =>
      if c.list.increment ≠ 0 then
        giveUp 1 "'+' specifier only allowed with the last value".toList
      else return done { c.list with increment := n }
    | none => return done { c.list with stops := c.list.stops ++ [n] }

/-- Read a list of stops; the answer says whether nothing was wrong with it. -/
def TabCursor.read (c : TabCursor) (isGood : Bool) : Raw → Job (TabCursor × Bool)
  | [] => return (c, isGood)
  | raw@(next :: rest) => do
    if next = ',' ∨ Raw.isBlank next then (← c.settle).read isGood rest
    else if next = '/' ∨ next = '+' then
      let isStart := c.digits.isEmpty
      if ¬ isStart then
        complain (['\'', next] ++ "' specifier not at start of number: ".toList ++
          Quoting.forReader raw)
      TabCursor.read { c with mark := some next } (isGood && isStart) rest
    else if next.isDigit then
      let digits := next :: c.digits
      let isSmall := Raw.valueIn 10 digits.reverse ≤ unsignedLimit
      if ¬ isSmall ∧ ¬ (rest.head?.any Char.isDigit) then
        complain ("tab stop is too large ".toList ++ Quoting.forReader digits.reverse)
      TabCursor.read { c with digits } (isGood && isSmall) rest
    else
      giveUp 1 ("tab size contains invalid character(s): ".toList ++ Quoting.forReader raw)

/-- Stops with those of one more list. -/
def TabList.add (list : TabList) (raw : Raw) : Job TabList := do
  let (c, isGood) ← TabCursor.read ⟨list, none, []⟩ true raw
  if isGood then return (← c.settle).list
  else exit 1

/-- Where tabs lead to. -/
structure TabStops where
  stops : List Nat
  /-- How far the stops after those of the list are apart, if there are any, and
  whether they are counted from the last one of the list. -/
  size : Nat
  isRelative : Bool

/-- Where tabs lead to, given the stops as they are given. -/
def TabList.settled (list : TabList) : Job TabStops := do
  let mut previous := 0
  for stop in list.stops do
    if stop = 0 then giveUp 1 "tab size cannot be 0".toList
    if stop ≤ previous then giveUp 1 "tab sizes must be ascending".toList
    previous := stop
  if list.increment ≠ 0 ∧ list.extension ≠ 0 then
    giveUp 1 "'/' specifier is mutually exclusive with '+'".toList
  let further := if list.extension ≠ 0 then list.extension else list.increment
  match list.stops with
  | [] => return ⟨[], if further = 0 then 8 else further, false⟩
  | [n] =>
    if further = 0 then return ⟨[], n, false⟩
    else return ⟨[n], further, list.extension = 0⟩
  | stops => return ⟨stops, further, list.extension = 0⟩

/-- The next stop after a column, if there is one. -/
def TabStops.next? (t : TabStops) (column : Nat) : Option Nat :=
  match t.stops.find? (column < ·) with
  | some stop => some stop
  | none =>
    if t.size = 0 then none
    else
      let start := if t.isRelative then t.stops.getLast?.getD 0 else 0
      some (column + t.size - (column - start) % t.size)

/-- A line with blanks for its tabs, or for those at its start. -/
def expandLine (t : TabStops) (onlyStart : Bool) (line : Raw) : Raw :=
  let (text, _, _) := line.foldl (fun (text, column, isActive) c =>
    if ¬ isActive then (([c] : Raw) :: text, column, isActive)
    else if c = '\t' then
      let next := (t.next? column).getD (column + 1)
      (List.replicate (next - column) ' ' :: text, next, isActive)
    else
      let column := if c = Char.ofNat 8 then column - 1 else column + 1
      ([c] :: text, column, !onlyStart || Raw.isBlank c))
    (([] : List Raw), 0, true)
  text.reverse.flatten

/-- Replace tabs by blanks. -/
def expand : Job Unit := do
  let (list, o) ← foldOptions "t,tabs: i,initial 0? 1? 2? 3? 4? 5? 6? 7? 8? 9?" true 1
    (← get).call.arguments (TabList.mk [] 0 0) fun list key value _ =>
      if key = "t" then list.add value
      else if key = "i" then pure list
      else list.add (key.toList ++ value)
  let stops ← list.settled
  mapLines o.files (expandLine stops (o.has "i"))

/-- A line on its way to one with tabs for blanks. -/
structure Unexpansion where
  /-- What has been written, the latest first. -/
  text : Raw
  column : Nat
  /-- Blanks that have not been written yet, the latest first. -/
  pending : Raw
  isActive : Bool
  /-- Whether one blank reaches a stop by itself. -/
  isSingle : Bool
  afterBlank : Bool

/-- Write the blanks that have not been written, and a character. -/
def Unexpansion.write (u : Unexpansion) (c : Char) : Unexpansion :=
  let pending := if 1 < u.pending.length ∧ u.isSingle then u.pending.dropLast ++ ['\t']
    else u.pending
  { u with text := c :: pending ++ u.text, pending := [],
           isSingle := if u.pending.isEmpty then u.isSingle else false }

/-- Go on with a character. -/
def Unexpansion.step (t : TabStops) (isWhole : Bool) (u : Unexpansion) (c : Char) : Unexpansion :=
  if ¬ u.isActive then { u with text := c :: u.text }
  else
    let isBlank := Raw.isBlank c
    let finish (u : Unexpansion) (c : Char) (isActive : Bool) : Unexpansion :=
      { u.write c with afterBlank := isBlank, isActive := isActive && (isWhole || isBlank) }
    if isBlank then
      match t.next? u.column with
      | none => finish u c false
      | some next =>
        let keep (u : Unexpansion) : Unexpansion :=
          { u with pending := u.pending.drop (u.pending.length - if u.isSingle then 1 else 0) }
        let mark (u : Unexpansion) : Unexpansion :=
          if u.pending.isEmpty then u else { u with pending := u.pending.dropLast ++ ['\t'] }
        if c = '\t' then finish (keep (mark { u with column := next })) c true
        else
          let u := { u with column := u.column + 1 }
          if u.afterBlank ∧ u.column = next then finish (keep (mark u)) '\t' true
          else
            { u with isSingle := u.isSingle || u.column == next, pending := c :: u.pending,
                     afterBlank := true }
    else if c = Char.ofNat 8 then finish { u with column := u.column - 1 } c true
    else finish { u with column := u.column + 1 } c true

/-- A line with tabs for its blanks, or for those at its start. -/
def unexpandLine (t : TabStops) (isWhole : Bool) (line : Raw) : Raw :=
  let u := line.foldl (Unexpansion.step t isWhole) ⟨[], 0, [], true, false, true⟩
  let pending := if 1 < u.pending.length ∧ u.isSingle then u.pending.dropLast ++ ['\t']
    else u.pending
  (pending ++ u.text).reverse

/-- An argument of digits and commas as an option with a name. -/
def spellStops (arguments : List Raw) : List Raw :=
  arguments.map fun argument =>
    match argument with
    | '-' :: body =>
      if ¬ body.isEmpty ∧ body.all (fun c => c.isDigit || c == ',') then
        "--stops=".toList ++ body
      else argument
    | argument => argument

/-- Replace blanks by tabs. -/
def unexpand : Job Unit := do
  let o ← optionsOf "t,tabs: a,all first-only stops:" true 1 (spellStops (← get).call.arguments)
  let mut list : TabList := ⟨[], 0, 0⟩
  let mut pending : Raw := []
  for (key, value) in o.options do
    if key = "t" then list ← list.add value
    else if key = "stops" then
      for c in value do
        if c = ',' then
          list ← list.add pending
          pending := []
        else pending := pending ++ [c]
  if unsignedLimit < Raw.valueIn 10 pending then
    giveUp 1 "tab stop value is too large".toList
  let stops ← (← list.add pending).settled
  mapLines o.files (unexpandLine stops ((o.has "a" || o.has "t") && !o.has "first-only"))

end Tool
end MakeTen
