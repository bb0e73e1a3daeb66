import MakeTen.Random.Choice
import MakeTen.Tool.Sameness
/-!
# Arranged lines

The program that puts lines in an arbitrary order, and the one that puts names in an order
that agrees with pairs of them.

Main definitions:

- Functions `Tool.shuf` and `Tool.tsort`: the programs.
-/

namespace MakeTen
namespace Tool

/-! ## Arbitrary order -/

/-- Bytes that choices are made from: those of a file, or those of a generator. -/
inductive ByteSource where
  | given (raw : Raw)
  | generated (state : UInt64)

/-- The next byte, and what is left. -/
def ByteSource.next : ByteSource → Option (UInt8 × ByteSource)
  | .given [] => none
  | .given (c :: rest) => some (c.toNat.toUInt8, .given rest)
  | .generated state =>
    let state := nextRandom state
    some ((state >>> 40).toUInt8, .generated state)

/-- What choices are made from. -/
abbrev Dice := Choice.Source ByteSource

/-- A number that a choice gives, or a complaint that there are too few random bytes. -/
def orEnd {α : Type} (path : Raw) (result : Option α) : Job α := do
  match result with
  | some a => return a
  | none => giveUp 1 (Quoting.forReader path ++ ": end of file".toList)

/-- What options say about lines that are to be arranged. -/
structure ShuffleCall where
  limit : Option Nat
  range : Option (Nat × Nat)
  output : Option Raw
  source : Option Raw

/-- The numbers of a range. -/
def readRange? (raw : Raw) : Option (Nat × Nat) :=
  let body := raw.dropWhile Raw.isSpace
  let body := if body.head? = some '+' then body.drop 1 else body
  let first := body.takeWhile Char.isDigit
  if first.isEmpty then none
  else
    match body.drop first.length, wholeNumber? (body.drop (first.length + 1)) with
    | '-' :: _, some last =>
      let first := Raw.valueIn 10 first
      if first ≤ last + 1 then some (first, last) else none
    | _, _ => none

/-- The options of a shuffle. -/
def shuffleCall (o : Chosen) : Job ShuffleCall := do
  let mut c : ShuffleCall := ⟨none, none, none, none⟩
  for (key, value) in o.options do
    match key with
    | "i" =>
      if c.range.isSome then giveUp 1 "multiple -i options specified".toList
      match readRange? value with
      | some range => c := { c with range := some range }
      | none => giveUp 1 ("invalid input range: ".toList ++ Quoting.forReader value)
    | "n" =>
      match wholeNumber? value with
      | some n => c := { c with limit := some (min n (c.limit.getD n)) }
      | none => giveUp 1 ("invalid line count: ".toList ++ Quoting.forReader value)
    | "o" =>
      if c.output.any (· ≠ value) then giveUp 1 "multiple output files specified".toList
      c := { c with output := some value }
    | "random-source" =>
      if c.source.any (· ≠ value) then giveUp 1 "multiple random sources specified".toList
      c := { c with source := some value }
    | _ => pure ()
  if o.has "e" ∧ c.range.isSome then giveUsage 1 "cannot combine -e and -i options".toList
  if c.range.isSome then
    for extra in o.operands.take 1 do extraOperand 1 extra
  else if ¬ o.has "e" then
    for extra in (o.operands.drop 1).take 1 do extraOperand 1 extra
  return c

/-- Lines of which only some are kept: each line that comes when there are enough takes the
place of a chosen one, or is left out. -/
def keepSome (path : Raw) (count : Nat) : Nat → List Raw → Array Raw → Dice →
    Job (List Raw × Dice)
  | _, [], kept, dice => return (kept.toList, dice)
  | seen, line :: rest, kept, dice => do
    if kept.size < count then keepSome path count (seen + 1) rest (kept.push line) dice
    else
      let (n, dice) ← orEnd path (dice.below (seen + 1))
      keepSome path count (seen + 1) rest (if n < count then kept.set! n line else kept) dice

/-- The lines that a shuffle is about. -/
def shuffledLines (o : Chosen) (c : ShuffleCall) (ending : Char) : Job (List Raw × Bool) := do
  if c.limit = some 0 ∧ ¬ o.has "r" then return ([], false)
  match c.range with
  | some (first, last) =>
    return ((List.range (last + 1 - first)).map fun n => Raw.ofNat (first + n), false)
  | none =>
    if o.has "e" then return (o.operands, false)
    let path := o.operands.headD ['-']
    match ← operand path with
    | .ok raw => return ((linesEnding ending raw).map (·.raw), path = ['-'])
    | .error fault =>
      if failsReading fault then giveUp 1 ("read error: ".toList ++ faultText fault)
      complainOf path fault
      exit 1

/-- Chosen lines over and over again, so many of them. -/
def repeatLines (path : Raw) (lines : Array Raw) (write : Raw → Job Unit) :
    Nat → Dice → Job Dice
  | 0, dice => return dice
  | count + 1, dice => do
    let (n, dice) ← orEnd path (dice.below lines.size)
    write (lines.getD n [])
    repeatLines path lines write count dice

/-- Put lines into an arbitrary order. -/
def shuf : Job Unit := do
  let o ← options ("e,echo i,input-range: n,head-count: o,output: r,repeat z,zero-terminated " ++
    "random-source:")
  let c ← shuffleCall o
  let ending := if o.has "z" then Raw.nul else '\n'
  let (lines, isStream) ← shuffledLines o c ending
  let call := (← get).call
  let path := c.source.getD "getrandom".toList
  let bytes : ByteSource ← match c.source with
    | none => pure (.generated (UInt64.ofNat (call.clock + call.number)))
    | some path =>
      match ← contents path with
      | .ok raw => pure (.given raw)
      | .error .isDirectory => giveUp 1 (shown path ++ ": read error: Is a directory".toList)
      | .error fault =>
        complainOf path fault
        exit 1
  let dice : Dice := ⟨ByteSource.next, bytes, 0, 0⟩
  for path in c.output do
    match ← store path false [] with
    | .ok () => pure ()
    | .error fault =>
      complainOf path fault
      exit 1
  let write (line : Raw) : Job Unit := do
    match c.output with
    | none => say (line ++ [ending])
    | some path => let _ ← store path true (line ++ [ending])
  if o.has "r" then
    if c.limit = some 0 then exit 0
    if lines.isEmpty then giveUp 1 "no lines to repeat".toList
    match c.limit with
    | some count =>
      let _ ← repeatLines path lines.toArray write count dice
      exit 0
    | none =>
      let mut dice := dice
      for n in [0:40] do
        dice ← repeatLines path lines.toArray write 1000 dice
        let _ ← ask (.pause (100000 * Nat.pow 2 (n - 8)))
      exit 0
  let (lines, dice) ← match isStream, c.limit with
    | true, some count => keepSome path count 0 lines #[] dice
    | _, _ => pure (lines, dice)
  let count := min (c.limit.getD lines.length) lines.length
  let (arranged, _) ← orEnd path (Choice.arrange count lines dice)
  for line in arranged do write line
  exit 0

/-! ## Order by pairs -/

/-- A name in an order that is to be found. -/
structure OrderedName where
  name : Raw
  /-- How many others have to come before. -/
  count : Nat
  /-- The names that have to come after, the latest pair first. -/
  after : List Nat
  /-- The name that comes next in a chain of names. -/
  link : Option Nat
  isShown : Bool

instance : Inhabited OrderedName := ⟨⟨[], 0, [], none, false⟩⟩

/-- Names, in the order of their texts. -/
abbrev OrderedNames := Array OrderedName

/-- Show names that nothing has to come before any more, and those that become such. -/
def showFree : Nat → List Nat → OrderedNames → Job OrderedNames
  | 0, _, names => return names
  | _ + 1, [], names => return names
  | fuel + 1, n :: queue, names => do
    let item := names.getD n default
    sayLine item.name
    let names := names.modify n fun i => { i with isShown := true }
    let (names, queue) := item.after.foldl (fun (names, queue) m =>
      let names : OrderedNames := names.modify m fun i => { i with count := i.count - 1 }
      (names, if (names.getD m default).count = 0 then queue ++ [m] else queue)) (names, queue)
    showFree fuel queue names

/-- Cut links of a chain that starts with a name. -/
def cutLinks : Nat → Option Nat → OrderedNames → OrderedNames
  | 0, _, names => names
  | _ + 1, none, names => names
  | fuel + 1, some n, names =>
    cutLinks fuel (names.getD n default).link (names.modify n fun i => { i with link := none })

/-- Complain about the names of a loop, up to the one that closes it; that one does not have
to come before the name that the chain starts with any more. -/
def breakLoop (closing start : Nat) : Nat → Nat → OrderedNames → Job OrderedNames
  | 0, _, names => return names
  | fuel + 1, n, names => do
    let item := names.getD n default
    flush
    complain item.name
    if n = closing then
      let names := (names.modify start fun i => { i with count := i.count - 1 }).modify closing
        fun i => { i with after := i.after.erase start }
      return cutLinks (names.size + 1) (some n) names
    let names := names.modify n fun i => { i with link := none }
    match item.link with
    | some next => breakLoop closing start fuel next names
    | none => return names

/-- Go through all names once, and put those in front of a chain that have to come before its
first name, until the chain is a loop; `chain` is its first name.  Nothing is left of the
chain when the loop has been broken. -/
def followLoop : List Nat → Option Nat → OrderedNames → Job (Option Nat × OrderedNames)
  | [], chain, names => return (chain, names)
  | n :: rest, chain, names => do
    let item := names.getD n default
    if item.count = 0 then followLoop rest chain names
    else
      match chain with
      | none => followLoop rest (some n) names
      | some start =>
        if ¬ item.after.contains start then followLoop rest chain names
        else if item.link.isSome then
          return (none, ← breakLoop n start (names.size + 1) start names)
        else
          followLoop rest (some n) (names.modify n fun i => { i with link := some start })

/-- Find a loop and break it. -/
def findLoop : Nat → Option Nat → OrderedNames → Job OrderedNames
  | 0, _, names => return names
  | fuel + 1, chain, names => do
    match ← followLoop (List.range names.size) chain names with
    | (none, names) => return names
    | (chain, names) => findLoop fuel chain names

/-- Show all names; the answer is whether there has been no loop. -/
def showOrder (path : Raw) : Nat → Bool → OrderedNames → Job Bool
  | 0, isGood, _ => return isGood
  | fuel + 1, isGood, names => do
    let isFree (n : Nat) : Bool :=
      let item := names.getD n default
      item.count == 0 && !item.isShown
    let names ← showFree (names.size + 1) ((List.range names.size).filter isFree) names
    if names.all (·.isShown) then return isGood
    flush
    complain (shown path ++ ": input contains a loop:".toList)
    showOrder path fuel false (← findLoop (names.size + 2) none names)

/-- Pairs of words that follow each other. -/
def wordPairs : List Raw → List (Raw × Raw)
  | a :: b :: rest => (a, b) :: wordPairs rest
  | _ => []

/-- The names of some pairs, each pair with the name that has to come first in front. -/
def orderedNames (words : List Raw) : OrderedNames :=
  let names := ((words.mergeSort Raw.le).eraseDups).toArray
  let start := names.map fun name => OrderedName.mk name 0 [] none false
  let place (name : Raw) : Nat := (names.findIdx? (· = name)).getD 0
  (wordPairs words).foldl (fun items (a, b) =>
    if a = b then items
    else
      let (i, j) := (place a, place b)
      (items.modify j fun item => { item with count := item.count + 1 }).modify i
        fun item => { item with after := j :: item.after }) start

/-- Put names into an order that agrees with pairs. -/
def tsort : Job Unit := do
  let o ← options ""
  match o.operands.drop 1 with
  | extra :: _ => extraOperand 1 extra
  | [] => pure ()
  let path := o.operands.headD ['-']
  match ← operand path with
  | .error fault =>
    if failsReading fault then
      giveUp 1 (shown path ++ ": read error: ".toList ++ faultText fault)
    complainOf path fault
    exit 1
  | .ok raw =>
    let words := Raw.words raw
    if words.length % 2 = 1 then
      giveUp 1 (shown path ++ ": input contains an odd number of tokens".toList)
    let names := orderedNames words
    exitGood (← showOrder path (words.length + 1) true names)

end Tool
end MakeTen
