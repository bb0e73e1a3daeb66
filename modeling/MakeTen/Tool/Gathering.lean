import MakeTen.Text.Replace
import MakeTen.Tool.Launching
/-!
# Gathered arguments

A program that reads arguments and starts another program with them, with as
many at a time as it is allowed to.

Main definitions:

- Type `Tool.Piece`: what is read.
- Function `Tool.piecesOf`: the pieces of an input.
- Function `Tool.xargs`: the program.
-/

namespace MakeTen
namespace Tool

/-! ## Reading arguments -/

/-- What is read: arguments, ends of lines that count, and a quote that is not
closed. -/
inductive Piece where
  | argument (raw : Raw)
  | lineEnd
  | openQuote (quote : Char)

/-- Where reading is. -/
inductive GatherMode where
  /-- Between arguments. -/
  | blank
  | inside
  | quoted (quote : Char)
  | escaped

/-- The pieces of an input with blanks, quotes and backslashes.  `word` is the
argument so far, backwards, `isBegun` says whether there is one, and `last` is the
character before.  If whole lines are arguments, blanks inside them stay. -/
def gather (keepsLines : Bool) (mode : GatherMode) (word : Raw) (isBegun : Bool)
    (last : Char) : Raw → List Piece
  | [] =>
    match mode with
    | .quoted q => [.openQuote q]
    | _ => if word.isEmpty then [] else [.argument word.reverse]
  | c :: rest =>
    let inside (_ : Unit) : List Piece :=
      if c = '\n' then
        let ended := if Raw.isBlank last then [] else [Piece.lineEnd]
        if isBegun then
          .argument word.reverse :: (ended ++ gather keepsLines .blank [] false c rest)
        else gather keepsLines .blank [] false c rest
      else if ¬ keepsLines ∧ Raw.isBlank c then
        .argument word.reverse :: gather keepsLines .blank [] false c rest
      else if c = '\\' then gather keepsLines .escaped word true c rest
      else if c = '\'' ∨ c = '"' then gather keepsLines (.quoted c) word true c rest
      else gather keepsLines .inside (c :: word) true c rest
    match mode with
    | .blank =>
      if Raw.isSpace c then gather keepsLines .blank word isBegun c rest else inside ()
    | .inside => inside ()
    | .quoted q =>
      if c = '\n' then [.openQuote q]
      else if c = q then gather keepsLines .inside word true c rest
      else gather keepsLines (.quoted q) (c :: word) true c rest
    | .escaped => gather keepsLines .inside (c :: word) true c rest

/-- The pieces of an input in which a character ends arguments. -/
def gatherEnding (mark : Char) (raw : Raw) : List Piece :=
  let parts := Raw.splitOn mark raw
  let parts := if parts.getLast? = some [] then parts.dropLast else parts
  parts.flatMap fun part => [.argument part, .lineEnd]

/-- Pieces up to an argument that ends them. -/
def untilMarker (marker : Raw) (pieces : List Piece) : List Piece :=
  pieces.takeWhile fun
    | .argument raw => raw != marker
    | _ => true

/-- The character that a text for a delimiter means. -/
def delimiter? (raw : Raw) : Option Char :=
  match raw with
  | [c] => some c
  | ['\\', c] =>
    if Raw.isOctal c then some (Char.ofNat (Raw.digitValue c))
    else
      match c with
      | 'n' => some '\n'
      | 't' => some '\t'
      | 'r' => some '\r'
      | 'a' => some (Char.ofNat 7)
      | 'b' => some (Char.ofNat 8)
      | 'v' => some (Char.ofNat 11)
      | 'f' => some (Char.ofNat 12)
      | '\\' => some '\\'
      | _ => none
  | '\\' :: 'x' :: digits =>
    if digits.all Raw.isHexadecimal then some (Char.ofNat (Raw.valueIn 16 digits % 256)) else none
  | '\\' :: digits =>
    if digits.all Raw.isOctal then some (Char.ofNat (Raw.valueIn 8 digits % 256)) else none
  | _ => none

/-! ## Starting programs -/

/-- How arguments are used. -/
structure GatherStyle where
  /-- The program, with its first arguments. -/
  words : List Raw
  /-- What stands for an argument in the words, if something does. -/
  slot : Option Raw
  countLimit : Option Nat
  lineLimit : Option Nat
  sizeLimit : Nat
  stopsAtSize : Bool
  isShown : Bool
  /-- Whether somebody is asked before each start; nobody can be. -/
  isAsked : Bool
  input : Source

/-- What has been gathered for the next start, and what came of those before. -/
structure Gathered where
  /-- Arguments, the latest first. -/
  arguments : List Raw
  size : Nat
  lines : Nat
  hasStarted : Bool
  isGood : Bool

/-- The size of some words, each with an end. -/
def wordsSize (words : List Raw) : Nat :=
  (words.map fun w => w.length + 1).foldl (· + ·) 0

/-- Start the program with some words. -/
def startGathered (s : GatherStyle) (words : List Raw) (g : Gathered) : Job Gathered := do
  let call := (← get).call
  let name := words.headD []
  if s.isShown then
    flush
    let line := Raw.join [' '] (words.map Quoting.forShell)
    if s.isAsked then
      put 2 line
      giveUp 1 "failed to open /dev/tty for reading: No such device or address".toList
    grumble line
  match ← launchFault? call.environment words with
  | some fault =>
    flush
    complain (name ++ ": ".toList ++ faultText fault)
    exit (launchStatus fault)
  | none => pure ()
  let answer ← ask (.start ⟨words, call.environment, s.input, false, [], false⟩)
  if answer.isKilled then
    giveUp 125 (name ++ ": terminated by signal ".toList ++ Raw.ofNat (answer.status - 128))
  else if answer.status = 255 then
    giveUp 124 (name ++ ": exited with status 255; aborting".toList)
  else
    return ⟨[], wordsSize s.words, 0, true, g.isGood && answer.status == 0⟩

/-- Start the program with what has been gathered. -/
def startAll (s : GatherStyle) (g : Gathered) : Job Gathered :=
  startGathered s (s.words ++ g.arguments.reverse) g

/-- Put an argument into the words in place of what stands for it. -/
def fillSlot (s : GatherStyle) (slot argument : Raw) : List Raw :=
  s.words.take 1 ++ (s.words.drop 1).map (Replace.all slot argument)

/-- Use a piece. -/
def usePiece (s : GatherStyle) (g : Gathered) (piece : Piece) : Job Gathered := do
  match piece with
  | .openQuote quote =>
    if s.slot.isNone ∧ ¬ g.arguments.isEmpty ∧ ¬ s.stopsAtSize then
      let _ ← startAll s g
    let kind := if quote = '"' then "double" else "single"
    giveUp 1 ("unmatched ".toList ++ kind.toList ++
      (" quote; by default quotes are special to ".toList ++ (← get).call.name) ++
      " unless you use the -0 option".toList)
  | .lineEnd =>
    let g := { g with lines := g.lines + 1 }
    if s.slot.isNone ∧ s.lineLimit.any (· ≤ g.lines) ∧ ¬ g.arguments.isEmpty then startAll s g
    else return g
  | .argument raw =>
    match s.slot with
    | some slot =>
      let words := fillSlot s slot raw
      if s.sizeLimit < wordsSize words then giveUp 1 "argument list too long".toList
      startGathered s words g
    | none =>
      let size := raw.length + 1
      if s.sizeLimit < wordsSize s.words + size then
        if ¬ g.arguments.isEmpty ∧ ¬ s.stopsAtSize then
          let _ ← startAll s g
        giveUp 1 "argument line too long".toList
      let mut g := g
      if s.sizeLimit < g.size + size then
        if s.stopsAtSize ∧ (s.countLimit.isSome ∨ s.lineLimit.isSome) then
          giveUp 1 "argument list too long".toList
        g ← startAll s g
      g := { g with arguments := raw :: g.arguments, size := g.size + size }
      if s.countLimit.any (· ≤ g.arguments.length) then startAll s g else return g

/-! ## The program -/

/-- The options of the program. -/
def xargsFlags : String :=
  "0,null a,arg-file: d,delimiter: E: e,eof? I: i,replace? L: l,max-lines? n,max-args: " ++
    "P,max-procs: p,interactive r,no-run-if-empty s,max-chars: t,verbose x,exit " ++
    "o,open-tty process-slot-var: show-limits"

/-- A number that an option gives, which may not be less than another one. -/
def optionNumber (letter : Char) (least : Nat) (value : Raw) : Job Nat := do
  match Raw.toInt? (if value.head? = some '+' then value.drop 1 else value) with
  | none =>
    giveUsage 1 ("invalid number \"".toList ++ value ++ "\" for -".toList ++ letter ::
      " option".toList)
  | some n =>
    if n < least then
      giveUsage 1 ("value ".toList ++ value ++ " for -".toList ++ letter ::
        " option should be >= ".toList ++ Raw.ofNat least)
    else return n.toNat

/-- Warn that an option takes the place of another one. -/
def warnOf (old oldValue new : String) : Job Unit :=
  complain ("warning: options ".toList ++ old.toList ++ " and ".toList ++ new.toList ++
    " are mutually exclusive, ignoring previous ".toList ++ oldValue.toList ++ " value".toList)

/-- The most characters that a program is given, unless another number is asked
for. -/
def usualSizeLimit : Nat := 131072

/-- The style that some options ask for. -/
def readGatherStyle (o : Chosen) : Job GatherStyle := do
  let words := if o.operands.isEmpty then ["echo".toList] else o.operands
  let input : Source := if o.has "a" then .shared else .nothing
  let mut s : GatherStyle := ⟨words, none, none, none, usualSizeLimit, o.has "x", o.has "t" ||
    o.has "p", o.has "p", input⟩
  for (key, value) in o.options do
    if key == "n" then
      let n ← optionNumber 'n' 1 value
      if s.lineLimit.isSome then warnOf "--max-lines" "--max-lines" "--max-args/-n"
      s := { s with countLimit := some n, lineLimit := none }
      if s.slot.isSome then
        if n = 1 then s := { s with countLimit := none }
        else
          warnOf "--replace" "--replace" "--max-args/-n"
          s := { s with slot := none }
    if key == "L" ∨ key == "l" then
      let n ← if value.isEmpty then pure 1 else optionNumber key.front 1 value
      let name := if key == "L" then "-L" else "--max-lines"
      if s.countLimit.isSome then warnOf "--max-args" "--max-args" name
      if s.slot.isSome then warnOf "--replace" "--replace" name
      s := { s with lineLimit := some n, countLimit := none, slot := none }
    if key == "I" ∨ key == "i" then
      if s.countLimit.isSome then warnOf "--max-args" "--max-args" "--replace/-I/-i"
      if s.lineLimit.isSome then warnOf "--max-lines" "--max-lines" "--replace/-I/-i"
      let slot := if value.isEmpty then "\x7b\x7d".toList else value
      s := { s with slot := some slot, countLimit := none, lineLimit := none }
    if key == "s" then
      match Raw.toInt? value with
      | some n =>
        if n < 1 then
          complain ("value ".toList ++ value ++ " for -s option should be >= 1".toList)
          s := { s with sizeLimit := 1 }
        else s := { s with sizeLimit := min n.toNat usualSizeLimit }
      | none => let _ ← optionNumber 's' 1 value
    if key == "P" then let _ ← optionNumber 'P' 0 value
  return s

/-- Read arguments and start a program with them. -/
def xargs : Job Unit := do
  let o ← leadingOptions xargsFlags 1
  let mark ← match o.last? ["0", "d"] with
    | some "0" => pure (some Raw.nul)
    | some _ =>
      let text := (o.value? "d").getD []
      match delimiter? text with
      | some c => pure (some c)
      | none =>
        giveUp 1 (("Invalid input delimiter specification ".toList ++ text) ++
          (": the delimiter must be either a single character or an escape sequence " ++
            "starting with \\.").toList)
    | none => pure none
  let s ← readGatherStyle o
  let raw ← match o.value? "a" with
    | none => readAll
    | some path =>
      match ← contents path with
      | .ok raw => pure raw
      | .error fault =>
        giveUp 1 ("Cannot open input file ".toList ++ Quoting.forReader path ++ ": ".toList ++
          faultText fault)
  if s.sizeLimit < wordsSize s.words then
    giveUp 1 "cannot fit single argument within argument list size limit".toList
  let pieces := match mark with
    | some c => gatherEnding c raw
    | none =>
      let pieces := gather s.slot.isSome .blank [] false ' ' raw
      match ((o.last? ["E", "e"]).bind o.value?) with
      | some marker => if marker.isEmpty then pieces else untilMarker marker pieces
      | none => pieces
  let mut g : Gathered := ⟨[], wordsSize s.words, 0, false, true⟩
  for piece in pieces do
    g ← usePiece s g piece
  if ¬ g.arguments.isEmpty ∨ (¬ g.hasStarted ∧ s.slot.isNone ∧ ¬ o.has "r") then
    g ← startAll s g
  if (o.value? "a").isNone ∧ (← get).call.inputFault = some .badDescriptor then
    flush
    giveUp 1 "error closing file: Bad file descriptor".toList
  exit (if g.isGood then 0 else 123)

end Tool
end MakeTen
