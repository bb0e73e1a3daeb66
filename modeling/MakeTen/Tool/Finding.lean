import MakeTen.Regex.Matching
import MakeTen.Regex.Reader
import MakeTen.Shell.Pattern
import MakeTen.Text.Replace
import MakeTen.Tool.Reversing
import MakeTen.Tool.Launching
import MakeTen.Tool.Placing
/-!
# Finding files

The program that goes through directories and does something with each file that an
expression holds of.

Main definitions:

- Type `Tool.Query`: expressions.
- Function `Tool.readQuery`: the expression that some words spell.
- Function `Tool.find`: the program.
-/

namespace MakeTen
namespace Tool

/-! ## Expressions -/

/-- How a number is compared. -/
inductive Measure where
  | less
  | equal
  | more
  deriving DecidableEq

/-- What an expression asks of a file or does with it. -/
inductive Query where
  | yes
  | no
  /-- The name fits a pattern. -/
  | name (pattern : Raw) (foldsCase : Bool)
  /-- The path fits a pattern. -/
  | path (pattern : Raw) (foldsCase : Bool)
  /-- The path is matched by a regular expression. -/
  | regex (regex : Regex) (foldsCase : Bool)
  /-- What the file is, by letters. -/
  | kind (letters : Raw)
  | empty
  | size (measure : Measure) (number unit : Nat)
  | names (measure : Measure) (number : Nat)
  /-- The bits are these, or among them are all or some of these. -/
  | bits (mark : Char) (bits : Nat)
  | runnable
  | newer (place : List String)
  /-- The file has just been changed. -/
  | age (measure : Measure) (number : Nat)
  /-- The link holds a path that fits a pattern. -/
  | held (pattern : Raw)
  /-- Print the path. -/
  | print (finish : Char)
  | printf (format : Raw)
  /-- Print what is known about the file. -/
  | list
  | run (words : List Raw) (asks isLocal : Bool)
  /-- Run a program with all paths at the end. -/
  | runAll (words : List Raw) (index : Nat)
  | delete
  | quit
  /-- Do not go into the directory. -/
  | prune
  | not (query : Query)
  | both (left right : Query)
  | either (left right : Query)
  | after (left right : Query)

/-- Options that hold for the whole search. -/
structure Bounds where
  least : Nat
  most : Option Nat
  isDeepFirst : Bool
  /-- Whether something is done with files other than to print them. -/
  acts : Bool
  /-- How many programs are run with many paths. -/
  gathered : Nat
  follows : Bool

/-- Steps of reading an expression: what is left of its words, and options so far. -/
abbrev Reading := StateT (List Raw × Bounds) Job

/-- Read a number with a sign that says how it is compared. -/
def readMeasure (raw : Raw) : Measure × Raw :=
  match raw with
  | '+' :: rest => (.more, rest)
  | '-' :: rest => (.less, rest)
  | rest => (.equal, rest)

/-- Whether a number compares to another one as asked for. -/
def Measure.holds (m : Measure) (n bound : Nat) : Bool :=
  match m with
  | .less => n < bound
  | .equal => n = bound
  | .more => bound < n

/-- The next word. -/
def nextWord (predicate : Raw) : Reading Raw := do
  match ← get with
  | (word :: rest, b) =>
    set (rest, b)
    return word
  | ([], _) => giveUp 1 ("missing argument to \x60".toList ++ predicate ++ ['\''])

/-- The words up to a semicolon, or up to braces and a plus sign. -/
def commandWords (allowsAll : Bool) : Raw → List Raw → Option (List Raw × Bool × List Raw)
  | _, [] => none
  | last, word :: rest =>
    if word = [';'] then some ([], false, rest)
    else if allowsAll ∧ word = ['+'] ∧ last = ['\x7b', '\x7d'] then some ([], true, rest)
    else (commandWords allowsAll word rest).map fun (words, isAll, rest) =>
      (word :: words, isAll, rest)

/-- Read what follows the name of a test or action. -/
def readPredicate (predicate : Raw) : Reading Query := do
  let act (q : Query) : Reading Query := do
    modify fun (words, b) => (words, { b with acts := true })
    return q
  let count (text : Raw) : Reading (Measure × Nat) := do
    let (m, digits) := readMeasure text
    match Raw.toNat? digits with
    | some n => return (m, n)
    | none =>
      giveUp 1 ("non-numeric argument to ".toList ++ predicate ++ ": ".toList ++
        Quoting.forReader text)
  let depth : Reading Nat := do
    let text ← nextWord predicate
    match Raw.toNat? text with
    | some n => return n
    | none =>
      giveUp 1 ("Expected a positive decimal integer argument to ".toList ++ predicate ++
        ", but got ".toList ++ Quoting.forReader text)
  let regexOf (foldsCase : Bool) : Reading Query := do
    let text ← nextWord predicate
    let spelt := '^' :: '(' :: plainSpelling text ++ [')', '$']
    match Regex.read Regex.Flavour.extendedEdit spelt with
    | .ok regex => return .regex regex foldsCase
    | .error _ => giveUp 1 "Invalid regular expression".toList
  let command (asks isLocal : Bool) : Reading Query := do
    let (words, b) ← get
    match commandWords (!asks) [] words with
    | none => giveUp 1 ("missing argument to \x60".toList ++ predicate ++ ['\''])
    | some ([], _, _) => giveUp 1 ("missing argument to \x60".toList ++ predicate ++ ['\''])
    | some (words, isAll, rest) =>
      set (rest, { b with acts := true, gathered := if isAll then b.gathered + 1 else b.gathered })
      return if isAll then .runAll words.dropLast b.gathered else .run words asks isLocal
  match String.ofList predicate with
  | "-true" => return .yes
  | "-false" => return .no
  | "-name" => return .name (← nextWord predicate) false
  | "-iname" => return .name (← nextWord predicate) true
  | "-path" => return .path (← nextWord predicate) false
  | "-wholename" => return .path (← nextWord predicate) false
  | "-ipath" => return .path (← nextWord predicate) true
  | "-lname" => return .held (← nextWord predicate)
  | "-regex" => regexOf false
  | "-iregex" => regexOf true
  | "-regextype" => do
    let _ ← nextWord predicate
    return .yes
  | "-type" => do
    let letters ← nextWord predicate
    let parts := Raw.splitOn ',' letters
    for part in parts do
      match part with
      | [c] =>
        if ¬ "bcdpflsD".toList.contains c then
          giveUp 1 ("Unknown argument to -type: ".toList ++ [c])
      | _ => giveUp 1 ("Arguments to -type should contain only one letter".toList)
    return .kind parts.flatten
  | "-empty" => return .empty
  | "-size" => do
    let text ← nextWord predicate
    let (m, rest) := readMeasure text
    let digits := rest.takeWhile Char.isDigit
    let unit : Option Nat := match String.ofList (rest.drop digits.length) with
      | "" => some 512
      | "b" => some 512
      | "c" => some 1
      | "w" => some 2
      | "k" => some 1024
      | "M" => some 1048576
      | "G" => some 1073741824
      | _ => none
    match unit, digits with
    | some u, _ :: _ => return .size m (Raw.valueIn 10 digits) u
    | none, _ :: _ =>
      giveUp 1 ("invalid -size type \x60".toList ++ (rest.drop digits.length).take 1 ++ ['\''])
    | _, [] => giveUp 1 ("invalid -size type \x60".toList ++ rest.take 1 ++ ['\''])
  | "-links" => do
    let (m, n) ← count (← nextWord predicate)
    return .names m n
  | "-perm" => do
    let text ← nextWord predicate
    let mark := match text with
      | '-' :: _ => '-'
      | '/' :: _ => '/'
      | _ => ' '
    let body := if mark = ' ' then text else text.drop 1
    match Permission.read? body with
    | some changes => return .bits mark (Permission.apply false 0 0 changes)
    | none => giveUp 1 ("invalid mode ".toList ++ Quoting.forReader text)
  | "-executable" => return .runnable
  | "-readable" => return .yes
  | "-writable" => return .yes
  | "-newer" => do
    let path ← nextWord predicate
    match (← getThe Desk).files.follow (Raw.toString path) with
    | .ok place => return .newer place
    | .error fault => giveUp 1 (Quoting.forReader path ++ ": ".toList ++ faultText fault)
  | "-mmin" => do
    let (m, n) ← count (← nextWord predicate)
    return .age m n
  | "-mtime" => do
    let (m, n) ← count (← nextWord predicate)
    return .age m n
  | "-user" => do
    let text ← nextWord predicate
    return if text = "root".toList ∨ text = ['0'] then .yes else .no
  | "-group" => do
    let text ← nextWord predicate
    return if text = "root".toList ∨ text = ['0'] then .yes else .no
  | "-maxdepth" => do
    let n ← depth
    modify fun (words, b) => (words, { b with most := some n })
    return .yes
  | "-mindepth" => do
    let n ← depth
    modify fun (words, b) => (words, { b with least := n })
    return .yes
  | "-depth" => do
    modify fun (words, b) => (words, { b with isDeepFirst := true })
    return .yes
  | "-d" => do
    modify fun (words, b) => (words, { b with isDeepFirst := true })
    return .yes
  | "-follow" => do
    modify fun (words, b) => (words, { b with follows := true })
    return .yes
  | "-xdev" => return .yes
  | "-mount" => return .yes
  | "-noleaf" => return .yes
  | "-nowarn" => return .yes
  | "-warn" => return .yes
  | "-print" => act (.print '\n')
  | "-print0" => act (.print Raw.nul)
  | "-printf" => act (.printf (← nextWord predicate))
  | "-ls" => act .list
  | "-prune" => return .prune
  | "-quit" => act .quit
  | "-delete" => do
    modify fun (words, b) => (words, { b with isDeepFirst := true })
    act .delete
  | "-exec" => command false false
  | "-execdir" => command false true
  | "-ok" => command true false
  | "-okdir" => command true true
  | _ => giveUp 1 ("unknown predicate \x60".toList ++ predicate ++ ['\''])

/-- Whether a word joins expressions. -/
def joinsQueries (word : Raw) : Bool :=
  [")", ",", "-o", "-or", "-a", "-and"].any (·.toList = word)

/-- Complain that there is nothing before a word that joins expressions. -/
def nothingBefore {α : Type} (word : Raw) : Reading α :=
  giveUp 1 ("invalid expression; you have used a binary operator '".toList ++ word ++
    "' with nothing before it.".toList)

/-- Read an expression; the level says what may join its parts: commas, words for one of
two, words for both or nothing, and last what stands alone. -/
def readQuery : Nat → Nat → Reading Query
  | 0, _ => return .yes
  | fuel + 1, level => do
    let isOne (words : List String) : Reading (Option Raw) := do
      match ← get with
      | (word :: rest, b) =>
        if words.any (·.toList = word) then
          set (rest, b)
          return some word
        else return none
      | ([], _) => return none
    match level with
    | 0 =>
      let left ← readQuery fuel 1
      match ← isOne [","] with
      | some _ => return .after left (← readQuery fuel 0)
      | none => return left
    | 1 =>
      let left ← readQuery fuel 2
      match ← isOne ["-o", "-or"] with
      | some _ => return .either left (← readQuery fuel 1)
      | none => return left
    | 2 =>
      let left ← readQuery fuel 3
      match ← isOne ["-a", "-and"] with
      | some _ => return .both left (← readQuery fuel 2)
      | none =>
        match (← get).1 with
        | [] => return left
        | word :: _ =>
          if [")", ",", "-o", "-or"].any (·.toList = word) then return left
          else return .both left (← readQuery fuel 2)
    | _ =>
      match ← get with
      | ([], _) => return .yes
      | (word :: rest, b) =>
        set (rest, b)
        match String.ofList word with
        | "!" =>
          if rest.isEmpty then giveUp 1 "expected an expression after '!'".toList
          return .not (← readQuery fuel 3)
        | "-not" =>
          if rest.isEmpty then giveUp 1 "expected an expression after '-not'".toList
          return .not (← readQuery fuel 3)
        | "(" =>
          if rest.isEmpty then
            giveUp 1 ("invalid expression; expected to find a ')' but didn't see one. " ++
              "Perhaps you need an extra predicate after '('").toList
          if rest.head? = some [')'] then
            giveUp 1 ("invalid expression; empty parentheses are not allowed.").toList
          let inner ← readQuery fuel 0
          match ← isOne [")"] with
          | some _ => return inner
          | none =>
            giveUp 1 ("invalid expression; I was expecting to find a ')' somewhere " ++
              "but did not see one.").toList
        | ")" => giveUp 1 "invalid expression; you have too many ')'".toList
        | _ =>
          if joinsQueries word then nothingBefore word
          else if word.head? = some '-' then readPredicate word
          else giveUp 1 ("paths must precede expression: \x60".toList ++ word ++ ['\''])

/-! ## Files on the way -/

/-- A file on the way. -/
structure Visit where
  path : Raw
  /-- The operand below which the file is. -/
  root : Raw
  depth : Nat
  place : List String
  node : FileNode

/-- What has come of a search so far. -/
structure Progress where
  isGood : Bool
  hasQuit : Bool
  /-- Whether the directory at hand is left alone. -/
  isPruned : Bool
  /-- Paths for programs that are run with many, the latest first. -/
  gathered : List (Nat × Raw)

/-- The last name of the path of a file. -/
def Visit.name (v : Visit) : Raw :=
  let trimmed := Raw.dropEnd (· == '/') v.path
  if trimmed.isEmpty then v.path.take 1 else (trimmed.reverse.takeWhile (· ≠ '/')).reverse

/-- The time of a clock in a format. -/
def timeText (clock : Nat) (format : String) : Raw :=
  formatTime (.ofSeconds (clock / 1000000000 : Nat) (clock % 1000000000)) (format.length + 1)
    format.toList

/-- What is known about a file, by a letter. -/
def Visit.part? (v : Visit) (files : Files) (clock : Nat) (letter : Char) : Option Raw :=
  let k : Known := ⟨v.path, v.place, v.node, clock⟩
  let known (letter : Char) : Option Raw := (k.part? files letter).map Prod.fst
  match letter with
  | 'p' => some v.path
  | 'f' => some v.name
  | 'h' =>
    let above := Raw.dropEnd (· ≠ '/') (Raw.dropEnd (· == '/') v.path)
    some (if above.isEmpty then ['.'] else if above.length = 1 then above else above.dropLast)
  | 'P' =>
    let rest := v.path.drop v.root.length
    some (if rest.head? = some '/' then rest.drop 1 else rest)
  | 'H' => some v.root
  | 's' => known 's'
  | 'm' => known 'a'
  | 'M' => known 'A'
  | 'u' => known 'U'
  | 'g' => known 'G'
  | 'U' => known 'u'
  | 'G' => known 'g'
  | 'n' => known 'h'
  | 'i' => known 'i'
  | 'b' => known 'b'
  | 'k' => some (Raw.ofNat (blocksOf 1024 v.node))
  | 'd' => some (Raw.ofNat v.depth)
  | 'y' => some [match v.node with
    | .directory => 'd'
    | .link _ => 'l'
    | .device _ => 'c'
    | _ => 'f']
  | 'l' => some (match v.node with
    | .link held => Raw.ofString held
    | _ => [])
  | _ =>
    if "act".toList.contains letter then some (timeText clock "%a %b %e %T.0000000000 %Y") else none

/-- A name with escapes for what cannot be seen, for blanks and for quotes. -/
def escapedName (name : Raw) : Raw :=
  name.flatMap fun c =>
    if c = ' ' ∨ c = '"' ∨ c = '\\' then ['\\', c]
    else if Quoting.isSeen c then [c]
    else '\\' :: Quoting.escapeBody c

/-- A file in a format, and directives of it that are not known. -/
def Visit.format (v : Visit) (files : Files) (clock : Nat) : Nat → Raw → Raw × List Raw
  | 0, _ => ([], [])
  | fuel + 1, format =>
    let more (text rest : Raw) : Raw × List Raw :=
      let (after, faults) := v.format files clock fuel rest
      (text ++ after, faults)
    match format with
    | [] => ([], [])
    | '%' :: '%' :: rest => more ['%'] rest
    | '%' :: rest =>
      let flags := rest.takeWhile fun c => "-0 +#".toList.contains c
      let digits := (rest.drop flags.length).takeWhile Char.isDigit
      match rest.drop (flags.length + digits.length) with
      | [] => (['%'], [])
      | letter :: after =>
        if "ACT".toList.contains letter ∧ ¬ after.isEmpty then
          let time := if after.head? = some '@' then timeText clock "%s.%N"
            else timeText clock (String.ofList ('%' :: after.take 1))
          more time (after.drop 1)
        else
        match v.part? files clock letter with
        | some text =>
          let width := Raw.valueIn 10 digits
          let text := if flags.contains '-' then Raw.padEnd width ' ' text
            else Raw.padStart width (if flags.contains '0' then '0' else ' ') text
          more text after
        | none =>
          let (text, faults) := more ['%', letter] after
          (text, ("warning: unrecognized format directive \x60%".toList ++
            [letter, '\'']) :: faults)
    | '\\' :: c :: rest =>
      let digits := ((c :: rest).takeWhile Raw.isOctal).take 3
      if ¬ digits.isEmpty then more [octalByte digits] ((c :: rest).drop digits.length)
      else
        match c with
        | 'n' => more ['\n'] rest
        | 't' => more ['\t'] rest
        | 'r' => more ['\r'] rest
        | 'a' => more [Char.ofNat 7] rest
        | 'b' => more [Char.ofNat 8] rest
        | 'f' => more [Char.ofNat 12] rest
        | 'v' => more [Char.ofNat 11] rest
        | '\\' => more ['\\'] rest
        | 'c' => ([], [])
        | c => more ['\\', c] rest
    | c :: rest => more [c] rest

/-- The path that a program in the file's own directory is given. -/
def Visit.localPath (v : Visit) : Raw :=
  "./".toList ++ v.name

/-- Run a program for a file, and give back whether it was well. -/
def runFor (words : List Raw) (path : Raw) : Job Bool := do
  let call := (← get).call
  let filled := words.map (Replace.all ['\x7b', '\x7d'] path)
  let name := filled.headD []
  flush
  match ← launchFault? call.environment filled with
  | some fault =>
    complain (Quoting.forReader name ++ ": ".toList ++ faultText fault)
    return false
  | none =>
    let answer ← ask (.start ⟨filled, call.environment, .shared, false, [], false⟩)
    return answer.status == 0

/-- Do what an expression asks for with a file; the answer is whether the expression holds
of it. -/
def Query.apply (v : Visit) : Query → StateT Progress Job Bool
  | .yes => return true
  | .no => return false
  | .name pattern foldsCase => return fitsPattern pattern foldsCase v.name
  | .path pattern foldsCase => return fitsPattern pattern foldsCase v.path
  | .regex r foldsCase =>
    return Regex.isIn (.ofLine foldsCase v.path) r
  | .kind letters =>
    return letters.contains (match v.node with
      | .directory => 'd'
      | .link _ => 'l'
      | .device _ => 'c'
      | _ => 'f')
  | .empty => do
    let files := (← getThe Desk).files
    return match v.node with
      | .directory => (files.children v.place).isEmpty
      | .file bytes => bytes.isEmpty
      | _ => false
  | .size measure number unit =>
    return measure.holds ((sizeOf v.node + unit - 1) / unit) number
  | .names measure number => do
    return measure.holds (nameCount (← getThe Desk).files v.place v.node) number
  | .bits mark wanted => do
    let own := (← getThe Desk).files.modeAt v.place
    return match mark with
      | '-' => own &&& wanted == wanted
      | '/' => wanted == 0 || own &&& wanted ≠ 0
      | _ => own == wanted
  | .runnable => do
    return v.node == .directory || (← getThe Desk).files.isExecutable v.place
  | .newer place => do
    let files := (← getThe Desk).files
    return files.age v.place < files.age place
  | .age measure number => return measure.holds 0 number
  | .held pattern =>
    return match v.node with
      | .link target => fitsPattern pattern false (Raw.ofString target)
      | _ => false
  | .print finish => do
    say (v.path ++ [finish])
    return true
  | .list => do
    let d ← getThe Desk
    let about (format : String) : Raw :=
      (v.format d.files d.call.clock (format.length + 1) format.toList).1
    let target := match v.node with
      | .link goal => " -> ".toList ++ escapedName (Raw.ofString goal)
      | _ => []
    say (about "%9i %6k %M %3n %-8u %-8g %8s " ++ timeText d.call.clock "%b %e %H:%M " ++
      escapedName v.path ++ target ++ ['\n'])
    return true
  | .printf format => do
    let d ← getThe Desk
    let (text, faults) := v.format d.files d.call.clock (format.length + 1) format
    for fault in faults do
      flush
      complain fault
    say text
    return true
  | .run words asks isLocal => do
    let path := if isLocal then v.localPath else v.path
    if asks then
      flush
      put 2 ("< ".toList ++ words.headD [] ++ " ... ".toList ++ v.path ++ " > ? ".toList)
      if ¬ (← isAgreed) then return false
    runFor words path
  | .runAll _ index => do
    modify fun p => { p with gathered := (index, v.path) :: p.gathered }
    return true
  | .delete => do
    if v.path = ['.'] then return true
    let isDirectory : Bool := v.node = .directory
    match ← changing fun files =>
        if isDirectory then files.removeDirectory (Raw.toString v.path)
        else files.removeOther (Raw.toString v.path) with
    | none => return true
    | some fault =>
      flush
      complain ("cannot delete ".toList ++ Quoting.forReader v.path ++ ": ".toList ++
        faultText fault)
      modify fun p => { p with isGood := false }
      return false
  | .quit => do
    modify fun p => { p with hasQuit := true }
    return true
  | .prune => do
    modify fun p => { p with isPruned := true }
    return true
  | .not query => do
    let holds ← query.apply v
    return !holds
  | .both left right => do
    if ← left.apply v then
      if (← get).hasQuit then return false
      right.apply v
    else return false
  | .either left right => do
    if ← left.apply v then return true
    if (← get).hasQuit then return false
    right.apply v
  | .after left right => do
    let _ ← left.apply v
    if (← get).hasQuit then return false
    right.apply v

/-- The programs of an expression that are run with many paths. -/
def Query.runs : Query → List (Nat × List Raw)
  | .runAll words index => [(index, words)]
  | .not query => query.runs
  | .both left right => left.runs ++ right.runs
  | .either left right => left.runs ++ right.runs
  | .after left right => left.runs ++ right.runs
  | _ => []

/-- Go through what is at a path and below it. -/
def explore (b : Bounds) (query : Query) (root : Raw) :
    Nat → Raw → Nat → StateT Progress Job Unit
  | 0, _, _ => return
  | fuel + 1, path, depth => do
    if (← get).hasQuit then return
    let files := (← getThe Desk).files
    let ownPlace := files.ownPlace (Raw.toString path)
    let led := if b.follows then
        (match files.follow (Raw.toString path) with
          | .ok place => .ok place
          | .error _ => ownPlace)
      else ownPlace
    match led with
    | .error fault =>
      flush
      complain (Quoting.forReader path ++ ": ".toList ++ faultText fault)
      modify fun p => { p with isGood := false }
    | .ok place =>
      let v : Visit := ⟨path, root, depth, place, (files.at? place).getD .directory⟩
      let test : StateT Progress Job Unit := do
        if b.least ≤ depth then
          let _ ← query.apply v
      let goDown : StateT Progress Job Unit := do
        let isNear : Bool := match b.most with
          | some most => depth < most
          | none => true
        if v.node = .directory ∧ isNear ∧ ¬ ((← get).isPruned ∧ ¬ b.isDeepFirst) then
          for name in files.children place do
            modify fun p => { p with isPruned := false }
            explore b query root fuel (below path name) (depth + 1)
      modify fun p => { p with isPruned := false }
      if b.isDeepFirst then
        goDown
        if ¬ (← get).hasQuit then test
      else
        test
        if ¬ (← get).hasQuit then goDown

/-- Go through directories. -/
def find : Job Unit := do
  let arguments := (← get).call.arguments
  let leading := arguments.takeWhile fun w => w = "-L".toList ∨ w = "-P".toList ∨ w = "-H".toList
  let arguments := arguments.drop leading.length
  let startsQuery (w : Raw) : Bool :=
    (w.head? == some '-' && w.length ≠ 1) || w == ['('] || w == ['!']
  let paths := arguments.takeWhile (!startsQuery ·)
  let words := arguments.drop paths.length
  if words.contains "--version".toList ∨ words.contains "-version".toList then
    sayLine "find (GNU findutils) 4.9.0".toList
    exit 0
  if words.contains "--help".toList ∨ words.contains "-help".toList then
    sayLine "Usage: find [-H] [-L] [-P] [-Olevel] [-D debugopts] [path...] [expression]".toList
    exit 0
  let bounds : Bounds := ⟨0, none, false, false, 0, leading.getLast? = some "-L".toList⟩
  let (query, rest, b) ← do
    if words.isEmpty then pure (Query.yes, [], bounds)
    else
      let (query, rest, b) ← (readQuery (8 * words.length + 8) 0).run (words, bounds)
      pure (query, rest, b)
  match rest with
  | [] => pure ()
  | word :: _ =>
    if word = [')'] then giveUp 1 "invalid expression; you have too many ')'".toList
    else giveUp 1 ("paths must precede expression: \x60".toList ++ word ++ ['\''])
  let whole := if b.acts then query else .both query (.print '\n')
  let fuel := (← get).files.entries.length + 4
  let mut p : Progress := ⟨true, false, false, []⟩
  for path in (if paths.isEmpty then [['.']] else paths) do
    let (_, next) ← (explore b whole path fuel path 0).run p
    p := next
  for (index, words) in query.runs do
    let own := p.gathered.reverse.filterMap fun (n, path) => if n = index then some path else none
    if ¬ own.isEmpty then
      let call := (← get).call
      let name := words.headD []
      flush
      match ← launchFault? call.environment words with
      | some fault =>
        complain (Quoting.forReader name ++ ": ".toList ++ faultText fault)
        p := { p with isGood := false }
      | none =>
        let answer ← ask (.start ⟨words ++ own, call.environment, .shared, false, [], false⟩)
        if answer.status ≠ 0 then p := { p with isGood := false }
  exitGood p.isGood

end Tool
end MakeTen
