import MakeTen.Text.Filling
import MakeTen.Tool.Options
/-!
# Filling paragraphs

The program `fmt` fills the paragraphs of a text.  A paragraph is made of lines that
start at the same column, perhaps after a mark that all of them have in front; other
lines are kept as they are.

Main definitions:

- Structure `Tool.FillStyle`: which lines belong together and how they are filled.
- Function `Tool.fillText`: a text with its paragraphs filled.
- Function `Tool.fmt`: the program.
-/

namespace MakeTen
namespace Tool

/-- Which lines make a paragraph. -/
inductive ParagraphKind where
  /-- All lines start at the same column. -/
  | plain
  /-- The first line may start elsewhere. -/
  | crown
  /-- The first line starts elsewhere. -/
  | tagged
  /-- Each line is one. -/
  | split
  deriving DecidableEq

/-- How paragraphs are filled. -/
structure FillStyle where
  kind : ParagraphKind
  /-- Whether there is one blank between words, and two after a sentence. -/
  isUniform : Bool
  limit : Nat
  goal : Nat
  /-- What lines have in front: blanks, a mark, and the width of the mark with blanks
  after it. -/
  lead : Nat
  mark : Raw
  markWidth : Nat

/-- The style with the mark that lines have in front. -/
def FillStyle.withMark (s : FillStyle) (raw : Raw) : FillStyle :=
  let body := raw.dropWhile (· = ' ')
  { s with
    lead := raw.length - body.length
    mark := Raw.dropEnd (· = ' ') body
    markWidth := body.length }

/-- A text on its way. -/
structure Filler where
  style : FillStyle
  /-- What has not been read; the next character is on some column. -/
  rest : Raw
  column : Nat
  hasTabs : Bool
  /-- The blanks in front of the mark on this line. -/
  indent : Nat
  /-- The same of the paragraph, and where its first line and the others start. -/
  paragraphIndent : Nat
  first : Nat
  other : Nat
  /-- The words of the paragraph, the latest first, and how many and how long they are. -/
  words : List Filling.Word
  count : Nat
  size : Nat
  /-- The length of the line that was written last in the paragraph, or zero. -/
  lineLength : Nat
  /-- What is written, the latest first. -/
  output : List Raw

/-- Steps of filling. -/
abbrev Fill := StateM Filler

/-- Write a text. -/
def emit (raw : Raw) : Fill Unit :=
  modify fun s => { s with output := raw :: s.output }

/-- Go past blanks. -/
def skipBlanks : Fill Unit :=
  modify fun s =>
    let blanks := s.rest.takeWhile Raw.isBlank
    { s with
      rest := s.rest.drop blanks.length
      column := blanks.foldl (fun n c => if c = '\t' then (n / 8 + 1) * 8 else n + 1) s.column
      hasTabs := s.hasTabs || blanks.contains '\t' }

/-- How many characters two texts have in common at their start. -/
def commonStart : Raw → Raw → Nat
  | a :: s, b :: t => if a = b then commonStart s t + 1 else 0
  | _, _ => 0

/-- Go past what a line has in front. -/
def enterLine : Fill Unit := do
  modify fun s => { s with column := 0 }
  skipBlanks
  let s ← get
  if s.style.mark.isEmpty then set { s with indent := min s.style.lead s.column }
  else
    let n := commonStart s.style.mark s.rest
    set { s with indent := s.column, column := s.column + n, rest := s.rest.drop n }
    if n = s.style.mark.length then skipBlanks

/-- Whether nothing follows on the line. -/
def Filler.isAtEnd (s : Filler) : Bool :=
  s.rest.head?.all (· == '\n')

/-- Whether the line goes on with the paragraph. -/
def Filler.isSame (s : Filler) : Bool :=
  s.indent == s.paragraphIndent && s.indent + s.style.markWidth ≤ s.column && !s.isAtEnd

/-- Choose where lines after the first one start. -/
def chooseIndent (isSame : Bool) : Fill Unit :=
  modify fun s =>
    let other := match s.style.kind with
      | .split => s.first
      | .crown => if isSame then s.column else s.first
      | .tagged =>
        if isSame ∧ s.column ≠ s.first then s.column
        else if s.other = s.first then (if s.first = 0 then 3 else 0)
        else s.other
      | .plain => s.first
    { s with other }

/-- The measures of the lines of the paragraph. -/
def Filler.measure (s : Filler) : Filling.Measure :=
  ⟨s.style.limit, s.style.goal, s.first, s.other, s.lineLength⟩

/-- Write a line of words. -/
def emitLine (indent : Nat) (words : List Filling.Word) : Fill Unit := do
  let s ← get
  let start := Filling.spacing s.hasTabs 0 s.paragraphIndent
  let column := s.paragraphIndent + s.style.mark.length
  let gap := Filling.spacing s.hasTabs column (indent - column)
  let add (done : List Raw × Nat) (w : Filling.Word) : List Raw × Nat :=
    let column := done.2 + w.length
    (Filling.spacing s.hasTabs column w.space :: w.text :: done.1, column + w.space)
  let (pieces, _) := words.dropLast.foldl add ([], max column indent)
  let last := (words.getLast?.map Filling.Word.text).getD []
  let width := words.dropLast.foldl (fun n w => n + w.length + w.space) (max column indent)
  emit (start ++ s.style.mark ++ gap ++ pieces.reverse.flatten ++ last ++ ['\n'])
  modify fun s => { s with lineLength := width + last.length }

/-- Write lines of a paragraph, the first of which may start elsewhere. -/
def emitLines (lines : List (List Filling.Word)) : Fill Unit := do
  for (line, n) in lines.zipIdx do
    let s ← get
    emitLine (if n = 0 then s.first else s.other) line

/-- Write a part of a paragraph that has grown too long; `partialWord` is the start of a
word, which stays. -/
def shedLines (partialWord : Nat) : Fill Unit := do
  let s ← get
  let lines := Filling.lines (Filling.plan s.measure s.words.reverse)
  let settled := Filling.settled lines
  emitLines ((lines.take settled).map Prod.fst)
  let words := ((lines.drop settled).map Prod.fst).flatten
  modify fun s =>
    { s with
      words := words.reverse
      count := words.length
      size := (words.map Filling.Word.length).foldl (· + ·) 0 + partialWord }

/-- How many characters of words a paragraph may have at a time. -/
def paragraphLimit : Nat := 5000

/-- How many words a paragraph may have at a time. -/
def wordLimit : Nat := 998

/-- Read the rest of a word, given its start in reverse. -/
def readWord (done : Raw) : Nat → Fill Raw
  | 0 => return done
  | fuel + 1 => do
    let s ← get
    match s.rest with
    | [] => return done
    | c :: rest =>
      if Raw.isSpace c ∧ ¬ done.isEmpty then return done
      else if s.size = paragraphLimit then
        chooseIndent true
        if s.words.isEmpty then
          emit done.reverse
          modify fun s => { s with size := 0 }
          modify fun s => { s with rest, size := s.size + 1 }
          readWord [c] fuel
        else
          shedLines done.length
          modify fun s => { s with rest, size := s.size + 1 }
          readWord (c :: done) fuel
      else
        set { s with rest, size := s.size + 1 }
        readWord (c :: done) fuel

/-- Read the words of a line and go on to the next one. -/
def readWords : Nat → Fill Unit
  | 0 => pure ()
  | fuel + 1 => do
    let reversed ← readWord [] ((← get).rest.length + 1)
    let word := Filling.Word.ofReverse reversed
    modify fun s => { s with column := s.column + word.length }
    let start := (← get).column
    skipBlanks
    let s ← get
    let space := s.column - start
    let isFinal := s.rest.isEmpty || (word.hasPeriod && (s.isAtEnd || 1 < space))
    let space := if s.isAtEnd ∨ s.style.isUniform then (if isFinal then 2 else 1) else space
    let word := { word with space, isFinal }
    if s.count = wordLimit then
      chooseIndent true
      shedLines word.length
    modify fun s => { s with words := word :: s.words, count := s.count + 1 }
    if (← get).isAtEnd then
      modify fun s => { s with rest := s.rest.drop 1 }
      enterLine
    else readWords fuel

/-- Read lines as long as they belong to the paragraph. -/
def readMore (startsThere : Bool) : Nat → Fill Unit
  | 0 => pure ()
  | fuel + 1 => do
    let s ← get
    if s.isSame ∧ (¬ startsThere ∨ s.column = s.other) then
      readWords (s.rest.length + 1)
      readMore true fuel

/-- Write the rest of a line that belongs to no paragraph. -/
def copyLine : Fill Unit := do
  let s ← get
  if s.indent < s.column ∨ ¬ s.isAtEnd then
    let shownMark := s.style.mark.take (s.column - s.indent)
    let column := s.indent + shownMark.length
    emit (Filling.spacing s.hasTabs 0 s.indent ++ shownMark)
    if ¬ s.isAtEnd then emit (Filling.spacing s.hasTabs column (s.column - column))
    if s.rest.isEmpty ∧ s.indent + s.style.mark.length ≤ s.column then emit ['\n']
  let line := s.rest.takeWhile (· ≠ '\n')
  emit line
  modify fun s => { s with rest := s.rest.drop line.length }

/-- Fill the paragraphs of what has not been read. -/
def fillParagraphs : Nat → Fill Unit
  | 0 => pure ()
  | fuel + 1 => do
    let s ← get
    if s.isAtEnd ∨ s.indent < s.style.lead ∨ s.column < s.indent + s.style.markWidth then
      copyLine
      match (← get).rest with
      | [] => pure ()
      | _ :: rest =>
        emit ['\n']
        modify fun s => { s with rest, lineLength := 0 }
        enterLine
        fillParagraphs fuel
    else
      set { s with
        paragraphIndent := s.indent, first := s.column, words := [], count := 0, size := 0,
        lineLength := 0 }
      readWords (s.rest.length + 1)
      let s ← get
      chooseIndent s.isSame
      match s.style.kind with
      | .split => pure ()
      | .crown => readMore false (s.rest.length + 1)
      | .tagged => if s.column ≠ s.first then readMore false (s.rest.length + 1)
      | .plain => readMore true (s.rest.length + 1)
      modify fun s => match s.words with
        | w :: words => { s with words := { w with hasPeriod := true, isFinal := true } :: words }
        | [] => s
      let s ← get
      emitLines ((Filling.lines (Filling.plan s.measure s.words.reverse)).map Prod.fst)
      fillParagraphs fuel

/-- A text with its paragraphs filled. -/
def fillText (style : FillStyle) (raw : Raw) : Raw :=
  let start : Filler := ⟨style, raw, 0, false, 0, 0, 0, 0, [], 0, 0, 0, []⟩
  let filling : Fill Unit := do
    enterLine
    fillParagraphs (raw.length + 2)
  (filling.run start).2.output.reverse.flatten

/-- The width that an option asks for. -/
def readWidth (limit : Nat) (raw : Raw) : Job Nat :=
  numberWithin "invalid width" 0 limit "" raw

/-- Fill paragraphs. -/
def fmt : Job Unit := do
  let known := "c,crown-margin p,prefix: s,split-only t,tagged-paragraph u,uniform-spacing " ++
    "w,width: g,goal:"
  let arguments := (← get).call.arguments
  let (digits, arguments) : Option Raw × List Raw := match arguments with
    | ('-' :: c :: more) :: rest => if c.isDigit then (some (c :: more), rest) else (none, arguments)
    | _ => (none, arguments)
  match chosenOf known true arguments with
  | .error (.unknownLetter c) =>
    if c.isDigit then
      complain ("invalid option -- ".toList ++ c ::
        "; -WIDTH is recognized only when it is the first\noption; use -w N instead".toList)
      grumble ("Try '".toList ++ (← get).call.name ++ " --help' for more information.".toList)
      exit 1
  | _ => pure ()
  let o ← optionsOf known true 1 arguments
  let asked := (o.value? "w").or digits
  let limit ← match asked with
    | some raw => readWidth 2500 raw
    | none => pure 75
  let (limit, goal) ← match o.value? "g" with
    | some raw =>
      let goal ← readWidth limit raw
      pure (if asked.isSome then limit else goal + 10, goal)
    | none => pure (limit, limit * 187 / 200)
  let kind : ParagraphKind := if o.has "s" then .split else if o.has "c" then .crown
    else if o.has "t" then .tagged else .plain
  let style : FillStyle := ⟨kind, o.has "u", limit, goal, 0, [], 0⟩
  let style := style.withMark ((o.value? "p").getD [])
  let mut isGood := true
  for path in o.files do
    match ← operand path with
    | .ok raw => say (fillText style raw)
    | .error fault =>
      flush
      isGood := false
      if failsReading fault then complain "read error".toList
      else
        complain ("cannot open ".toList ++ named path ++ " for reading: ".toList ++
          faultText fault)
  exitClosing isGood o.files "closing standard input"

end Tool
end MakeTen
