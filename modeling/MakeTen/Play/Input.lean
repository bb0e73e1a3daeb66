import MakeTen.Text.Utf8
/-!
# Lines of input

Input is a stream of bytes read line by line.  A line ends with a line feed; a
carriage return directly before the line feed belongs to the ending.  What
follows the last line feed is a line as well, unless it is empty.  Bytes that
are no text come through as replacement characters, so a garbled line is just
another line.

The stream ends or breaks.  If it breaks, the bytes after the last line feed
are lost.

Main definitions:

- Structure `Input`: what is left to read.
- Function `Input.readLine`: the next line.
- Function `Input.lines`: all lines at once.
-/

namespace MakeTen

/-- What happens after the last byte of a stream. -/
inductive Ending where
  | exhausted
  /-- Reading fails, for a reason given in words. -/
  | broken (reason : String)
  deriving Repr, DecidableEq

/-- What is left to read of a stream. -/
structure Input where
  bytes : List UInt8
  ending : Ending
  deriving Repr, DecidableEq

namespace Input

/-- The byte that ends a line. -/
def lineFeed : UInt8 := 0x0A

/-- The byte that may stand before it. -/
def carriageReturn : UInt8 := 0x0D

/-- A line without the carriage return of its ending. -/
def dropReturn (segment : List UInt8) : List UInt8 :=
  if segment.getLast? = some carriageReturn then segment.dropLast else segment

/-- The text of a line that ended with a line feed. -/
def lineText (segment : List UInt8) : String :=
  String.ofList (Utf8.decodeLossy (dropReturn segment))

/-- The text of the rest after the last line feed. -/
def restText (segment : List UInt8) : String :=
  String.ofList (Utf8.decodeLossy segment)

/-! ## One line -/

/-- The bytes before the first line feed, and those after it if there is one. -/
def splitLine : List UInt8 → List UInt8 × Option (List UInt8)
  | [] => ([], none)
  | b :: bytes =>
    if b = lineFeed then ([], some bytes)
    else
      let (segment, rest) := splitLine bytes
      (b :: segment, rest)

/-- The next line, or nothing at the end of the stream. -/
def readLine (input : Input) : Except String (Option String) × Input :=
  match splitLine input.bytes with
  | (segment, some rest) => (.ok (some (lineText segment)), { input with bytes := rest })
  | (segment, none) =>
    match input.ending with
    | .broken reason => (.error reason, { input with bytes := [] })
    | .exhausted =>
      if segment.isEmpty then (.ok none, input)
      else (.ok (some (restText segment)), { input with bytes := [] })

/-- The answers of `n` calls of `readLine` in a row. -/
def readLines : Nat → Input → List (Except String (Option String))
  | 0, _ => []
  | n + 1, input => (readLine input).1 :: readLines n (readLine input).2

/-! ## All lines -/

/-- The parts of a stream that end with a line feed, and the rest. -/
def segments : List UInt8 → List (List UInt8) × List UInt8
  | [] => ([], [])
  | b :: bytes =>
    let (ended, rest) := segments bytes
    if b = lineFeed then ([] :: ended, rest)
    else
      match ended with
      | [] => ([], b :: rest)
      | segment :: others => ((b :: segment) :: others, rest)

/-- All lines of a stream. -/
def lines (input : Input) : List String :=
  let (ended, rest) := segments input.bytes
  ended.map lineText ++
    (if rest.isEmpty ∨ input.ending ≠ .exhausted then [] else [restText rest])

end Input
end MakeTen
