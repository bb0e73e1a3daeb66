import MakeTen.Play.Input
/-!
# A reader with a buffer

Whoever asks for lines one at a time need not hold the whole stream.  A reader
puts each line together in a buffer, and keeps the buffer for the next one: it
clears it, moves bytes from the stream to it, up to the next line feed, takes
the ending of the line off and gives the text of what is left.  Whether there
was a line at all it knows only from the number of bytes that were moved.

Main definitions:

- Structure `LineReader`: a stream and the buffer of its reader.
- Function `LineReader.readUntil`: bytes go from the stream to the buffer.
- Function `LineReader.readLine`: the next line.
-/

namespace MakeTen

/-- A stream and the buffer that its lines are put together in. -/
structure LineReader where
  input : Input
  /-- The bytes that were put together last. -/
  buffer : List UInt8
  deriving Repr, DecidableEq

namespace LineReader

/-- A reader that has not read anything. -/
def ofInput (input : Input) : LineReader :=
  ⟨input, []⟩

/-- The bytes up to the first delimiter, with the delimiter, and the others.  If
there is no delimiter, these are all bytes and nothing. -/
def splitAfter (delimiter : UInt8) : List UInt8 → List UInt8 × List UInt8
  | [] => ([], [])
  | b :: bytes =>
    if b = delimiter then ([b], bytes)
    else
      let (front, rest) := splitAfter delimiter bytes
      (b :: front, rest)

/-- Move bytes from the stream to the end of the buffer, up to the first
delimiter and with it, and give their number.  Without a delimiter everything is
moved, and it depends on the end of the stream whether that is a success. -/
def readUntil (delimiter : UInt8) (r : LineReader) : Except String Nat × LineReader :=
  let (moved, rest) := splitAfter delimiter r.input.bytes
  let after : LineReader := ⟨{ r.input with bytes := rest }, r.buffer ++ moved⟩
  match r.input.ending with
  | .broken reason =>
    if moved.getLast? = some delimiter then (.ok moved.length, after) else (.error reason, after)
  | .exhausted => (.ok moved.length, after)

/-- A line without its ending: a line feed, and a carriage return if there is
one before the line feed. -/
def dropEnding (line : List UInt8) : List UInt8 :=
  if line.getLast? = some Input.lineFeed then
    if line.dropLast.getLast? = some Input.carriageReturn then line.dropLast.dropLast
    else line.dropLast
  else line

/-- The next line, or nothing if no byte is left. -/
def readLine (r : LineReader) : Except String (Option String) × LineReader :=
  match readUntil Input.lineFeed { r with buffer := [] } with
  | (.error reason, r) => (.error reason, r)
  | (.ok count, r) =>
    if count = 0 then (.ok none, r)
    else
      let line := dropEnding r.buffer
      (.ok (some (String.ofList (Utf8.decodeLossy line))), { r with buffer := line })

/-- The answers of `n` calls of `readLine` in a row. -/
def readLines : Nat → LineReader → List (Except String (Option String))
  | 0, _ => []
  | n + 1, r => (readLine r).1 :: readLines n (readLine r).2

end LineReader
end MakeTen
