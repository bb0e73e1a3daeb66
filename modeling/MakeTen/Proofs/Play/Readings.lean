import Mathlib.Data.List.Infix
import MakeTen.Play.LineReader
import MakeTen.Proofs.Play.Lines
/-!
# No line is lost or invented

A reader puts all lines together in one buffer.  What is in it when a line is asked for
makes no difference, so a reader gives the lines of its stream, one at a time.

What these lines are is said without the reader.  A stream is laid out as lines that are
ended, each by a line feed with or without a carriage return before it, and a rest that is
not.  Every stream is laid out in exactly one way, and reading it gives the text of each
line in order, that of the rest if there is one, and then nothing any more.

Main results:

- Theorems `LineReader.readLine_simulates`, `LineReader.readLines_eq`: the buffer makes no
  difference to one reading, or to readings in a row.
- Structure `Input.Layout`: the lines of a stream as they stand in it.
- Theorem `Input.Layout.bytes_bijective`: every stream has one layout.
- Theorem `Input.lines_append_feed`: a line feed parts a stream in two.
- Theorem `LineReader.no_line_is_lost_or_invented`: what a reader gives.
-/

namespace MakeTen

/-! ## The buffer -/

namespace LineReader

open Input (lineFeed)

/-- The bytes that are moved are the first part of the stream, with its line feed. -/
theorem splitAfter_lineFeed (bytes : List UInt8) :
    splitAfter lineFeed bytes =
      match Input.splitLine bytes with
      | (segment, some rest) => (segment ++ [lineFeed], rest)
      | (segment, none) => (segment, []) := by
  induction bytes with
  | nil => rfl
  | cons b bytes ih =>
    simp only [splitAfter, Input.splitLine, ih]
    split
    · rename_i hb
      rw [hb]
      rfl
    · obtain ⟨segment, next⟩ := Input.splitLine bytes
      cases next <;> rfl

/-- The ending of a line is its line feed and what may stand before it. -/
theorem dropEnding_append (segment : List UInt8) :
    dropEnding (segment ++ [lineFeed]) = Input.dropReturn segment := by
  rw [dropEnding, List.getLast?_concat, if_pos rfl, List.dropLast_concat, Input.dropReturn]

theorem dropEnding_of_not_mem {segment : List UInt8} (h : lineFeed ∉ segment) :
    dropEnding segment = segment :=
  if_neg fun hlast => h (List.mem_of_getLast? hlast)

/-- A line that is ended is given without its ending, and what comes after it is left. -/
theorem readLine_append {segment : List UInt8} (h : lineFeed ∉ segment) (rest : List UInt8)
    (ending : Ending) (buffer : List UInt8) :
    readLine ⟨⟨segment ++ lineFeed :: rest, ending⟩, buffer⟩ =
      (.ok (some (Input.lineText segment)), ⟨⟨rest, ending⟩, Input.dropReturn segment⟩) := by
  have hmoved : readUntil lineFeed ⟨⟨segment ++ lineFeed :: rest, ending⟩, []⟩ =
      (.ok (segment.length + 1), ⟨⟨rest, ending⟩, segment ++ [lineFeed]⟩) := by
    simp only [readUntil, splitAfter_lineFeed, Input.splitLine_append h, List.getLast?_concat,
      if_true, List.nil_append, List.length_append, List.length_singleton]
    cases ending <;> rfl
  simp only [readLine, hmoved, Nat.succ_ne_zero, if_false, dropEnding_append, Input.lineText]

/-- What is not ended is given as it is, unless it is empty. -/
theorem readLine_of_not_mem {rest : List UInt8} (h : lineFeed ∉ rest) (buffer : List UInt8) :
    readLine ⟨⟨rest, .exhausted⟩, buffer⟩ =
      (.ok (if rest = [] then none else some (Input.restText rest)), ⟨⟨[], .exhausted⟩, rest⟩) := by
  have hmoved : readUntil lineFeed ⟨⟨rest, .exhausted⟩, []⟩ =
      (.ok rest.length, ⟨⟨[], .exhausted⟩, rest⟩) := by
    simp only [readUntil, splitAfter_lineFeed, Input.splitLine_of_not_mem h, List.nil_append]
  by_cases hempty : rest = []
  · subst hempty
    rfl
  · simp only [readLine, hmoved, List.length_eq_zero_iff, hempty, if_false,
      dropEnding_of_not_mem h, Input.restText]

/-- Nothing that is not ended is given if the stream breaks. -/
theorem readLine_of_broken {rest : List UInt8} (h : lineFeed ∉ rest) (reason : String)
    (buffer : List UInt8) :
    readLine ⟨⟨rest, .broken reason⟩, buffer⟩ =
      (.error reason, ⟨⟨[], .broken reason⟩, rest⟩) := by
  have hlast : rest.getLast? ≠ some lineFeed := fun hlast => h (List.mem_of_getLast? hlast)
  have hmoved : readUntil lineFeed ⟨⟨rest, .broken reason⟩, []⟩ =
      (.error reason, ⟨⟨[], .broken reason⟩, rest⟩) := by
    simp only [readUntil, splitAfter_lineFeed, Input.splitLine_of_not_mem h, hlast, if_false,
      List.nil_append]
  simp only [readLine, hmoved]

/-- A reading with a buffer is a reading of the stream, whatever is in the buffer. -/
theorem readLine_simulates (r : LineReader) :
    (r.readLine.1, r.readLine.2.input) = r.input.readLine := by
  obtain ⟨⟨bytes, ending⟩, buffer⟩ := r
  by_cases hfeed : lineFeed ∈ bytes
  · obtain ⟨segment, rest, rfl, hsegment⟩ := List.eq_append_cons_of_mem hfeed
    simp only [readLine_append hsegment, Input.readLine, Input.splitLine_append hsegment]
  · cases ending with
    | exhausted =>
      simp only [readLine_of_not_mem hfeed, Input.readLine, Input.splitLine_of_not_mem hfeed]
      cases bytes <;> simp
    | broken reason =>
      simp only [readLine_of_broken hfeed, Input.readLine, Input.splitLine_of_not_mem hfeed]

/-- So it is for readings in a row. -/
theorem readLines_eq (r : LineReader) (n : Nat) : r.readLines n = r.input.readLines n := by
  induction n generalizing r with
  | zero => rfl
  | succ n ih =>
    rw [readLines, ih, Input.readLines, ← readLine_simulates r]

/-- A reader on a stream that comes to its end gives the lines and then nothing. -/
theorem readLines_exhausted (bytes buffer : List UInt8) (n : Nat) :
    readLines n ⟨⟨bytes, .exhausted⟩, buffer⟩ =
      (((Input.lines ⟨bytes, .exhausted⟩).take n).map fun line => .ok (some line)) ++
        List.replicate (n - (Input.lines ⟨bytes, .exhausted⟩).length) (.ok none) :=
  (readLines_eq _ n).trans (Input.readLines_of_exhausted rfl n)

/-- Nothing is given only at the end of the stream. -/
theorem readLine_eq_none_iff (r : LineReader) :
    r.readLine.1 = .ok none ↔ r.input = ⟨[], .exhausted⟩ := by
  obtain ⟨⟨bytes, ending⟩, buffer⟩ := r
  by_cases hfeed : lineFeed ∈ bytes
  · obtain ⟨segment, rest, rfl, hsegment⟩ := List.eq_append_cons_of_mem hfeed
    simp [readLine_append hsegment]
  · cases ending with
    | exhausted => simp [readLine_of_not_mem hfeed]
    | broken reason => simp [readLine_of_broken hfeed]

end LineReader

/-! ## Layouts of streams -/

namespace Input

/-- A line that is ended. -/
structure EndedLine where
  content : List UInt8
  hasReturn : Bool
  feed_not_mem : lineFeed ∉ content
  /-- A carriage return before the line feed belongs to the ending. -/
  no_return : hasReturn = false → content.getLast? ≠ some carriageReturn

namespace EndedLine

/-- What stands before the line feed. -/
def segment (l : EndedLine) : List UInt8 :=
  l.content ++ if l.hasReturn then [carriageReturn] else []

/-- The line as it stands in a stream. -/
def bytes (l : EndedLine) : List UInt8 :=
  l.segment ++ [lineFeed]

/-- The text of the line. -/
def text (l : EndedLine) : String :=
  String.ofList (Utf8.decodeLossy l.content)

theorem feed_not_mem_segment (l : EndedLine) : lineFeed ∉ l.segment := by
  have hreturn : lineFeed ≠ carriageReturn := by decide
  rw [segment, List.mem_append, not_or]
  refine ⟨l.feed_not_mem, ?_⟩
  split <;> simp [hreturn]

@[simp]
theorem dropReturn_segment (l : EndedLine) : dropReturn l.segment = l.content := by
  cases hreturn : l.hasReturn with
  | true => simp [segment, dropReturn, hreturn]
  | false => simp [segment, dropReturn, hreturn, l.no_return hreturn]

@[simp]
theorem lineText_segment (l : EndedLine) : lineText l.segment = l.text := by
  rw [lineText, dropReturn_segment, text]

/-- What stands before the line feed says what the line is and how it is ended. -/
theorem segment_injective : Function.Injective segment := by
  intro l l' h
  have hcontent : l.content = l'.content := by
    rw [← l.dropReturn_segment, h, l'.dropReturn_segment]
  have hreturn : l.hasReturn = l'.hasReturn := by
    rw [segment, segment, hcontent] at h
    have hend := List.append_cancel_left h
    revert hend
    cases l.hasReturn <;> cases l'.hasReturn <;> simp
  cases l
  cases l'
  simp only at hcontent hreturn
  subst hcontent hreturn
  rfl

/-- Whatever stands before a line feed is a line. -/
theorem exists_segment_eq {bytes : List UInt8} (h : lineFeed ∉ bytes) :
    ∃ l : EndedLine, l.segment = bytes := by
  by_cases hlast : bytes.getLast? = some carriageReturn
  · have hfront : lineFeed ∉ bytes.dropLast := fun hmem => h (List.mem_of_mem_dropLast hmem)
    refine ⟨⟨bytes.dropLast, true, hfront, nofun⟩, ?_⟩
    exact List.dropLast_append_getLast? carriageReturn hlast
  · exact ⟨⟨bytes, false, h, fun _ => hlast⟩, List.append_nil bytes⟩

end EndedLine

/-- The lines of a stream as they stand in it: those that are ended, and the rest. -/
structure Layout where
  ended : List EndedLine
  rest : List UInt8
  feed_not_mem : lineFeed ∉ rest

namespace Layout

/-- The stream that is laid out. -/
def bytes (s : Layout) : List UInt8 :=
  s.ended.flatMap EndedLine.bytes ++ s.rest

/-- The texts of the lines; the rest is a line as well, unless it is empty. -/
def texts (s : Layout) : List String :=
  s.ended.map EndedLine.text ++
    if s.rest = [] then [] else [String.ofList (Utf8.decodeLossy s.rest)]

/-- The parts of a stream are those of its layout. -/
theorem segments_bytes (s : Layout) :
    segments s.bytes = (s.ended.map EndedLine.segment, s.rest) := by
  obtain ⟨ended, rest, hrest⟩ := s
  induction ended with
  | nil => exact segments_of_none (splitLine_of_not_mem hrest)
  | cons l ended ih =>
    have hsplit : splitLine (bytes ⟨l :: ended, rest, hrest⟩) =
        (l.segment, some (bytes ⟨ended, rest, hrest⟩)) := by
      have hfirst := splitLine_append l.feed_not_mem_segment (bytes ⟨ended, rest, hrest⟩)
      simpa [bytes, EndedLine.bytes] using hfirst
    rw [segments_of_some hsplit, ih, List.map_cons]

/-- A stream is laid out in one way only. -/
theorem bytes_injective : Function.Injective bytes := by
  intro s s' h
  have hparts : (s.ended.map EndedLine.segment, s.rest) =
      (s'.ended.map EndedLine.segment, s'.rest) := by
    rw [← segments_bytes, h, segments_bytes]
  rw [Prod.mk.injEq] at hparts
  have hended : s.ended = s'.ended :=
    List.map_injective_iff.2 EndedLine.segment_injective hparts.1
  cases s
  cases s'
  simp only at hended hparts
  obtain rfl := hended
  obtain rfl := hparts.2
  rfl

/-- Every stream is laid out in some way. -/
theorem exists_bytes_eq (stream : List UInt8) : ∃ s : Layout, s.bytes = stream := by
  by_cases hfeed : lineFeed ∈ stream
  · obtain ⟨segment, rest, rfl, hsegment⟩ := List.eq_append_cons_of_mem hfeed
    obtain ⟨l, hl⟩ := EndedLine.exists_segment_eq hsegment
    obtain ⟨s, hs⟩ := exists_bytes_eq rest
    refine ⟨⟨l :: s.ended, s.rest, s.feed_not_mem⟩, ?_⟩
    simp [bytes, EndedLine.bytes, hl, ← hs]
  · exact ⟨⟨[], stream, hfeed⟩, rfl⟩
termination_by stream.length

theorem bytes_bijective : Function.Bijective bytes :=
  ⟨bytes_injective, exists_bytes_eq⟩

/-- Each line takes at least one byte. -/
theorem length_texts_le (s : Layout) : s.texts.length ≤ s.bytes.length := by
  obtain ⟨ended, rest, hrest⟩ := s
  induction ended with
  | nil =>
    by_cases hempty : rest = []
    · simp [texts, hempty]
    · have hpos : 1 ≤ rest.length := List.length_pos_iff.2 hempty
      simpa [texts, bytes, hempty] using hpos
  | cons l ended ih =>
    have htexts : (texts ⟨l :: ended, rest, hrest⟩).length =
        (texts ⟨ended, rest, hrest⟩).length + 1 := rfl
    have hbytes : (bytes ⟨l :: ended, rest, hrest⟩).length =
        l.bytes.length + (bytes ⟨ended, rest, hrest⟩).length := by
      simp [bytes]
    have hpos : 1 ≤ l.bytes.length := by simp [EndedLine.bytes]
    omega

/-- The lines of a stream that comes to its end are the texts of its layout. -/
theorem lines_bytes (s : Layout) : lines ⟨s.bytes, .exhausted⟩ = s.texts := by
  have htext : lineText ∘ EndedLine.segment = EndedLine.text :=
    funext EndedLine.lineText_segment
  simp only [lines, segments_bytes, texts, List.map_map, htext, restText, List.isEmpty_iff,
    ne_eq, not_true_eq_false, or_false]

end Layout

/-! ## Streams in two parts -/

/-- A line feed ends a line, so that the lines before it and those after it are apart. -/
theorem lines_append_feed (front back : List UInt8) :
    lines ⟨front ++ lineFeed :: back, .exhausted⟩ =
      lines ⟨front ++ [lineFeed], .exhausted⟩ ++ lines ⟨back, .exhausted⟩ := by
  obtain ⟨s, rfl⟩ := Layout.exists_bytes_eq front
  obtain ⟨last, hlast⟩ := EndedLine.exists_segment_eq s.feed_not_mem
  -- The line feed makes a line of the rest of the front.
  have happend : ∀ t : Layout, lines ⟨s.bytes ++ lineFeed :: t.bytes, .exhausted⟩ =
      (s.ended ++ [last]).map EndedLine.text ++ t.texts := by
    intro t
    let whole : Layout := ⟨s.ended ++ last :: t.ended, t.rest, t.feed_not_mem⟩
    have hwhole : s.bytes ++ lineFeed :: t.bytes = whole.bytes := by
      simp [whole, Layout.bytes, EndedLine.bytes, hlast]
    rw [hwhole, Layout.lines_bytes]
    simp [whole, Layout.texts]
  have hfront : lines ⟨s.bytes ++ [lineFeed], .exhausted⟩ =
      (s.ended ++ [last]).map EndedLine.text :=
    (happend ⟨[], [], List.not_mem_nil⟩).trans (List.append_nil _)
  obtain ⟨t, rfl⟩ := Layout.exists_bytes_eq back
  rw [happend t, Layout.lines_bytes, hfront]

end Input

/-! ## Main theorem -/

namespace LineReader

open Input (Layout lineFeed)

/-- Whether an answer is a line. -/
def isLine : Except String (Option String) → Bool
  | .ok (some _) => true
  | _ => false

/-- How many lines a reader that starts on a stream gives in some calls. -/
def lineCount (calls : Nat) (bytes : List UInt8) : Nat :=
  ((ofInput ⟨bytes, .exhausted⟩).readLines calls).countP isLine

theorem lineCount_eq (calls : Nat) (bytes : List UInt8) :
    lineCount calls bytes = min calls (Input.lines ⟨bytes, .exhausted⟩).length := by
  have hsome : (isLine ∘ fun line => .ok (some line)) = fun _ : String => true := rfl
  have hnone : ∀ n, (List.replicate n (.ok none)).countP isLine = 0 := fun n =>
    List.countP_replicate.trans (if_neg Bool.false_ne_true)
  rw [lineCount, ofInput, readLines_exhausted, List.countP_append, List.countP_map, hsome,
    List.countP_true, List.length_take, hnone, Nat.add_zero]

/-- Enough calls give all lines. -/
theorem lineCount_of_le {calls : Nat} {bytes : List UInt8} (h : bytes.length ≤ calls) :
    lineCount calls bytes = (Input.lines ⟨bytes, .exhausted⟩).length := by
  obtain ⟨s, rfl⟩ := Layout.exists_bytes_eq bytes
  rw [lineCount_eq, Layout.lines_bytes, Nat.min_eq_right (s.length_texts_le.trans h)]

/-- No line is lost, merged with another one or invented.

Every stream of bytes is laid out in exactly one way as lines that are ended by a line feed,
or by a carriage return and a line feed, and a rest without a line feed.  However often a
reader is asked for a line, and whatever is in its buffer, it gives the texts of these lines
in order, an empty text for an empty line, then that of the rest unless the rest is empty,
and after that nothing, each time.  It gives nothing only if its stream has no byte left and
is at its end.  The buffer makes no difference on a stream that breaks, either.

If a line feed parts a stream in two, there are as many lines in it as in its first part,
with the line feed, and in its second one, as soon as there is a call for each byte. -/
theorem no_line_is_lost_or_invented :
    Function.Bijective Layout.bytes ∧
      (∀ (s : Layout) (buffer : List UInt8) (n : Nat),
        readLines n ⟨⟨s.bytes, .exhausted⟩, buffer⟩ =
          ((s.texts.take n).map fun text => .ok (some text)) ++
            List.replicate (n - s.texts.length) (.ok none)) ∧
      (∀ r : LineReader, r.readLine.1 = .ok none ↔ r.input = ⟨[], .exhausted⟩) ∧
      (∀ (r : LineReader) (n : Nat), r.readLines n = r.input.readLines n) ∧
      ∀ (front back : List UInt8) (more : Nat),
        let calls := front.length + 1 + back.length + more
        lineCount calls (front ++ lineFeed :: back) =
          lineCount calls (front ++ [lineFeed]) + lineCount calls back := by
  refine ⟨Layout.bytes_bijective, ?_, readLine_eq_none_iff, readLines_eq, ?_⟩
  · intro s buffer n
    rw [readLines_exhausted, Layout.lines_bytes]
  · intro front back more calls
    have hwhole : (front ++ lineFeed :: back).length ≤ calls := by
      simp only [calls, List.length_append, List.length_cons]
      omega
    have hfront : (front ++ [lineFeed]).length ≤ calls := by
      simp only [calls, List.length_append, List.length_singleton]
      omega
    have hback : back.length ≤ calls := by
      omega
    rw [lineCount_of_le hwhole, lineCount_of_le hfront, lineCount_of_le hback,
      Input.lines_append_feed, List.length_append]

/-- An empty line, one of a carriage return, two that end in different ways, and a rest with
a carriage return. -/
example : readLines 7 ⟨⟨Utf8.encodeString "\n\r\r\n01\r\n\n02\r", .exhausted⟩, [0x21]⟩ =
    [.ok (some ""), .ok (some "\r"), .ok (some "01"), .ok (some ""), .ok (some "02\r"),
      .ok none, .ok none] := by
  decide

end LineReader
end MakeTen
