import MakeTen.Play.Input
/-!
# Lines one at a time

A stream can be read line by line, and its lines can be taken all at once.  The two agree:
each reading gives the next of the lines and leaves a stream with those after it, and once
there is no line any more, a stream that has come to its end stays at its end.

Main results:

- Theorems `Input.segments_of_some`, `Input.segments_of_none`: the first part of a stream
  and the others.
- Theorems `Input.readLine_of_lines_cons`, `Input.readLine_of_lines_nil`: what one reading
  gives and leaves.
- Theorems `Input.readLines_of_le`, `Input.readLines_of_exhausted`: what readings in a row
  give.
-/

namespace MakeTen
namespace Input

/-! ## The first part of a stream -/

/-- The part before the first line feed, if there is a line feed behind it. -/
theorem splitLine_append {segment : List UInt8} (h : lineFeed ∉ segment) (rest : List UInt8) :
    splitLine (segment ++ lineFeed :: rest) = (segment, some rest) := by
  induction segment with
  | nil => simp [splitLine]
  | cons b segment ih =>
    rw [List.mem_cons, not_or] at h
    have hb : b ≠ lineFeed := Ne.symm h.1
    simp only [List.cons_append, splitLine, hb, if_false, ih h.2]

/-- Without a line feed there is no other part. -/
theorem splitLine_of_not_mem {segment : List UInt8} (h : lineFeed ∉ segment) :
    splitLine segment = (segment, none) := by
  induction segment with
  | nil => rfl
  | cons b segment ih =>
    rw [List.mem_cons, not_or] at h
    have hb : b ≠ lineFeed := Ne.symm h.1
    simp only [splitLine, hb, if_false, ih h.2]

/-- The parts of a stream are what the first splitting gives and the parts of the rest. -/
theorem segments_eq_of_splitLine (bytes : List UInt8) :
    (∀ segment rest, splitLine bytes = (segment, some rest) →
      segments bytes = (segment :: (segments rest).1, (segments rest).2)) ∧
      ∀ segment, splitLine bytes = (segment, none) → segments bytes = ([], segment) := by
  induction bytes with
  | nil => simp [splitLine, segments]
  | cons b bytes ih =>
    by_cases hb : b = lineFeed
    · simp only [splitLine, segments, hb, if_true]
      constructor
      · intro segment rest h
        obtain ⟨rfl, rfl⟩ : [] = segment ∧ bytes = rest := by simpa using h
        rfl
      · intro segment h
        simp at h
    · -- The byte comes in front of the first part.
      obtain ⟨first, next, hsplit⟩ : ∃ first next, splitLine bytes = (first, next) :=
        ⟨_, _, rfl⟩
      simp only [splitLine, segments, hb, if_false, hsplit, Prod.mk.injEq]
      constructor
      · rintro segment rest ⟨rfl, rfl⟩
        rw [ih.1 first rest hsplit]
      · rintro segment ⟨rfl, rfl⟩
        rw [ih.2 first hsplit]

theorem segments_of_some {bytes segment rest : List UInt8}
    (h : splitLine bytes = (segment, some rest)) :
    segments bytes = (segment :: (segments rest).1, (segments rest).2) :=
  (segments_eq_of_splitLine bytes).1 segment rest h

theorem segments_of_none {bytes segment : List UInt8} (h : splitLine bytes = (segment, none)) :
    segments bytes = ([], segment) :=
  (segments_eq_of_splitLine bytes).2 segment h

/-! ## One reading -/

theorem lines_of_some {input : Input} {segment rest : List UInt8}
    (h : splitLine input.bytes = (segment, some rest)) :
    input.lines = lineText segment :: lines { input with bytes := rest } := by
  simp only [lines, segments_of_some h, List.map_cons, List.cons_append]

theorem lines_of_none {input : Input} {segment : List UInt8}
    (h : splitLine input.bytes = (segment, none)) :
    input.lines =
      if segment.isEmpty ∨ input.ending ≠ .exhausted then [] else [restText segment] := by
  simp only [lines, segments_of_none h, List.map_nil, List.nil_append]

/-- A reading gives the next line and leaves the others. -/
theorem readLine_of_lines_cons {input : Input} {line : String} {more : List String}
    (h : input.lines = line :: more) :
    ∃ rest, input.readLine = (.ok (some line), rest) ∧ rest.lines = more ∧
      rest.ending = input.ending := by
  obtain ⟨segment, next, hsplit⟩ : ∃ segment next, splitLine input.bytes = (segment, next) :=
    ⟨_, _, rfl⟩
  cases next with
  | some rest =>
    rw [lines_of_some hsplit, List.cons.injEq] at h
    obtain ⟨rfl, hmore⟩ := h
    exact ⟨{ input with bytes := rest }, by simp only [readLine, hsplit], hmore, rfl⟩
  | none =>
    rw [lines_of_none hsplit] at h
    split at h
    · simp at h
    · rename_i hrest
      rw [not_or, Decidable.not_not] at hrest
      obtain ⟨rfl, rfl⟩ : restText segment = line ∧ [] = more := by simpa using h
      refine ⟨{ input with bytes := [] }, ?_, rfl, rfl⟩
      simp only [readLine, hsplit, hrest.2, hrest.1]
      rfl

/-- At its end a stream gives no line and stays as it is. -/
theorem readLine_of_lines_nil {input : Input} (h : input.lines = [])
    (hending : input.ending = .exhausted) : input.readLine = (.ok none, input) := by
  obtain ⟨segment, next, hsplit⟩ : ∃ segment next, splitLine input.bytes = (segment, next) :=
    ⟨_, _, rfl⟩
  cases next with
  | some rest => simp [lines_of_some hsplit] at h
  | none =>
    cases hempty : segment.isEmpty with
    | false => simp [lines_of_none hsplit, hempty, hending] at h
    | true => simp only [readLine, hsplit, hending, hempty, if_true]

/-! ## Readings in a row -/

/-- As long as there are lines, each reading gives the next one. -/
theorem readLines_of_le {input : Input} {n : Nat} (h : n ≤ input.lines.length) :
    input.readLines n = (input.lines.take n).map fun line => .ok (some line) := by
  induction n generalizing input with
  | zero => rfl
  | succ n ih =>
    cases hlines : input.lines with
    | nil => simp [hlines] at h
    | cons line more =>
      obtain ⟨rest, hread, hmore, _⟩ := readLine_of_lines_cons hlines
      have hle : n ≤ rest.lines.length := by
        rw [hlines, List.length_cons] at h
        rw [hmore]
        omega
      rw [readLines, hread, ih hle, hmore, List.take_succ_cons, List.map_cons]

/-- A stream that comes to its end gives its lines and then nothing, however often it is
read. -/
theorem readLines_of_exhausted {input : Input} (hending : input.ending = .exhausted) (n : Nat) :
    input.readLines n = ((input.lines.take n).map fun line => .ok (some line)) ++
      List.replicate (n - input.lines.length) (.ok none) := by
  induction n generalizing input with
  | zero => simp [readLines]
  | succ n ih =>
    cases hlines : input.lines with
    | nil =>
      rw [readLines, readLine_of_lines_nil hlines hending, ih hending, hlines]
      simp [List.replicate_succ]
    | cons line more =>
      obtain ⟨rest, hread, hmore, hrest⟩ := readLine_of_lines_cons hlines
      rw [readLines, hread, ih (hrest.trans hending), hmore]
      simp

end Input
end MakeTen
