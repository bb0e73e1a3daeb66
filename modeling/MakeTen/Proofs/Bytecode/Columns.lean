import MakeTen.Proofs.Bytecode.Layout
/-!
# Where the columns of a listing begin

The cells of the bytes column are all made as wide as the widest of them asks for, so that
the last column begins equally far behind the bytes on every line.  The offsets in front of
the bytes are written with two digits at least, but they are not made equally wide.  From
offset 256 on they have a digit more, which moves all that stands behind it.  So the columns
line up as long as every instruction begins within the first 256 bytes, and no longer.

Main results:

- Functions `Listing.hexStart`, `Listing.textStart`: where the columns of a line begin.
- Predicate `Listing.LinesUp`: the columns begin at the same place on every line.
- Theorem `Listing.length_natUpper_eq_two_iff`: which offsets have two digits.
- Theorem `Listing.linesUp_render_iff`: which listings line up.
- Theorem `Listing.columns_line_up_iff_offsets_short`: what holds of the columns of any
  listing, and when they line up.
-/

namespace MakeTen
namespace Listing

/-! ## Columns of a line -/

/-- Number of characters in front of the bytes column of a line. -/
def hexStart (line : List Char) : Nat :=
  line.length - (behindBlanks line).length

/-- Number of characters in front of the last column of a line. -/
def textStart (line : List Char) : Nat :=
  line.length - (behindBlanks (behindBlanks line)).length

/-- Number of blanks behind the bytes of a line. -/
def blanksBehindHex (line : List Char) : Nat :=
  textStart line - (hexStart line + (cells line).2.1.length)

/-- The columns begin at the same place on every line, and no bytes come near to what is
behind them. -/
structure LinesUp (listing : String) : Prop where
  /-- The bytes columns begin at the same place. -/
  hexStart_eq : ∀ a ∈ lines listing, ∀ b ∈ lines listing, hexStart a = hexStart b
  /-- The last columns begin at the same place. -/
  textStart_eq : ∀ a ∈ lines listing, ∀ b ∈ lines listing, textStart a = textStart b
  /-- All bytes have the gap behind them, the widest among them. -/
  gap_le : ∀ line ∈ lines listing, gap ≤ blanksBehindHex line

/-! ## Lines of instructions -/

section Line

variable (width : Nat) (i : Instruction)

/-- Behind the first blanks of a line stand its bytes. -/
theorem behindBlanks_lineText :
    behindBlanks (lineText width (row i)) = (Hex.upper i.bytes).toList ++
      (List.replicate (width - (Hex.upper i.bytes).length + 1) ' ' ++ i.text.toList) := by
  refine behindBlanks_append_replicate ((isWord_natUpper i.pc).not_mem (by decide)) ?_ 5
  change ((Hex.upper i.bytes).toList ++ _).head? ≠ some ' '
  rw [List.head?_append_of_ne_nil _ i.toList_upper_bytes_ne_nil]
  exact (isWord_upper i.bytes).head?_ne (by decide)

/-- Behind the next blanks stands its text. -/
theorem behindBlanks_behindBlanks_lineText :
    behindBlanks (behindBlanks (lineText width (row i))) = i.text.toList := by
  rw [behindBlanks_lineText]
  exact behindBlanks_append_replicate ((isWord_upper i.bytes).not_mem (by decide))
    i.head?_toList_text _

theorem length_lineText :
    (lineText width (row i)).length = (Hex.natUpper i.pc).length + 6 +
      (behindBlanks (lineText width (row i))).length := by
  rw [behindBlanks_lineText, lineText, row]
  simp only [List.length_append, List.length_replicate, String.length_toList]
  omega

/-- The bytes column stands behind the offset and six blanks. -/
theorem hexStart_lineText :
    hexStart (lineText width (row i)) = (Hex.natUpper i.pc).length + 6 := by
  rw [hexStart, length_lineText]
  omega

variable {width}

/-- If the bytes have room in their column, the last column stands behind this column and a
blank. -/
theorem textStart_lineText (h : (Hex.upper i.bytes).length ≤ width) :
    textStart (lineText width (row i)) = hexStart (lineText width (row i)) + (width + 1) := by
  rw [textStart, behindBlanks_behindBlanks_lineText, hexStart_lineText, length_lineText,
    behindBlanks_lineText]
  simp only [List.length_append, List.length_replicate, String.length_toList]
  omega

/-- What the bytes do not take of their column is blank. -/
theorem blanksBehindHex_lineText (h : (Hex.upper i.bytes).length ≤ width) :
    blanksBehindHex (lineText width (row i)) = width + 1 - (Hex.upper i.bytes).length := by
  rw [blanksBehindHex, textStart_lineText i h, cells_lineText, String.length_toList]
  omega

end Line

/-! ## Width of the bytes column -/

/-- A maximum is not exceeded. -/
theorem le_foldl_max {ns : List Nat} {start n : Nat} (h : n ≤ start ∨ n ∈ ns) :
    n ≤ ns.foldl max start := by
  induction ns generalizing start with
  | nil => simpa using h
  | cons m ns ih =>
    rw [List.foldl_cons]
    apply ih
    rw [List.mem_cons] at h
    rcases h with hstart | rfl | hmem
    · exact .inl (Nat.le_trans hstart (Nat.le_max_left _ _))
    · exact .inl (Nat.le_max_right _ _)
    · exact .inr hmem

/-- The bytes of an instruction have room in the column, and the gap behind them. -/
theorem length_upper_add_gap_le_width {is : List Instruction} {i : Instruction} (h : i ∈ is) :
    (Hex.upper i.bytes).length + gap ≤ width (rows is) := by
  have hmem : (Hex.upper i.bytes).length ∈ (rows is).map (·.hex.length) :=
    List.mem_map.2 ⟨row i, List.mem_map.2 ⟨i, h, rfl⟩, rfl⟩
  exact Nat.add_le_add_right (le_foldl_max (.inr hmem)) gap

/-! ## Whole listings -/

/-- What holds of the lines of a listing, said of its instructions. -/
theorem forall_mem_lines_render {is : List Instruction} {p : List Char → Prop} :
    (∀ line ∈ lines (render is), p line) ↔
      ∀ i ∈ is, p (lineText (width (rows is)) (row i)) := by
  rw [lines_render, rows, List.map_map, List.forall_mem_map]
  rfl

/-- Two digits are enough for the offsets below 256, and for no others. -/
theorem length_natUpper_eq_two_iff (n : Nat) : (Hex.natUpper n).length = 2 ↔ n < 256 := by
  have hbase : 1 < 16 := by decide
  have hdigits : (Nat.toDigits 16 n).length ≤ 2 ↔ n < 256 := by
    rw [Nat.toDigits_eq_if hbase]
    split
    · rename_i hone
      simp only [List.length_singleton]
      omega
    · rename_i hmore
      rw [List.length_append, Nat.toDigits_eq_if hbase]
      split
      · rename_i htwo
        simp only [List.length_singleton]
        omega
      · rename_i hthree
        have hpos : 0 < (Nat.toDigits 16 (n / 16 / 16)).length := Nat.length_toDigits_pos
        simp only [List.length_append, List.length_singleton]
        omega
  have hpos : 0 < (Nat.toDigits 16 n).length := Nat.length_toDigits_pos
  rw [← hdigits, Hex.natUpper, String.length_ofList, Hex.atLeastTwo]
  split
  · rename_i hshort
    rw [List.length_map] at hshort
    simp only [List.length_cons, List.length_map]
    omega
  · rename_i hlong
    rw [List.length_map] at hlong ⊢
    omega

section Whole

variable {is : List Instruction}

/-- Seen from the bytes column, the last column is in its place on every line. -/
theorem textStart_eq_of_mem_lines :
    ∀ line ∈ lines (render is), textStart line = hexStart line + (width (rows is) + 1) := by
  rw [forall_mem_lines_render]
  intro i hi
  have hroom := length_upper_add_gap_le_width hi
  exact textStart_lineText i (by omega)

/-- Bytes have more than the gap behind them. -/
theorem gap_lt_of_mem_lines : ∀ line ∈ lines (render is), gap < blanksBehindHex line := by
  rw [forall_mem_lines_render]
  intro i hi
  have hroom := length_upper_add_gap_le_width hi
  rw [blanksBehindHex_lineText i (by omega)]
  omega

/-- The columns line up exactly if all offsets are short.  The first of them is zero, so
that two digits are what all of them must have. -/
theorem linesUp_render_iff (h : Contiguous 0 is) :
    LinesUp (render is) ↔ ∀ i ∈ is, i.pc < 256 := by
  constructor
  · intro hup i hi
    cases is with
    | nil => exact absurd hi List.not_mem_nil
    | cons first is =>
      have hfirst : first.pc = 0 := h.2.1
      have hstart : ∀ j ∈ first :: is,
          hexStart (lineText (width (rows (first :: is))) (row j)) = 2 + 6 := by
        have hpair := forall_mem_lines_render.1 hup.hexStart_eq
        intro j hj
        rw [forall_mem_lines_render.1 (hpair j hj) first List.mem_cons_self, hexStart_lineText,
          hfirst, (length_natUpper_eq_two_iff 0).2 (by decide)]
      have hi' := hstart i hi
      rw [hexStart_lineText] at hi'
      exact (length_natUpper_eq_two_iff i.pc).1 (by omega)
  · intro hshort
    have hstart : ∀ line ∈ lines (render is), hexStart line = 2 + 6 := by
      rw [forall_mem_lines_render]
      intro i hi
      rw [hexStart_lineText, (length_natUpper_eq_two_iff i.pc).2 (hshort i hi)]
    refine ⟨?_, ?_, fun line hline => Nat.le_of_lt (gap_lt_of_mem_lines line hline)⟩
    · intro a ha b hb
      rw [hstart a ha, hstart b hb]
    · intro a ha b hb
      rw [textStart_eq_of_mem_lines a ha, textStart_eq_of_mem_lines b hb, hstart a ha,
        hstart b hb]

end Whole

/-! ## Main theorem -/

/-- The columns of a listing line up exactly if its offsets are short.

On every line the bytes column begins six blanks behind the offset, the last column begins
equally far behind the bytes column, and more blanks than the gap stand behind the bytes.  So
all depends on the offsets: the columns begin at the same place on all lines exactly if every
instruction begins within the first 256 bytes, as those of a code of at most 256 bytes do. -/
theorem columns_line_up_iff_offsets_short {code : List UInt8} {is : List Instruction}
    (hcode : disassemble code = .ok is) :
    (∃ w, ∀ line ∈ lines (render is),
      hexStart line = (cells line).1.length + 6 ∧ textStart line = hexStart line + w ∧
        gap < blanksBehindHex line) ∧
    (LinesUp (render is) ↔ ∀ i ∈ is, i.pc < 256) ∧
    (code.length ≤ 256 → LinesUp (render is)) := by
  obtain ⟨hcontiguous, rfl⟩ := disassemble_eq_ok_iff.1 hcode
  have hiff := linesUp_render_iff hcontiguous
  refine ⟨⟨width (rows is) + 1, ?_⟩, hiff, ?_⟩
  · intro line hline
    refine ⟨?_, textStart_eq_of_mem_lines line hline, gap_lt_of_mem_lines line hline⟩
    revert line
    rw [forall_mem_lines_render]
    intro i _
    rw [hexStart_lineText, cells_lineText, String.length_toList]
  · intro hlength
    rw [hiff]
    intro i hi
    have hlt := hcontiguous.pc_lt i hi
    omega

/-- The two lines of a push and what follows it line up, though the bytes of the second are
shorter. -/
theorem columns_of_push_line_up :
    let is : List Instruction := [⟨0, 0x61, .push 2, [0x02, 0xFF]⟩, ⟨3, 0x01, .add, []⟩]
    disassemble [0x61, 0x02, 0xFF, 0x01] = .ok is ∧ LinesUp (render is) := by
  intro is
  have hcode : disassemble [0x61, 0x02, 0xFF, 0x01] = .ok is :=
    disassemble_eq_ok_iff.2 (by decide)
  exact ⟨hcode, (columns_line_up_iff_offsets_short hcode).2.2 (by decide)⟩

/-- The line of a stop behind eight of the longest pushes is out of line: its offset has three
digits. -/
theorem columns_of_nine_lines_do_not_line_up :
    let push : List UInt8 := 0x7F :: List.replicate 32 0
    let code := (List.replicate 8 push).flatten ++ [0]
    ∃ is, disassemble code = .ok is ∧ ¬ LinesUp (render is) := by
  intro push code
  let is : List Instruction :=
    (List.range 8).map (fun k => ⟨33 * k, 0x7F, .push 32, List.replicate 32 0⟩) ++
      [⟨264, 0, .stop, []⟩]
  have hcontiguous : Contiguous 0 is := by decide
  have hcode : disassemble code = .ok is :=
    disassemble_eq_ok_iff.2 ⟨hcontiguous, by decide +kernel⟩
  refine ⟨is, hcode, ?_⟩
  rw [linesUp_render_iff hcontiguous]
  intro hshort
  exact absurd (hshort ⟨264, 0, .stop, []⟩ (by simp [is])) (by decide)

end Listing
end MakeTen
