import MakeTen.CommandLine.ListingCommand
import MakeTen.Proofs.Bytecode.Assembly
import MakeTen.Proofs.Puzzle.Grammar
import MakeTen.Proofs.Text.Numerals
import MakeTen.Proofs.Text.Parts
/-!
# A listing loses nothing

A listing is laid out for the eye: the bytes column is as wide as its widest cell asks
for, and the last column holds blanks of its own.  It can be read back all the same.  No
cell holds a line feed, so that the lines are found again; and neither an offset nor bytes
in hexadecimal hold a blank, while a name begins without one, so that the first two runs
of blanks of a line are those between its cells.

The bytes column is the code, cut into pieces.  Put together and read as code text, it
gives back the code that was listed.

Main results:

- Functions `Listing.lines`, `Listing.cells`: a listing read back.
- Theorem `Listing.cells_lineText`: the cells of a line are found again, however wide the
  bytes column is.
- Theorem `Listing.hexColumn_render`: the bytes column is the code.
- Theorem `Listing.listing_loses_nothing`: what a listing shows, and that it can be
  listed again.
-/

namespace MakeTen
namespace Listing

/-! ## Lines -/

/-- The lines of a listing without the line feeds that end them. -/
def lines (listing : String) : List (List Char) :=
  (Replace.splitLines listing.toList).1

/-! ## Cells -/

/-- What stands behind the first run of blanks. -/
def behindBlanks (cs : List Char) : List Char :=
  (cs.dropWhile (· != ' ')).dropWhile (· == ' ')

/-- A line split at its first two runs of blanks. -/
def cells (line : List Char) : List Char × List Char × List Char :=
  (line.takeWhile (· != ' '), (behindBlanks line).takeWhile (· != ' '),
    behindBlanks (behindBlanks line))

section Split

variable {word rest : List Char}

/-- A cell without blanks is passed over as a whole. -/
theorem forall_mem_bne_blank (h : ' ' ∉ word) : ∀ c ∈ word, (c != ' ') = true := by
  intro c hc
  rw [bne_iff_ne]
  rintro rfl
  exact h hc

/-- A first cell ends at the blanks behind it. -/
theorem takeWhile_append_replicate (h : ' ' ∉ word) (n : Nat) :
    (word ++ (List.replicate (n + 1) ' ' ++ rest)).takeWhile (· != ' ') = word := by
  rw [List.takeWhile_append_of_pos (forall_mem_bne_blank h), List.replicate_succ,
    List.cons_append, List.takeWhile_cons_of_neg (by decide), List.append_nil]

/-- What stands behind the blanks is found where it begins. -/
theorem behindBlanks_append_replicate (h : ' ' ∉ word) (hrest : rest.head? ≠ some ' ') (n : Nat) :
    behindBlanks (word ++ (List.replicate (n + 1) ' ' ++ rest)) = rest := by
  have hblanks : ∀ c ∈ List.replicate (n + 1) ' ', (c == ' ') = true := by
    intro c hc
    rw [List.eq_of_mem_replicate hc]
    rfl
  rw [behindBlanks, List.dropWhile_append_of_pos (forall_mem_bne_blank h), List.replicate_succ,
    List.cons_append, List.dropWhile_cons_of_neg (by decide), ← List.cons_append,
    ← List.replicate_succ, List.dropWhile_append_of_pos hblanks]
  cases rest with
  | nil => rfl
  | cons c rest =>
    refine List.dropWhile_cons_of_neg ?_
    rw [beq_iff_eq]
    rintro rfl
    exact hrest rfl

end Split

/-- Three cells with blanks between them are found again. -/
theorem cells_append {a b c : List Char} (ha : ' ' ∉ a) (hb : ' ' ∉ b)
    (hb' : b ≠ []) (hc : c.head? ≠ some ' ') (n m : Nat) :
    cells (a ++ (List.replicate (n + 1) ' ' ++ (b ++ (List.replicate (m + 1) ' ' ++ c)))) =
      (a, b, c) := by
  have hhead : (b ++ (List.replicate (m + 1) ' ' ++ c)).head? ≠ some ' ' := by
    cases b with
    | nil => exact absurd rfl hb'
    | cons first b =>
      rw [List.mem_cons, not_or] at hb
      simpa using Ne.symm hb.1
  rw [cells, takeWhile_append_replicate ha, behindBlanks_append_replicate ha hhead,
    takeWhile_append_replicate hb, behindBlanks_append_replicate hb hc]

/-! ## Lines of instructions -/

/-- The characters of a line, with a bytes column of the given width. -/
def lineText (width : Nat) (r : Row) : List Char :=
  r.position.toList ++ (List.replicate 6 ' ' ++ (r.hex.toList ++
    (List.replicate (width - r.hex.length + 1) ' ' ++ r.text.toList)))

/-- The words of a line are its characters and a line feed. -/
theorem toList_words_line (width : Nat) (r : Row) :
    (Span.words (line width r)).toList = lineText width r ++ ['\n'] := by
  have hblanks : List.replicate (width - r.hex.length + 1) ' ' =
      List.replicate (width - r.hex.length) ' ' ++ [' '] := List.replicate_succ'
  have hmargin : margin.toList = List.replicate 6 ' ' := by decide
  simp only [Span.words, line, List.map_cons, List.map_nil, String.toList_join,
    List.flatMap_cons, List.flatMap_nil, Span.tinted, Span.plain, pad, String.toList_ofList,
    hmargin, lineText, hblanks, List.append_assoc, List.append_nil]
  rfl

/-- A listing is its lines, each of them ended by a line feed. -/
theorem toList_render (is : List Instruction) :
    (render is).toList =
      ((rows is).map (lineText (width (rows is)))).flatMap (· ++ ['\n']) := by
  have hspans : ∀ (w : Nat) (rs : List Row), (Span.words (rs.flatMap (line w))).toList =
      (rs.map (lineText w)).flatMap (· ++ ['\n']) := by
    intro w rs
    induction rs with
    | nil => rfl
    | cons r rs ih =>
      rw [List.map_cons, List.flatMap_cons, List.flatMap_cons, ← ih, ← toList_words_line]
      simp only [Span.words, List.map_append, String.toList_join, List.flatMap_append]
  rw [render, Span.renderAll_false, spans]
  exact hspans _ _

end Listing

namespace Instruction

/-- The text of an instruction begins without a blank. -/
theorem head?_toList_text (i : Instruction) : i.text.toList.head? ≠ some ' ' := by
  have hname : i.mnemonic.text.toList.head? ≠ some ' ' :=
    i.mnemonic.isWord_text.head?_ne (by decide)
  unfold text
  split
  · exact hname
  · rw [String.append_assoc, String.toList_append]
    rwa [List.head?_append_of_ne_nil _ i.mnemonic.text_ne_empty]

/-- It holds no line feed. -/
theorem lineFeed_not_mem_text (i : Instruction) : '\n' ∉ i.text.toList := by
  have hname : '\n' ∉ i.mnemonic.text.toList := i.mnemonic.isWord_text.not_mem (by decide)
  unfold text
  split
  · exact hname
  · simp only [String.toList_append, List.mem_append, not_or]
    exact ⟨⟨hname, by decide⟩, (isWord_upper i.immediate).not_mem (by decide)⟩

/-- Every instruction has bytes to be shown. -/
theorem toList_upper_bytes_ne_nil (i : Instruction) : (Hex.upper i.bytes).toList ≠ [] := by
  rw [Hex.toList_upper]
  exact List.cons_ne_nil _ _

end Instruction

namespace Listing

/-- The cells of a line are found again, however wide the bytes column is. -/
theorem cells_lineText (width : Nat) (i : Instruction) :
    cells (lineText width (row i)) =
      ((Hex.natUpper i.pc).toList, (Hex.upper i.bytes).toList, i.text.toList) :=
  cells_append ((isWord_natUpper i.pc).not_mem (by decide))
    ((isWord_upper i.bytes).not_mem (by decide)) i.toList_upper_bytes_ne_nil i.head?_toList_text 5 _

/-- No cell holds a line feed, and neither do the blanks between them. -/
theorem lineFeed_not_mem_lineText (width : Nat) (i : Instruction) :
    '\n' ∉ lineText width (row i) := by
  have hblanks : ∀ n, '\n' ∉ List.replicate n ' ' := fun n hmem =>
    absurd (List.eq_of_mem_replicate hmem) (by decide)
  simp only [lineText, List.mem_append, not_or]
  exact ⟨(isWord_natUpper i.pc).not_mem (by decide), hblanks _,
    (isWord_upper i.bytes).not_mem (by decide), hblanks _, i.lineFeed_not_mem_text⟩

/-- So no line of a listing holds one. -/
theorem lineFeed_not_mem_of_mem (width : Nat) (is : List Instruction) :
    ∀ l ∈ (rows is).map (lineText width), '\n' ∉ l := by
  intro l hl
  obtain ⟨r, hr, rfl⟩ := List.mem_map.1 hl
  obtain ⟨i, _, rfl⟩ := List.mem_map.1 hr
  exact lineFeed_not_mem_lineText width i

/-- The lines of a listing are those of its instructions. -/
theorem lines_render (is : List Instruction) :
    lines (render is) = (rows is).map (lineText (width (rows is))) := by
  rw [lines, toList_render, Replace.splitLines_flatMap (lineFeed_not_mem_of_mem _ is)]

/-- The cells of a listing are found again. -/
theorem map_cells_lines_render (is : List Instruction) :
    (lines (render is)).map cells =
      is.map fun i => ((Hex.natUpper i.pc).toList, (Hex.upper i.bytes).toList, i.text.toList) := by
  rw [lines_render, rows, List.map_map, List.map_map]
  exact List.map_congr_left fun i _ => cells_lineText _ i

/-! ## The bytes column -/

/-- The cells of the bytes column of a listing, one after the other. -/
def hexColumn (listing : String) : String :=
  String.ofList (((lines listing).map cells).flatMap fun c => c.2.1)

/-- The bytes column is what the instructions are made of. -/
theorem hexColumn_render (is : List Instruction) :
    hexColumn (render is) = Hex.upper (assemble is) := by
  rw [hexColumn, map_cells_lines_render, List.flatMap_map]
  simp only [Hex.toList_upper]
  rw [Hex.upper, assemble, List.flatMap_assoc]

section Column

variable {code : List UInt8} {is : List Instruction}

/-- The bytes column of the listing of a code is the code. -/
theorem hexColumn_of_disassemble (h : disassemble code = .ok is) :
    hexColumn (render is) = Hex.upper code := by
  rw [hexColumn_render, (disassemble_eq_ok_iff.1 h).2]

/-- It is read as the code. -/
theorem parse_hexColumn_render (h : disassemble code = .ok is) :
    CodeText.parse (hexColumn (render is)) = .ok code := by
  rw [hexColumn_of_disassemble h]
  exact CodeText.parse_ofList_flatMap (fun b => .inr (.inl rfl)) code

end Column

/-- The listing of the code in the bytes column of a listing. -/
def relist (listing : String) : Except String String :=
  (ListingCommand.instructions (hexColumn listing)).map render

/-! ## Main theorem -/

/-- A listing loses nothing.

The listing of a code has one line for each instruction, each of them ended by a line
feed.  Split at its first two runs of blanks, a line gives the offset, the bytes in
hexadecimal, and the text of its instruction; the offset is in hexadecimal too, with two
digits at least that denote it.  The bytes column, put
together, is the code in hexadecimal, and is read as the code.  So two codes with one
listing are the same, and listing the bytes column of a listing gives that listing. -/
theorem listing_loses_nothing {code : List UInt8} {is : List Instruction}
    (hcode : disassemble code = .ok is) :
    (lines (render is)).length = is.length ∧
    (render is).toList = (lines (render is)).flatMap (· ++ ['\n']) ∧
    (∀ line ∈ lines (render is), '\n' ∉ line) ∧
    (lines (render is)).map cells = is.map (fun i =>
      ((Hex.natUpper i.pc).toList, (Hex.upper i.bytes).toList, i.text.toList)) ∧
    (∀ i ∈ is, 2 ≤ (Hex.natUpper i.pc).toList.length ∧
      (∀ c ∈ (Hex.natUpper i.pc).toList, c ∈ "0123456789ABCDEF".toList) ∧
      Hex.value (Hex.natUpper i.pc).toList = i.pc) ∧
    hexColumn (render is) = Hex.upper code ∧
    CodeText.parse (hexColumn (render is)) = .ok code ∧
    (∀ other js, disassemble other = .ok js → render js = render is → other = code) ∧
    relist (render is) = .ok (render is) := by
  have hparse := parse_hexColumn_render hcode
  refine ⟨?_, ?_, ?_, map_cells_lines_render is, fun i _ => ⟨Hex.two_le_length_natUpper i.pc,
    fun c => Hex.mem_natUpper, Hex.value_natUpper i.pc⟩, hexColumn_of_disassemble hcode, hparse,
    ?_, ?_⟩
  · rw [lines_render, List.length_map, rows, List.length_map]
  · rw [lines_render]
    exact toList_render is
  · rw [lines_render]
    exact lineFeed_not_mem_of_mem _ is
  -- One bytes column is read as one code, so that the other code is this one.
  · intro other js hother hsame
    have hparse' := parse_hexColumn_render hother
    rw [hsame, hparse] at hparse'
    simpa using hparse'.symm
  · simp only [relist, ListingCommand.instructions, hparse, hcode]
    rfl

/-- The listing of a push and what follows it.  The bytes column is wider than the cell of
the second line, and the text of the first line holds a blank. -/
theorem listing_of_push_loses_nothing :
    let is : List Instruction := [⟨0, 0x61, .push 2, [0x02, 0xFF]⟩, ⟨3, 0x01, .add, []⟩]
    disassemble [0x61, 0x02, 0xFF, 0x01] = .ok is ∧
      (lines (render is)).length = 2 ∧
      (lines (render is)).map cells =
        [("00".toList, "6102FF".toList, "PUSH2 02FF".toList),
          ("03".toList, "01".toList, "ADD".toList)] ∧
      hexColumn (render is) = "6102FF01" ∧
      CodeText.parse (hexColumn (render is)) = .ok [0x61, 0x02, 0xFF, 0x01] ∧
      relist (render is) = .ok (render is) := by
  intro is
  have hcode : disassemble [0x61, 0x02, 0xFF, 0x01] = .ok is :=
    disassemble_eq_ok_iff.2 (by decide)
  obtain ⟨hlength, _, _, hcells, _, hcolumn, hparse, _, hagain⟩ := listing_loses_nothing hcode
  refine ⟨hcode, hlength, ?_, ?_, hparse, hagain⟩
  · rw [hcells]
    decide
  · rw [hcolumn]
    decide

end Listing
end MakeTen
