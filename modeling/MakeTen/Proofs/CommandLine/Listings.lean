import MakeTen.Proofs.Bytecode.Layout
import MakeTen.Proofs.Bytecode.Truncation
import MakeTen.Proofs.Text.Decoding
/-!
# Runs of the listing command

The arguments are read up to the first that is no wish for plain output.  It ends the
command if it begins with a dash, and is the code text if it does not; without it the code
text is the standard input.  Either all of the text can be read and all of the code decodes,
and then the listing is printed, or nothing is printed at all.

Main results:

- Function `ListingCommand.operands`: the arguments from the first that counts.
- Relation `ListingCommand.Holds`: the code text of some arguments and a standard input.
- Theorem `ListingCommand.Holds.existsUnique`: which arguments hold a code text.
- Theorem `ListingCommand.run_eq_list`: only the code text counts.
- Theorem `ListingCommand.status_list_eq_zero_iff`: which code texts are listed.
- Theorem `ListingCommand.listing_is_all_or_nothing`: what the command does on any arguments
  and any text.
-/

namespace MakeTen
namespace ListingCommand

/-! ## Arguments -/

/-- The arguments behind the wishes for plain output that stand in front. -/
def operands (arguments : List String) : List String :=
  arguments.dropWhile (· = "--no-color")

/-- The arguments and the standard input hold a code text: the first argument that is no wish
for plain output, unless it begins with a dash, or all of the input if there is none. -/
inductive Holds (arguments : List String) (input : List UInt8) : String → Prop
  | argument {text : String} (h : (operands arguments).head? = some text)
      (hdash : text.toList.head? ≠ some '-') : Holds arguments input text
  | input {text : String} (h : operands arguments = []) (hinput : input = Utf8.encodeString text) :
      Holds arguments input text

theorem operands_cons_of_plain (rest : List String) :
    operands ("--no-color" :: rest) = operands rest :=
  List.dropWhile_cons_of_pos (decide_eq_true rfl)

theorem operands_cons_of_ne {word : String} (h : word ≠ "--no-color") (rest : List String) :
    operands (word :: rest) = word :: rest :=
  List.dropWhile_cons_of_neg (by simpa using h)

/-- Where the text comes from has nothing to do with the wishes for plain output. -/
theorem snd_source_eq (isPlain : Bool) (arguments : List String) :
    (source isPlain arguments).2 = (source false (operands arguments)).2 := by
  induction arguments generalizing isPlain with
  | nil => rfl
  | cons word rest ih =>
    -- A wish for plain output is behind both sides, any other word is read on both.
    by_cases hplain : word = "--no-color"
    · rw [source, if_pos hplain, ih, hplain, operands_cons_of_plain]
    · rw [operands_cons_of_ne hplain, source, source, if_neg hplain, if_neg hplain]
      split
      · rfl
      · split <;> rfl

/-- The first of the operands is no wish for plain output. -/
theorem ne_plain_of_head?_operands {arguments : List String} {word : String}
    (h : (operands arguments).head? = some word) : word ≠ "--no-color" := by
  have hhead := List.head?_dropWhile_not (fun a : String => decide (a = "--no-color")) arguments
  rw [← operands, h] at hhead
  simpa using hhead

namespace Holds

/-- A text that does not begin with a dash can be given as an argument. -/
theorem of_singleton {text : String} (hdash : text.toList.head? ≠ some '-')
    (input : List UInt8) : Holds [text] input text := by
  refine argument ?_ hdash
  have hplain : text ≠ "--no-color" := by
    rintro rfl
    exact hdash (by decide)
  rw [operands_cons_of_ne hplain, List.head?_cons]

/-- Arguments and a standard input hold one text at most. -/
theorem unique {arguments : List String} {input : List UInt8} {text text' : String}
    (h : Holds arguments input text) (h' : Holds arguments input text') : text' = text := by
  cases h with
  | argument hword _ =>
    cases h' with
    | argument hword' _ => exact Option.some.inj (hword'.symm.trans hword)
    | input hnil _ => simp [hnil] at hword
  | input hnil hinput =>
    cases h' with
    | argument hword' _ => simp [hnil] at hword'
    | input _ hinput' => exact Utf8.encodeString_injective (hinput'.symm.trans hinput)

/-- They hold one unless a dash ends the command. -/
theorem existsUnique {arguments : List String}
    (hdash : ∀ word ∈ (operands arguments).head?, word.toList.head? ≠ some '-') (text : String) :
    ∃! held, Holds arguments (Utf8.encodeString text) held := by
  cases hoperands : (operands arguments).head? with
  | none =>
    have hheld : Holds arguments (Utf8.encodeString text) text :=
      input (List.head?_eq_none_iff.1 hoperands) rfl
    exact ⟨text, hheld, fun _ h => unique hheld h⟩
  | some word =>
    have hheld : Holds arguments (Utf8.encodeString text) word :=
      argument hoperands (hdash word hoperands)
    exact ⟨word, hheld, fun _ h => unique hheld h⟩

end Holds

section Source

variable {arguments : List String} {word : String}

/-- What the first of the operands says. -/
theorem snd_source_of_head? (h : (operands arguments).head? = some word) :
    (source false arguments).2 =
      if word = "-h" ∨ word = "--help" then .help
      else if isOption word then .unknown word
      else .argument word := by
  obtain ⟨rest, hrest⟩ := List.head?_eq_some_iff.1 h
  rw [snd_source_eq false, hrest, source, if_neg (ne_plain_of_head?_operands h)]
  split
  · rfl
  · split <;> rfl

/-- Without operands the text is the standard input. -/
theorem snd_source_of_nil (h : operands arguments = []) : (source false arguments).2 = .input := by
  rw [snd_source_eq false, h]
  rfl

end Source

/-! ## Ends -/

section Run

variable {name : String} {isTerminal : Bool} {arguments : List String} {input : List UInt8}
  {text : String}

/-- A wish for help ends the command. -/
theorem run_of_head?_help {word : String} (h : (operands arguments).head? = some word)
    (hhelp : word = "-h" ∨ word = "--help") :
    run name isTerminal arguments input = .saying 0 (usage name) := by
  have hsource := snd_source_of_head? h
  rw [if_pos hhelp] at hsource
  simp only [run, hsource]

/-- So does anything else that begins with a dash. -/
theorem run_of_head?_dash {word : String} (h : (operands arguments).head? = some word)
    (hdash : word.toList.head? = some '-') (hshort : word ≠ "-h") (hlong : word ≠ "--help") :
    run name isTerminal arguments input = .failing ["Unknown option: " ++ word] := by
  have hoption : isOption word := by
    rw [isOption, decide_eq_true_eq]
    exact hdash
  have hsource := snd_source_of_head? h
  rw [if_neg (not_or.2 ⟨hshort, hlong⟩), if_pos hoption] at hsource
  simp only [run, hsource]

/-- Only the code text counts if the output is no terminal. -/
theorem run_eq_list (h : Holds arguments input text) :
    run name false arguments input = list false text := by
  cases h with
  | argument h hdash =>
    have hhelp : ¬(text = "-h" ∨ text = "--help") := by
      rintro (rfl | rfl)
      · exact hdash (by decide)
      · exact hdash (by decide)
    have hoption : ¬isOption text := by
      rw [isOption, decide_eq_true_eq]
      exact hdash
    have hsource := snd_source_of_head? h
    rw [if_neg hhelp, if_neg hoption] at hsource
    simp only [run, hsource, Bool.and_false]
  | input h hinput =>
    have hread : Utf8.decode? input = some text.toList := by
      rw [hinput, Utf8.encodeString, Utf8.decode?_encode]
    simp only [run, snd_source_of_nil h, hread, Bool.and_false, String.ofList_toList]

end Run

/-! ## A whole listing or none -/

/-- A text stands for instructions if it is read as a code that decodes to them. -/
theorem instructions_eq_ok_iff {text : String} {is : List Instruction} :
    instructions text = .ok is ↔
      ∃ code, CodeText.parse text = .ok code ∧ disassemble code = .ok is := by
  unfold instructions
  cases hparse : CodeText.parse text with
  | error fault => simp
  | ok code => cases hcode : disassemble code <;> simp [hcode]

/-- All of the listing is printed. -/
theorem list_of_ok {text : String} {is : List Instruction} (h : instructions text = .ok is) :
    list false text = ⟨0, Utf8.encodeString (Listing.render is), []⟩ := by
  rw [list, h, Listing.render]

/-- Nothing is printed after a fault. -/
theorem list_of_error {text message : String} (h : instructions text = .error message) :
    list false text = .failing [Exit.announce message] := by
  rw [list, h]

/-- The command ends without a fault exactly if there is a listing to print. -/
theorem status_list_eq_zero_iff {text : String} :
    (list false text).status = 0 ↔ ∃ is, instructions text = .ok is := by
  cases h : instructions text with
  | ok is => simp [list_of_ok h]
  | error message => simp [list_of_error h, Exit.failing, Exit.saying]

/-- It prints nothing otherwise. -/
theorem list_of_status_ne_zero {text : String} (h : (list false text).status ≠ 0) :
    (list false text).status = 1 ∧ (list false text).output = [] := by
  cases hfault : instructions text with
  | ok is => exact absurd (status_list_eq_zero_iff.2 ⟨is, hfault⟩) h
  | error message =>
    rw [list_of_error hfault]
    exact ⟨rfl, rfl⟩

/-- The bytes column of a listing stands for the instructions that are listed. -/
theorem instructions_hexColumn_render {text : String} {is : List Instruction}
    (h : instructions text = .ok is) :
    instructions (Listing.hexColumn (Listing.render is)) = .ok is := by
  obtain ⟨code, _, hcode⟩ := instructions_eq_ok_iff.1 h
  exact instructions_eq_ok_iff.2 ⟨code, Listing.parse_hexColumn_render hcode, hcode⟩

/-- It begins with no dash, so that it can be given as an argument. -/
theorem head?_toList_hexColumn_render {text : String} {is : List Instruction}
    (h : instructions text = .ok is) :
    (Listing.hexColumn (Listing.render is)).toList.head? ≠ some '-' := by
  obtain ⟨code, _, hcode⟩ := instructions_eq_ok_iff.1 h
  rw [Listing.hexColumn_of_disassemble hcode]
  exact (isWord_upper code).head?_ne (by decide)

/-! ## Main theorem -/

/-- The listing command prints all of a listing or nothing, and its listings can be listed
again.

What stands first behind the wishes for plain output decides.  A wish for help ends the
command without a fault, anything else that begins with a dash with one, and nothing is
printed.  Otherwise, whatever follows, the arguments and an input that is a text hold exactly
one code text.  If the output is no terminal, then what the command leaves behind depends on
this code text only: it ends without a fault exactly if the text is read as a code that
decodes, with the listing of this code as its output, and otherwise with status 1 and no
output.  The bytes column of the listing can be given as an argument, and whatever arguments
and input hold it, the command prints the same listing. -/
theorem listing_is_all_or_nothing (name : String) (arguments : List String)
    (input : List UInt8) :
    (∀ word ∈ (operands arguments).head?, ∀ isTerminal,
      (word = "-h" ∨ word = "--help" →
        (run name isTerminal arguments input).status = 0 ∧
        (run name isTerminal arguments input).output = []) ∧
      (word.toList.head? = some '-' → word ≠ "-h" → word ≠ "--help" →
        (run name isTerminal arguments input).status = 1 ∧
        (run name isTerminal arguments input).output = [])) ∧
    ((∀ word ∈ (operands arguments).head?, word.toList.head? ≠ some '-') →
      ∀ text, input = Utf8.encodeString text → ∃! held, Holds arguments input held) ∧
    ∀ text, Holds arguments input text →
      let exit := run name false arguments input
      (exit.status = 0 ↔ ∃ code is, CodeText.parse text = .ok code ∧ disassemble code = .ok is) ∧
      (∀ code is, CodeText.parse text = .ok code → disassemble code = .ok is →
        exit.output = Utf8.encodeString (Listing.render is)) ∧
      (exit.status ≠ 0 → exit.status = 1 ∧ exit.output = []) ∧
      (∀ arguments' input', Holds arguments' input' text →
        run name false arguments' input' = exit) ∧
      (exit.status = 0 → ∃ listing, exit.output = Utf8.encodeString listing ∧
        (∀ input', Holds [Listing.hexColumn listing] input' (Listing.hexColumn listing)) ∧
        ∀ arguments' input', Holds arguments' input' (Listing.hexColumn listing) →
          run name false arguments' input' = exit) := by
  refine ⟨fun word hword isTerminal => ⟨fun hhelp => ?_, fun hdash hshort hlong => ?_⟩, ?_, ?_⟩
  · rw [run_of_head?_help hword hhelp]
    exact ⟨rfl, rfl⟩
  · rw [run_of_head?_dash hword hdash hshort hlong]
    exact ⟨rfl, rfl⟩
  · rintro hdash text rfl
    exact Holds.existsUnique hdash text
  -- All that is left is about the one listing of the code text that is held.
  intro text hheld exit
  have hexit : exit = list false text := run_eq_list hheld
  rw [hexit, status_list_eq_zero_iff]
  refine ⟨?_, ?_, ?_, fun arguments' input' hheld' => run_eq_list hheld', ?_⟩
  · simp only [instructions_eq_ok_iff]
    exact exists_comm
  · intro code is hparse hcode
    rw [list_of_ok (instructions_eq_ok_iff.2 ⟨code, hparse, hcode⟩)]
  · exact list_of_status_ne_zero
  · rintro ⟨is, his⟩
    refine ⟨Listing.render is, by rw [list_of_ok his],
      Holds.of_singleton (head?_toList_hexColumn_render his), ?_⟩
    intro arguments' input' hheld'
    rw [run_eq_list hheld', list_of_ok his, list_of_ok (instructions_hexColumn_render his)]

/-- The listing of a push and what follows it: from an argument, whatever stands behind it,
from the standard input, and from its own bytes column.  A push that lacks its data leaves
nothing behind, even though an instruction stands before it. -/
theorem listing_of_push_or_nothing :
    let is : List Instruction := [⟨0, 0x61, .push 2, [0x02, 0xFF]⟩, ⟨3, 0x01, .add, []⟩]
    let exit := run "fourten-dasm" false ["--no-color", "0x6102ff01", "-h"] []
    (exit.status = 0 ∧ exit.output = Utf8.encodeString (Listing.render is)) ∧
      run "fourten-dasm" false [] (Utf8.encodeString "0x6102ff01") = exit ∧
      run "fourten-dasm" false ["6102FF01"] [] = exit ∧
      (run "fourten-dasm" false ["600160"] []).status = 1 ∧
      (run "fourten-dasm" false ["600160"] []).output = [] := by
  intro is exit
  have hparse : CodeText.parse "0x6102ff01" = .ok [0x61, 0x02, 0xFF, 0x01] := by decide
  have hcode : disassemble [0x61, 0x02, 0xFF, 0x01] = .ok is :=
    disassemble_eq_ok_iff.2 (by decide)
  have hcolumn : Listing.hexColumn (Listing.render is) = "6102FF01" := by
    rw [Listing.hexColumn_of_disassemble hcode]
    decide
  have hcut : ¬∃ code is, CodeText.parse "600160" = .ok code ∧ disassemble code = .ok is := by
    have hparse' : CodeText.parse "600160" = .ok [0x60, 0x01, 0x60] := by decide
    have hfault : disassemble [0x60, 0x01, 0x60] = .error (.truncatedOperand 2 1 0) :=
      disassemble_eq_error_iff.2
        ⟨[⟨0, 0x60, .push 1, [0x01]⟩], 0x60, [], ⟨by decide, .cut (by decide), rfl⟩, rfl⟩
    rintro ⟨code, js, hcode', hjs⟩
    obtain rfl := Except.ok.inj (hcode'.symm.trans hparse')
    rw [hfault] at hjs
    cases hjs
  obtain ⟨-, -, hheld⟩ := listing_is_all_or_nothing "fourten-dasm"
    ["--no-color", "0x6102ff01", "-h"] []
  obtain ⟨hstatus, houtput, -, hsame, hagain⟩ :=
    hheld "0x6102ff01" (.argument (by decide) (by decide))
  obtain ⟨-, -, hheld'⟩ := listing_is_all_or_nothing "fourten-dasm" ["600160"] []
  obtain ⟨hstatus', -, hnothing, -⟩ := hheld' "600160" (.of_singleton (by decide) [])
  have hzero := hstatus.2 ⟨_, is, hparse, hcode⟩
  have hprinted := houtput _ is hparse hcode
  obtain ⟨listing, hlisting, hgiven, hrun⟩ := hagain hzero
  obtain rfl := Utf8.encodeString_injective (hlisting.symm.trans hprinted)
  rw [hcolumn] at hgiven hrun
  exact ⟨⟨hzero, hprinted⟩, hsame [] _ (.input rfl rfl), hrun _ [] (hgiven []),
    hnothing (hcut ∘ hstatus'.1)⟩

end ListingCommand
end MakeTen
