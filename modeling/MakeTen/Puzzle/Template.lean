import MakeTen.Bytecode.Disassembly
import MakeTen.Puzzle.CodeText
import MakeTen.Puzzle.Solution
/-!
# Puzzle templates

A template is code in which three instructions are open slots.  Filling the
slots works on bytes: the slot marker furthest to the left receives the first
operator, and so on, and every other byte stays.  A template is accepted only
if no marker hides in the data of a push, so that the bytes filled are exactly
the instructions shown as slots.

Main definitions:

- Type `PuzzleFault`: what can be wrong with a puzzle.
- Function `slotOffsets`: where a code has slot markers.
- Function `substitute`: a code with its markers replaced.
- Structure `Template`, function `Template.ofCode`: accepted puzzles.
- Function `Template.resolve`: a template with the slots filled.
-/

namespace MakeTen

/-! ## Faults -/

/-- What can be wrong with a puzzle. -/
inductive PuzzleFault where
  | decode (fault : DecodeFault)
  | placeholderCountMismatch (placeholders operators : Nat)
  | wrongPlaceholderCount (expected found : Nat)
  /-- A slot marker hides in the data of the instruction at `pc`. -/
  | placeholderInImmediate (pc : Nat)
  | malformedHex (fault : CodeText.Fault)
  /-- An attempt was asked to go on before there was anything to do. -/
  | attemptNotReady (reason : String)
  deriving Repr, DecidableEq

/-- The fault in words. -/
def PuzzleFault.message : PuzzleFault → String
  | .decode fault => "Template does not decode: " ++ fault.message
  | .placeholderCountMismatch placeholders operators =>
    "Template has " ++ toString placeholders ++ " placeholders but the solution has " ++
      toString operators ++ " operators"
  | .wrongPlaceholderCount expected found =>
    "Template must contain exactly " ++ toString expected ++ " placeholders, found " ++
      toString found
  | .placeholderInImmediate pc =>
    "Placeholder byte inside the immediate operand of the instruction at 0x" ++ Hex.natLower pc
  | .malformedHex fault => fault.message
  | .attemptNotReady reason => "Attempt is not ready to proceed: " ++ reason

/-! ## Slots of a code -/

/-- Offsets of the slot markers from left to right, when the code starts at
offset `base`. -/
def slotOffsetsFrom (base : Nat) : List UInt8 → List Nat
  | [] => []
  | b :: bs =>
    if b = placeholder then base :: slotOffsetsFrom (base + 1) bs
    else slotOffsetsFrom (base + 1) bs

/-- Offsets of the slot markers of a code from left to right. -/
def slotOffsets (code : List UInt8) : List Nat :=
  slotOffsetsFrom 0 code

/-- The code with its markers replaced from left to right; markers beyond the
operators stay. -/
def fill : List UInt8 → List UInt8 → List UInt8
  | [], _ => []
  | b :: bs, [] => b :: fill bs []
  | b :: bs, operator :: operators =>
    if b = placeholder then operator :: fill bs operators
    else b :: fill bs (operator :: operators)

/-- The code with its markers replaced from left to right, refused unless there
is one operator for each marker. -/
def substitute (code operators : List UInt8) : Except PuzzleFault (List UInt8) :=
  if code.count placeholder = operators.length then .ok (fill code operators)
  else .error (.placeholderCountMismatch (code.count placeholder) operators.length)

/-! ## Templates -/

/-- A puzzle: code with open slots, and its instructions. -/
structure Template where
  id : Nat
  /-- The code with the slot markers. -/
  code : List UInt8
  instructions : List Instruction
  deriving Repr, DecidableEq

namespace Template

/-- The template made of some code.  The code has to decode, no marker may hide
in data, and the number of slots has to be the one that puzzles have. -/
def ofCode (id : Nat) (code : List UInt8) : Except PuzzleFault Template :=
  match disassemble code with
  | .error fault => .error (.decode fault)
  | .ok instructions =>
    match instructions.find? (·.immediate.contains placeholder) with
    | some i => .error (.placeholderInImmediate i.pc)
    | none =>
      let found := instructions.countP Instruction.isSlot
      if found = slotCount then .ok ⟨id, code, instructions⟩
      else .error (.wrongPlaceholderCount slotCount found)

/-- The template written as code text. -/
def ofText (id : Nat) (text : String) : Except PuzzleFault Template :=
  match CodeText.parse text with
  | .error fault => .error (.malformedHex fault)
  | .ok code => ofCode id code

/-- Offsets of the open slots from left to right. -/
def slots (t : Template) : List Nat :=
  slotOffsets t.code

/-- The template's code with the operators of a solution in its slots. -/
def resolve (t : Template) (s : Solution) : Except PuzzleFault (List UInt8) :=
  substitute t.code s.bytes

end Template
end MakeTen
