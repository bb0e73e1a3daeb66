/-!
# Styled text

Text for the terminal is a list of spans, some of them tinted.  Tinting is a
matter of the last step: a plain terminal gets the words alone, a coloured one
gets the same words with select-graphic-rendition sequences around the tinted
spans.

Main definitions:

- Structure `Span`: some words and their tint.
- Function `Span.renderAll`: the characters sent to a terminal.
- Function `Span.words`: the words alone.
-/

namespace MakeTen

/-- The tints in use. -/
inductive Tint where
  | green | red | cyan | blue | darkGrey
  deriving Repr, DecidableEq

/-- Number of the tint in the terminal's palette. -/
def Tint.code : Tint → Nat
  | .green => 10
  | .red => 9
  | .cyan => 14
  | .blue => 12
  | .darkGrey => 8

/-- The sequence after which text has the tint. -/
def Tint.start (t : Tint) : String :=
  "\x1b[38;5;" ++ toString t.code ++ "m"

/-- The sequence after which text has no tint. -/
def Tint.reset : String := "\x1b[0m"

/-- Some words and their tint. -/
structure Span where
  /-- The words. -/
  text : String
  /-- The tint, if there is one. -/
  tint : Option Tint
  deriving Repr, DecidableEq

namespace Span

/-- Words without a tint. -/
def plain (text : String) : Span := ⟨text, none⟩

/-- Words with a tint. -/
def tinted (tint : Tint) (text : String) : Span := ⟨text, some tint⟩

/-- A span as it is sent to a terminal. -/
def render (colored : Bool) (s : Span) : String :=
  match s.tint with
  | some t => if colored then t.start ++ s.text ++ Tint.reset else s.text
  | none => s.text

/-- Spans one after the other as they are sent to a terminal. -/
def renderAll (colored : Bool) (spans : List Span) : String :=
  String.join (spans.map (render colored))

/-- The words of some spans. -/
def words (spans : List Span) : String :=
  String.join (spans.map Span.text)

@[simp]
theorem render_false (s : Span) : s.render false = s.text := by
  unfold render
  split <;> simp

/-- On a plain terminal only the words are sent. -/
theorem renderAll_false (spans : List Span) : renderAll false spans = words spans := by
  have : render false = Span.text := funext render_false
  simp [renderAll, words, this]

end Span
end MakeTen
