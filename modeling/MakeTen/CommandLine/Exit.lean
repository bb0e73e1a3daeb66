import MakeTen.Text.Utf8
/-!
# What a command leaves behind

A command ends with a status and has written some bytes on its two outputs.
-/

namespace MakeTen

/-- What a command leaves behind. -/
structure Exit where
  /-- Zero if all went well. -/
  status : Nat
  output : List UInt8
  errors : List UInt8
  deriving Repr, DecidableEq

namespace Exit

/-- Lines as bytes, each with a line feed. -/
def linesBytes (lines : List String) : List UInt8 :=
  lines.flatMap fun line => Utf8.encodeString line ++ [0x0A]

/-- An exit that has only something to say on the error output. -/
def saying (status : Nat) (lines : List String) : Exit :=
  ⟨status, [], linesBytes lines⟩

/-- An exit after a fault. -/
def failing (lines : List String) : Exit :=
  saying 1 lines

/-- How a fault is announced. -/
def announce (message : String) : String :=
  "Error: " ++ message

end Exit
end MakeTen
