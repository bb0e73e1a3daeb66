import MakeTen.Json.Token
import MakeTen.Text.Document
/-!
# JSON values

The second step of reading JSON: tokens become a value.  The reader is a
machine that takes one token at a time and keeps the arrays and objects still
open on a stack, so it needs no bound other than the length of the text.

Corpus files are read with any reader of JSON.  This is the one that the program
is run with; no theorem is about it.

Main definitions:

- Type `Json.Value`: values, with object members in the order of the text.
- Structure `Json.Reader`: the machine between two tokens.
- Function `Json.parse?`: the value that a text spells.
- Definition `Json.reader`: a reader that finds these values.
-/

namespace MakeTen
namespace Json

/-- A JSON value. -/
inductive Value where
  | null
  | boolean (value : Bool)
  | number (spelling : List Char)
  | string (text : Option String)
  | array (elements : List Value)
  | object (members : List (Option String × Value))

/-- An array or object that is still open, with its contents in reverse. -/
inductive Frame where
  | array (elements : List Value)
  | object (members : List (Option String × Value)) (key : Option String)

/-- What may come next. -/
inductive Expect where
  /-- A value. -/
  | value
  /-- A value, or the end of the array just opened. -/
  | firstElement
  /-- A key, or the end of the object just opened. -/
  | firstKey
  /-- A key. -/
  | key
  /-- The colon after a key. -/
  | colon
  /-- A comma, or the end of the innermost array or object. -/
  | separator
  /-- Nothing: the value is complete. -/
  | done (value : Value)

/-- The machine between two tokens. -/
structure Reader where
  /-- What is open, innermost first. -/
  stack : List Frame
  /-- What may come next. -/
  expect : Expect

/-- How many arrays and objects may be open at a time. -/
def depthLimit : Nat := 127

namespace Reader

/-- Nothing has been read. -/
def start : Reader := ⟨[], .value⟩

/-- A value has been completed. -/
def put (stack : List Frame) (v : Value) : Reader :=
  match stack with
  | [] => ⟨[], .done v⟩
  | .array elements :: rest => ⟨.array (v :: elements) :: rest, .separator⟩
  | .object members key :: rest => ⟨.object ((key, v) :: members) none :: rest, .separator⟩

/-- An array or object is opened. -/
def opened (r : Reader) (frame : Frame) (expect : Expect) : Option Reader :=
  if r.stack.length < depthLimit then some ⟨frame :: r.stack, expect⟩ else none

/-- The innermost array is closed. -/
def closeArray (r : Reader) : Option Reader :=
  match r.stack with
  | .array elements :: rest => some (put rest (.array elements.reverse))
  | _ => none

/-- The innermost object is closed. -/
def closeObject (r : Reader) : Option Reader :=
  match r.stack with
  | .object members _ :: rest => some (put rest (.object members.reverse))
  | _ => none

/-- A token where a value is due. -/
def takeValue (r : Reader) : Token → Option Reader
  | .null => some (put r.stack .null)
  | .boolean b => some (put r.stack (.boolean b))
  | .number spelling => some (put r.stack (.number spelling))
  | .string text => some (put r.stack (.string text))
  | .openArray => r.opened (.array []) .firstElement
  | .openObject => r.opened (.object [] none) .firstKey
  | _ => none

/-- A token where a key is due. -/
def takeKey (r : Reader) : Token → Option Reader
  | .string text =>
    match r.stack with
    | .object members _ :: rest => some ⟨.object members text :: rest, .colon⟩
    | _ => none
  | _ => none

/-- One token. -/
def step (r : Reader) (token : Token) : Option Reader :=
  match r.expect, token with
  | .firstElement, .closeArray => r.closeArray
  | .firstKey, .closeObject => r.closeObject
  | .value, token => r.takeValue token
  | .firstElement, token => r.takeValue token
  | .firstKey, token => r.takeKey token
  | .key, token => r.takeKey token
  | .colon, .colon => some { r with expect := .value }
  | .separator, .closeArray => r.closeArray
  | .separator, .closeObject => r.closeObject
  | .separator, .comma =>
    match r.stack with
    | .array _ :: _ => some { r with expect := .value }
    | .object _ _ :: _ => some { r with expect := .key }
    | [] => none
  | _, _ => none

/-- All tokens. -/
def run (r : Reader) (tokens : List Token) : Option Reader :=
  tokens.foldlM step r

end Reader

/-- The value that a text spells. -/
def parse? (text : String) : Option Value := do
  let r ← Reader.start.run (← tokens? text)
  match r.expect with
  | .done v => some v
  | _ => none

/-- The reader of JSON that the program is run with. -/
def reader : DocumentReader Value := .ofOption parse?

end Json
end MakeTen
