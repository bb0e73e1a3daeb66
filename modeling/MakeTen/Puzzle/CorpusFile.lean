import MakeTen.Host.Files
import MakeTen.Json.Value
import MakeTen.Puzzle.Corpus
import MakeTen.Text.Document
/-!
# Corpus files

A corpus file is JSON: an object whose member `puzzles` is an array of code
texts.  Other members are ignored.  An array with the code texts as its only
element is taken as well.  The text is taken apart by any reader of JSON.

Main definitions:

- Type `CorpusFile.Fault`: why a file holds no corpus.
- Function `CorpusFile.texts?`: the code texts of a JSON value.
- Functions `CorpusFile.parse` and `CorpusFile.load`: the corpus of a text or file.
-/

namespace MakeTen
namespace CorpusFile

/-- Why a file holds no corpus. -/
inductive Fault where
  | unreadable (path : String) (cause : HostFault)
  /-- The text is not JSON, or its value is not of the right shape. -/
  | malformed (report : String)
  | puzzles (fault : Corpus.Fault)
  deriving Repr, DecidableEq

/-- The fault in words. -/
def Fault.message : Fault → String
  | .unreadable path cause =>
    "Cannot read puzzle corpus '" ++ path ++ "': " ++ cause.message
  | .malformed report => "Invalid puzzle corpus: " ++ report
  | .puzzles fault => fault.message

/-- The name of the member that holds the code texts. -/
def memberName : String := "puzzles"

/-- The strings of an array of strings. -/
def strings? : Json.Value → Option (List String)
  | .array elements => elements.mapM fun
    | .string text => text
    | _ => none
  | _ => none

/-- The code texts of a JSON value.  Every key has to stand for a text, and the
member may not be repeated. -/
def texts? : Json.Value → Option (List String)
  | .object members =>
    if members.any (·.1.isNone) then none
    else
      match members.filter (·.1 == some memberName) with
      | [(_, v)] => strings? v
      | _ => none
  | .array [v] => strings? v
  | _ => none

/-- The corpus of a JSON text. -/
def parse (json : DocumentReader Json.Value) (text : String) : Except Fault Corpus :=
  match json.parse texts? text with
  | .error report => .error (.malformed report)
  | .ok texts => (Corpus.ofTexts texts).mapError .puzzles

/-- The corpus of what came of reading the file at `path`. -/
def ofFile (json : DocumentReader Json.Value) (path : String) :
    Except HostFault String → Except Fault Corpus
  | .error cause => .error (.unreadable path cause)
  | .ok text => parse json text

/-- The corpus of the file at `path`. -/
def load (json : DocumentReader Json.Value) (files : Files) (path : String) :
    Except Fault Corpus :=
  ofFile json path (files.readText path)

end CorpusFile
end MakeTen
