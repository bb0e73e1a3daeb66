import MakeTen.CommandLine.GameCommand
import MakeTen.CommandLine.ListingCommand
import MakeTen.Play.LineReader
import MakeTen.Shell.Launch
import MakeTen.Toml.Document
/-!
# The program

The outer layer: it reads arguments, files and lines, and prints what the
commands say.  The program goes by two names.  Under the name of the game it
plays a session on the terminal, line by line; under the other name it prints a
listing.  What the commands do is decided by the commands.

Programs that judge runs are those that this library can carry out itself.
-/

namespace MakeTen
namespace Program

/-! ## Files and streams -/

/-- Why the host has refused something. -/
def refusal : IO.Error → HostFault
  | .noFileOrDirectory _ _ _ => .missing
  | .inappropriateType _ code _ => if code = 20 then .notDirectory else .isDirectory
  | .invalidArgument _ code _ => if code = 36 then .nameTooLong else .denied
  | _ => .denied

/-- The text of a file. -/
def readText (path : String) : IO (Except HostFault String) := do
  if path.toList.contains (Char.ofNat 0) then return .error .nulInPath
  match ← (IO.FS.readBinFile path).toBaseIO with
  | .error cause => return .error (refusal cause)
  | .ok contents =>
    match Utf8.decode? contents.toList with
    | some cs => return .ok (String.ofList cs)
    | none => return .error .invalidUtf8

/-- Print bytes. -/
def send (stream : IO.FS.Stream) (bytes : List UInt8) : IO Unit := do
  stream.write ⟨bytes.toArray⟩
  stream.flush

/-- Print what a command leaves behind, and give its status. -/
def leave (exit : Exit) : IO UInt32 := do
  send (← IO.getStdout) exit.output
  send (← IO.getStderr) exit.errors
  return exit.status.toUInt32

/-- The bytes up to the next line feed, which is the last of them unless the
stream is at its end. -/
partial def readSegment (stream : IO.FS.Stream) (segment : List UInt8) : IO (List UInt8) := do
  match (← stream.read 1).toList with
  | [] => return segment.reverse
  | byte :: _ =>
    if byte = Input.lineFeed then return (byte :: segment).reverse
    else readSegment stream (byte :: segment)

/-- All bytes of a stream. -/
partial def readRest (stream : IO.FS.Stream) (start : List (List UInt8)) : IO (List UInt8) := do
  let bytes := (← stream.read 4096).toList
  if bytes.isEmpty then return start.reverse.flatten else readRest stream (bytes :: start)

/-! ## The game -/

/-- The packages that the program is run with. -/
def packages : GameCommand.Packages Generator where
  toml := Toml.reader
  json := Json.reader
  random := Generator.source
  logger _ warning :=
    Exit.linesBytes ["[WARN  " ++ warning.origin ++ "] " ++ warning.message]

/-- What a session is played on. -/
structure Table where
  input : IO.FS.Stream
  output : IO.FS.Stream
  colored : Bool

/-- Show what happened. -/
def Table.show (t : Table) (events : List Event) : IO Unit :=
  send t.output (events.flatMap (Event.output t.colored))

/-- Play a session until it is over, with the buffer that lines are read into.  What a line
leads to be warned of is written down before it is shown. -/
partial def play (t : Table) (g : Game (Picker Generator) (Files × List Warning)) (buffer : List UInt8)
    (s : Session (Picker Generator) (Files × List Warning)) : IO Exit := do
  match Playthrough.result? s with
  | some (.ok _) => return .saying 0 []
  | some (.error fault) => return GameCommand.sessionExit fault
  | none =>
    let segment ← readSegment t.input []
    let (answer, r) := LineReader.readLine ⟨⟨segment, .exhausted⟩, buffer⟩
    let (events, next) := match answer with
      | .ok (some line) => s.hear g line
      | _ => s.leave
    send (← IO.getStderr) (packages.log (next.judge.2.drop s.judge.2.length))
    t.show events
    play t g r.buffer next

/-- A generator whose seed is made of eight random bytes. -/
def entropy : IO Generator := do
  let bytes ← IO.getRandomBytes 8
  return .ofSeed (bytes.toList.foldl (fun n b => n * 256 + b.toUInt64) 0)

/-- What the game command finds around it. -/
def world : GameCommand.World Generator Files IO where
  isThere path := do
    match ← readText path with
    | .error .missing => return false
    | _ => return true
  readText := readText
  launch := Shell.launch
  entropy := entropy
  isTerminal := do (← IO.getStdout).isTty
  play g picker colored := do
    let t : Table := ⟨← IO.getStdin, ← IO.getStdout, colored⟩
    let (events, session) := Session.start g picker (Files.withPrograms Shell.allPrograms, [])
    t.show events
    play t g [] session

/-- The game command. -/
def game (name : String) (arguments : List String) : IO Exit :=
  GameCommand.run packages world name arguments

/-! ## The listing -/

/-- The listing command. -/
def listing (name : String) (arguments : List String) : IO Exit := do
  let input ← match (ListingCommand.source false arguments).2 with
    | .input => readRest (← IO.getStdin) []
    | _ => pure []
  return ListingCommand.run name (← (← IO.getStdout).isTty) arguments input

/-! ## Names -/

/-- The name of the game command. -/
def gameName : String := "fourten"

/-- The name of the listing command. -/
def listingName : String := "fourten-dasm"

end Program
end MakeTen

open MakeTen in
/-- The program.  The name under which it was started says which command it
carries out. -/
def main (arguments : List String) : IO UInt32 := do
  let path := (← IO.appPath).toString
  if path.endsWith Program.listingName then
    Program.leave (← Program.listing Program.listingName arguments)
  else Program.leave (← Program.game Program.gameName arguments)
