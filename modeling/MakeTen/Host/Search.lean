import MakeTen.Host.Files
/-!
# Finding programs

A program is named by a path or by a single name.  A single name is looked up in
one directory after the other; a path is followed to a file, which has to be
one that can be run.

Main definitions:

- Function `Files.findPlace`: the place that a name or path leads to.
- Function `Files.findProgram`: the same, as long as it can be run.
- Function `fitsArguments`: whether a program can be started with some arguments.
-/

namespace MakeTen
namespace Files

/-- The path of a name in a directory; the empty path is the working directory. -/
def pathIn (directory name : String) : String :=
  if directory = "" then name
  else if directory.endsWith "/" then directory ++ name
  else directory ++ "/" ++ name

/-- The file that a path leads to, if it can be run. -/
def runnableAt (files : Files) (path : String) : Except HostFault (List String) :=
  match files.follow path with
  | .error cause => .error cause
  | .ok place =>
    match files.at? place with
    | some (.program _) => if files.isExecutable place then .ok place else .error .denied
    | some (.file _) => if files.isExecutable place then .ok place else .error .denied
    | _ => .error .denied

/-- The file of a name in the first of some directories that has it.  A file that
cannot be run is passed over, but it decides how a failure is worded. -/
def searchIn (files : Files) (name : String) (fault : HostFault) :
    List String → Except HostFault (List String)
  | [] => .error fault
  | directory :: rest =>
    match runnableAt files (pathIn directory name) with
    | .ok place => .ok place
    | .error .missing => searchIn files name fault rest
    | .error .notDirectory => searchIn files name fault rest
    | .error .denied => searchIn files name .denied rest
    | .error cause => .error cause

/-- The program that a name or path leads to, given the directories of a search
path. -/
def findProgram (files : Files) (searchPath name : String) :
    Except HostFault (List String) :=
  if name = "" then .error .missing
  else if name.toList.contains '/' then runnableAt files name
  else searchIn files name .missing (searchPath.splitOn ":")

/-- The path of the first file of a name in the directories of a search path,
whether it can be run or not. -/
def locate? (files : Files) (searchPath name : String) : Option String :=
  (searchPath.splitOn ":").findSome? fun directory =>
    let path := pathIn directory name
    match files.node? path with
    | some (.program _) => some path
    | some (.file _) => some path
    | _ => none

end Files

/-! ## Room for arguments -/

/-- Greatest number of bytes of an argument or variable. -/
def argumentLimit : Nat := 131071

/-- How much room there is for the path of a program, its arguments and its variables. -/
def argumentRoom : Nat := 2097152

/-- Whether a program can be started by some path with some arguments and variables, all
of them bytes.  Each takes the room of its bytes, of one more, and of its address. -/
def fitsArguments (path : List Char) (words : List (List Char))
    (environment : List (List Char × List Char)) : Bool :=
  let entries := environment.map fun (name, value) => name.length + value.length + 1
  let lengths := words.map List.length ++ entries
  lengths.all (· ≤ argumentLimit) &&
    path.length + 1 + (lengths.map (· + 9)).foldl (· + ·) 0 ≤ argumentRoom

end MakeTen
