import MakeTen.Process.Run
import MakeTen.Runner.Verdict
/-!
# Starting programs

The programs that judge runs are started here, among the files of a host.  They
are carried out by the library itself, as far as it can, so that the program runs
without any.  Judges start programs by any `launch` there may be: no theorem is
about this one.

Main definitions:

- Definition `Shell.allPrograms`: the programs that there are.
- Function `Shell.launch`: start a program with some arguments.
-/

namespace MakeTen
namespace Shell

/-- The programs that there are. -/
def allPrograms : List String :=
  Tool.programNames

/-- Whether a text cannot be handed to the host because it holds the character
that ends texts there. -/
def isUnspeakable (text : String) : Bool :=
  text.toList.contains Raw.nul

/-- The end of a process as it is told to the program that waits for it.  No image of its
memory is left behind here. -/
def exitStatus : ProcessEnd → ExitStatus
  | .exit code => .exit code
  | .signal number => .signal number false

/-- Start a program with some arguments among some files, and say what became of
it and of the files. -/
def launch (name : String) (arguments : List String) (files : Files) : Execution × Files :=
  if (name :: arguments).any isUnspeakable then (.notStarted .nulInCommand, files)
  else
    match files.findProgram Files.searchPath name with
    | .error cause => (.notStarted cause, files)
    | .ok place =>
      match Machine.outcome place ((name :: arguments).map Raw.ofString) files with
      | .error cause => (.notStarted cause, files)
      | .ok o => (.ended (exitStatus o.ending) o.output o.errors, o.files)

end Shell
end MakeTen
