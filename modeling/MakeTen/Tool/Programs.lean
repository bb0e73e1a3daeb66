import MakeTen.Tool.Blocks
import MakeTen.Tool.Characters
import MakeTen.Tool.Columns
import MakeTen.Tool.Comparing
import MakeTen.Tool.Condition
import MakeTen.Tool.Copying
import MakeTen.Tool.Dump
import MakeTen.Tool.Editing
import MakeTen.Tool.Filling
import MakeTen.Tool.Finding
import MakeTen.Tool.Gathering
import MakeTen.Tool.Joining
import MakeTen.Tool.Listing
import MakeTen.Tool.Making
import MakeTen.Tool.Measuring
import MakeTen.Tool.Numbering
import MakeTen.Tool.Parting
import MakeTen.Tool.Placing
import MakeTen.Tool.Plain
import MakeTen.Tool.Reckoning
import MakeTen.Tool.Removing
import MakeTen.Tool.Rescaling
import MakeTen.Tool.Scripting
import MakeTen.Tool.Searching
import MakeTen.Tool.Shuffling
import MakeTen.Tool.Sorting
import MakeTen.Tool.Summing
import MakeTen.Tool.Surroundings
import MakeTen.Tool.Tabs
import MakeTen.Tool.Viewing
/-!
# Programs

The programs that a host has, by their names.

Main definitions:

- Function `Tool.program?`: the job of a program.
- Definition `Tool.programNames`: all programs, shells among them.
-/

namespace MakeTen
namespace Tool

/-- The shells. -/
def shellNames : List String := ["sh", "dash"]

/-- Programs that look at little more than their arguments. -/
def plainJobs : List (String × Job Unit) :=
  [("true", exit 0), ("false", exit 1), ("echo", echoProgram), ("printf", printfProgram),
    ("test", testProgram), ("[", testProgram), ("basename", basename), ("dirname", dirname),
    ("pwd", pwd), ("yes", yes), ("seq", seq), ("expr", expr), ("factor", factor),
    ("which", which), ("tty", tty), ("whoami", whoami), ("id", idProgram), ("uname", uname),
    ("arch", arch), ("nproc", nproc), ("hostname", hostname), ("date", date)]

/-- Programs that start others or wait. -/
def launchJobs : List (String × Job Unit) :=
  [("env", env), ("printenv", printenv), ("nice", nice), ("nohup", nohup), ("setsid", setsid),
    ("stdbuf", stdbuf), ("sleep", sleep), ("timeout", timeoutProgram), ("xargs", xargs)]

/-- Programs that change or show what they read. -/
def filterJobs : List (String × Job Unit) :=
  [("cat", cat), ("tac", tac), ("rev", rev), ("head", head), ("tail", tail), ("wc", wc),
    ("nl", nl), ("tee", tee), ("cut", cut), ("paste", paste), ("fold", fold), ("fmt", fmt), ("numfmt", numfmt),
    ("expand", expand), ("unexpand", unexpand), ("tr", tr), ("sort", sort), ("uniq", uniq),
    ("comm", comm), ("join", join), ("tsort", tsort), ("shuf", shuf), ("od", od),
    ("base64", lettering .sixtyFour), ("base32", lettering .thirtyTwo), ("basenc", basenc),
    ("cksum", cksum), ("sum", sum), ("grep", grep), ("egrep", grep), ("fgrep", grep), ("sed", sed),
    ("awk", awk), ("mawk", awk), ("nawk", awk)] ++
    summers.map fun (name, s) => (name, summing s)

/-- Programs that look at files or change them. -/
def fileJobs : List (String × Job Unit) :=
  [("mkdir", mkdir), ("rmdir", rmdir), ("touch", touch), ("truncate", truncate),
    ("mktemp", mktemp), ("chmod", chmod), ("rm", rm), ("unlink", unlink), ("cp", cp), ("mv", mv),
    ("ln", ln), ("link", link), ("install", install), ("cmp", cmp), ("diff", diff), ("ls", ls),
    ("dir", ls), ("vdir", ls), ("stat", stat), ("readlink", readlink), ("realpath", realpath),
    ("dd", dd), ("split", split), ("find", find)]

/-- The programs that are no shells. -/
def jobs : List (String × Job Unit) :=
  plainJobs ++ launchJobs ++ filterJobs ++ fileJobs

/-- The job of a program. -/
def program? (name : String) : Option (Job Unit) :=
  jobs.lookup name

/-- All programs. -/
def programNames : List String :=
  shellNames ++ jobs.map (·.1)

end Tool
end MakeTen
