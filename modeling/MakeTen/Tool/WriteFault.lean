import MakeTen.Tool.Job
/-!
# Outputs that cannot be written to

What a program says, and with which status it ends, if its output is closed or has
no room left.

Main definitions:

- Structure `Tool.Failure`: words and a status.
- Function `Tool.writeFailure`: those of a program.
-/

namespace MakeTen
namespace Tool

/-- What a program says about a failure, line by line, and its status after it. -/
structure Failure where
  lines : List Raw
  status : Nat

/-- The status of programs that do not end with one if they cannot write. -/
def writeStatus (name : String) : Nat :=
  match name with
  | "grep" | "egrep" | "fgrep" | "awk" | "mawk" | "nawk" | "ls" | "dir" | "vdir" | "diff"
  | "sort" | "printenv" => 2
  | "expr" => 3
  | "sed" => 4
  | "env" => 125
  | "hostname" => 0
  | _ => 1

/-- What a program says if it cannot write to its output, and how it ends. -/
def writeFailure (call : Call) (fault : HostFault) : Failure :=
  let name := Raw.toString call.shortName
  let why := faultText fault
  let isClosed := fault = .badDescriptor
  let under (text : Raw) : Raw := call.name ++ ": ".toList ++ text
  let usual := under ("write error: ".toList ++ why)
  let brief := if isClosed then usual else under "write error".toList
  let status := writeStatus name
  match name with
  | "cat" =>
    if isClosed then ⟨[under ("standard output: ".toList ++ why)], status⟩ else ⟨[usual], status⟩
  | "yes" | "diff" => ⟨[under ("standard output: ".toList ++ why)], status⟩
  | "tee" => ⟨[under ("'standard output': ".toList ++ why)], status⟩
  | "sed" =>
    let verb := if isClosed then "close" else "flush"
    ⟨[under ("couldn't ".toList ++ verb.toList ++ " stdout: ".toList ++ why)], status⟩
  | "awk" | "mawk" | "nawk" =>
    ⟨[under ("close failed on file \"/dev/stdout\" (".toList ++ why ++ [')'])], status⟩
  | "sort" => ⟨[under ("fflush failed: 'standard output': ".toList ++ why), brief], status⟩
  | "find" => ⟨[under ("'standard output': ".toList ++ why), brief], status⟩
  | "wc" | "cksum" | "sum" | "md5sum" | "sha1sum" | "sha224sum" | "sha256sum" | "sha384sum"
  | "sha512sum" => ⟨[brief], status⟩
  | "which" => ⟨["/usr/bin/which: 13: printf: printf: I/O error".toList], status⟩
  | "dd" =>
    let ofOutput (verb : String) : Raw :=
      under (verb.toList ++ " 'standard output': ".toList ++ why)
    ⟨ofOutput "writing to" :: (if isClosed then [ofOutput "closing output file"] else []), status⟩
  | "rev" => if isClosed then ⟨[], 0⟩ else ⟨[usual], status⟩
  | "hostname" => ⟨[], status⟩
  | _ => ⟨[usual], status⟩

end Tool
end MakeTen
