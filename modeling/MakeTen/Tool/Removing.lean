import MakeTen.Tool.Making
/-!
# Removing files

The programs that remove files, and directories with all that is in them.  They
may ask before each step; the answers are lines of the input.

Main definitions:

- Function `Tool.removeTree`: what a path leads to and all below it.
- Functions `Tool.rm` and `Tool.unlink`: the programs.
-/

namespace MakeTen
namespace Tool

/-- Whether a line of the input begins with a yes. -/
def isAgreed : Job Bool := do
  match ← readLine? with
  | some (c :: _, _) => return c == 'y' || c == 'Y'
  | _ => return false

/-- Ask something under the program's name. -/
def question (raw : Raw) : Job Bool := do
  flush
  put 2 ((← get).call.name ++ ": ".toList ++ raw ++ "? ".toList)
  isAgreed

/-- What something is called. -/
def kindName : FileNode → String
  | .directory => "directory"
  | .file [] => "regular empty file"
  | .file _ => "regular file"
  | .program _ => "regular file"
  | .link _ => "symbolic link"
  | .device _ => "character special file"

/-- How things are removed. -/
structure Removal where
  /-- Whether directories are removed with all that is in them. -/
  isDeep : Bool
  /-- Whether empty directories are removed. -/
  takesEmpty : Bool
  /-- Whether nothing is said about what is not there. -/
  isForced : Bool
  asks : Bool
  isVerbose : Bool

/-- The path of a name in a directory. -/
def below (path : Raw) (name : String) : Raw :=
  path ++ (if path.getLast? = some '/' then [] else ['/']) ++ Raw.ofString name

/-- Remove something that has nothing below it. -/
def removeLeaf (r : Removal) (path : Raw) (node : FileNode) : Job Bool := do
  let isDirectory : Bool := node = .directory
  let isRefused : Bool ←
    if r.asks then do pure (!(← question ("remove ".toList ++ (kindName node).toList ++ [' '] ++
      named path)))
    else pure false
  if isRefused then return true
  let fault ← changing fun files =>
    if isDirectory then files.removeDirectory (Raw.toString path)
    else files.removeOther (Raw.toString path)
  match fault with
  | none =>
    if r.isVerbose then
      sayLine ((if isDirectory then "removed directory " else "removed ").toList ++ named path)
    return true
  | some fault =>
    flush
    complainThat "cannot remove " path fault
    return false

/-- Remove what a path leads to and all below it. -/
def removeTree (r : Removal) : Nat → Raw → Job Bool
  | 0, _ => return true
  | fuel + 1, path => do
    let files := (← get).files
    match files.ownPlace (Raw.toString path) with
    | .error fault =>
      if r.isForced ∧ (fault = .missing ∨ fault = .notDirectory) then return true
      flush
      complainThat "cannot remove " path fault
      return false
    | .ok place =>
      let node := (files.at? place).getD .directory
      if node ≠ .directory then removeLeaf r path node
      else
        let names := files.children place
        if ¬ r.isDeep then
          if r.takesEmpty then
            if names.isEmpty then removeLeaf r path node
            else
              flush
              complainThat "cannot remove " path .notEmpty
              return false
          else
            flush
            complainThat "cannot remove " path .isDirectory
            return false
        else
          let isSkipped : Bool ←
            if r.asks ∧ ¬ names.isEmpty then do
              pure (!(← question ("descend into directory ".toList ++ named path)))
            else pure false
          if isSkipped then return true
          let mut isGood := true
          for name in names do
            if ¬ (← removeTree r fuel (below path name)) then isGood := false
          let isRemoved ← removeLeaf r path node
          return isGood && isRemoved

/-- Whether the last name of a path is one or two dots. -/
def endsInDots (path : Raw) : Bool :=
  let name := ((Raw.dropEnd (· == '/') path).reverse.takeWhile (· ≠ '/')).reverse
  name == ['.'] || name == ['.', '.']

/-- Remove files. -/
def rm : Job Unit := do
  let o ← options ("r,R,recursive f,force i I interactive? v,verbose d,dir " ++
    "one-file-system preserve-root? no-preserve-root")
  let manner := (o.options.reverse.filterMap fun (key, value) =>
    if key == "f" || key == "i" || key == "I" then some key
    else if key == "interactive" then
      some (match String.ofList value with
        | "never" => "f"
        | "no" => "f"
        | "none" => "f"
        | "once" => "I"
        | _ => "i")
    else none).head?
  if o.operands.isEmpty then
    if o.has "f" then exit 0
    missingOperand 1
  let r : Removal := ⟨o.has "r", o.has "d", manner = some "f", manner = some "i", o.has "v"⟩
  let count := o.operands.length
  if manner = some "I" ∧ (r.isDeep ∨ 3 < count) then
    let isAgreed ← question ("remove ".toList ++ Raw.ofNat count ++
      (if count = 1 then " argument" else " arguments").toList ++
      (if r.isDeep then " recursively" else "").toList)
    if ¬ isAgreed then exit 0
  let mut isGood := true
  for path in o.operands do
    let files := (← get).files
    if r.isDeep ∧ path ≠ [] ∧ path.all (· == '/') ∧ ¬ o.has "no-preserve-root" then
      let suffix : Raw := if path = ['/'] then [] else " (same as '/')".toList
      complain ("it is dangerous to operate recursively on ".toList ++ named path ++ suffix)
      complain "use --no-preserve-root to override this failsafe".toList
      isGood := false
    else if r.isDeep ∧ endsInDots path then
      complain ("refusing to remove '.' or '..' directory: skipping ".toList ++ named path)
      isGood := false
    else
      let isLink : Bool :=
        match files.ownNode? (Raw.toString (Raw.dropEnd (· == '/') path)) with
        | some (.link _) => path.getLast? == some '/'
        | _ => false
      if isLink then
        complainThat "cannot remove " path (if r.isDeep then .notDirectory else .isDirectory)
        isGood := false
      else if ¬ (← removeTree r (files.entries.length + 2) path) then isGood := false
  exitGood isGood

/-- Remove one file. -/
def unlink : Job Unit := do
  let o ← options ""
  match o.operands with
  | [] => missingOperand 1
  | [path] =>
    match ← changing fun files => files.removeOther (Raw.toString path) with
    | none => exit 0
    | some fault =>
      complain ("cannot unlink ".toList ++ named path ++ ": ".toList ++ faultText fault)
      exit 1
  | _ :: extra :: _ => extraOperand 1 extra

end Tool
end MakeTen
