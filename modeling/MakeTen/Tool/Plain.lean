import MakeTen.Tool.Options
import MakeTen.Tool.Printing
/-!
# Plain programs

Programs that look at nothing but their arguments: those that print them, those
that only have a status, and those that say something about a path.

Main definitions:

- Functions `Tool.echoProgram` and `Tool.printfProgram`: arguments printed.
- Functions `Tool.basename` and `Tool.dirname`: parts of paths.
-/

namespace MakeTen
namespace Tool

/-! ## Printing -/

/-- Print the arguments. -/
def echoProgram : Job Unit := do
  say (echo .program (← get).call.arguments)

/-- A fault of a format in words. -/
def FormatFault.programText : FormatFault → Raw
  | .notNumber text => Quoting.forReader text ++ ": expected a numeric value".toList
  | .notWhole text => Quoting.forReader text ++ ": value not completely converted".toList
  | .tooLarge text => Quoting.forReader text ++ ": Numerical result out of range".toList
  | .badConversion text => text ++ ": invalid conversion specification".toList
  | .missingLetter text => text ++ ": invalid conversion specification".toList
  | .missingDigits => "missing hexadecimal number in escape".toList
  | .excess text =>
    "warning: ignoring excess arguments, starting with ".toList ++ Quoting.forReader text
  | .ignored text =>
    "warning: ".toList ++ text ++
      ": character(s) following character constant have been ignored".toList

/-- Print the arguments by a format. -/
def printfProgram : Job Unit := do
  let arguments := match (← get).call.arguments with
    | ['-', '-'] :: rest => rest
    | arguments => arguments
  match arguments with
  | [] => missingOperand 1
  | format :: arguments =>
    let p := printf .program format arguments
    say p.output
    for fault in p.faults do
      complain fault.programText
    let isFatal := p.faults.any FormatFault.isFatal
    let isGood := p.faults.all FormatFault.isWarning || (p.stopped && !isFatal)
    exitGood (isGood && !isFatal)

/-! ## Paths -/

/-- A path without slashes at its end. -/
def dropSlashes (path : Raw) : Raw :=
  Raw.dropEnd (· == '/') path

/-- The last name of a path. -/
def lastName (path : Raw) : Raw :=
  let trimmed := dropSlashes path
  if trimmed.isEmpty then path.take 1
  else (trimmed.reverse.takeWhile (· ≠ '/')).reverse

/-- A path without its last name. -/
def withoutLast (path : Raw) : Raw :=
  let trimmed := dropSlashes path
  if trimmed.isEmpty then (if path.isEmpty then ['.'] else ['/'])
  else
    let above := (trimmed.reverse.dropWhile (· ≠ '/')).reverse
    if above.isEmpty then ['.']
    else
      let shorter := dropSlashes above
      if shorter.isEmpty then ['/'] else shorter

/-- A name without an ending, unless nothing else is left. -/
def dropEnding (ending name : Raw) : Raw :=
  if ending.isSuffixOf name ∧ ending ≠ name then name.take (name.length - ending.length)
  else name

/-- The last names of paths. -/
def basename : Job Unit := do
  let o ← leadingOptions "a,multiple s,suffix: z,zero" 1
  let finish : Raw := if o.has "z" then [Raw.nul] else ['\n']
  let isMany := o.has "a" || o.has "s"
  match o.operands with
  | [] => missingOperand 1
  | path :: rest =>
    if isMany then
      for p in path :: rest do
        say (dropEnding ((o.value? "s").getD []) (lastName p) ++ finish)
    else
      match rest with
      | [] => say (lastName path ++ finish)
      | [ending] => say (dropEnding ending (lastName path) ++ finish)
      | _ :: extra :: _ => extraOperand 1 extra

/-- Paths without their last names. -/
def dirname : Job Unit := do
  let o ← leadingOptions "z,zero" 1
  if o.operands.isEmpty then missingOperand 1
  for path in o.operands do
    say (withoutLast path ++ if o.has "z" then [Raw.nul] else ['\n'])

/-- The working directory. -/
def pwd : Job Unit := do
  let o ← options "L,logical P,physical"
  let d ← get
  let place := '/' :: (String.intercalate "/" d.files.here).toList
  let named := (d.call.valueOf? "PWD").getD []
  let isNamed : Bool := named.head? == some '/' &&
    match d.files.follow (Raw.toString named) with
    | .ok found => found == d.files.here
    | .error _ => false
  if ¬ o.operands.isEmpty then complain "ignoring non-option arguments".toList
  sayLine (if o.last? ["L", "P"] = some "L" ∧ isNamed then named else place)

end Tool
end MakeTen
