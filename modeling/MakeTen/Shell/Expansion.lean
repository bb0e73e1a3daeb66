import MakeTen.Shell.Arithmetic
import MakeTen.Shell.Pattern
import MakeTen.Shell.State
/-!
# Expansion

What a word comes to: parameters, the output of commands and arithmetic are put
in, the result is split into fields, and patterns become paths.

The output of commands is not at hand when it is first asked for.  The expansion
then stops and names the commands, and it is done once more from its start when
their output is known.

Main definitions:

- Type `Shell.Expand`: steps of an expansion.
- Function `Shell.splitFields`: the fields of an expanded word.
- Functions `Shell.expandFields`, `Shell.expandText` and `Shell.expandPattern`:
  what a word comes to in different places.
-/

namespace MakeTen
namespace Shell

/-! ## Fields -/

/-- What an expanded word is made of. -/
inductive Atom where
  /-- A character, and whether it may separate fields. -/
  | glyph (glyph : Glyph) (separates : Bool)
  /-- Something quoted is here, even if it is empty. -/
  | mark
  /-- A parameter of several ends here.  Between quoted ones a field ends; between
others is what counts as a blank. -/
  | boundary (quoted : Bool)
  /-- Something that may be split starts here. -/
  | region

/-- The characters of a quoted or unquoted text.  Unquoted results of an
expansion may separate fields. -/
def atoms (quoted expanded : Bool) (raw : Raw) : List Atom :=
  raw.map fun c => .glyph ⟨c, quoted⟩ (expanded && !quoted)

/-- The atoms of a value that has been put in. -/
def valueAtoms (quoted : Bool) (raw : Raw) : List Atom :=
  (if quoted then .mark else .region) :: atoms quoted true raw

/-- Blanks among the separators, which count once however many there are. -/
def isBlankSeparator (c : Char) : Bool :=
  c == ' ' || c == '\t' || c == '\n'

/-- What has been seen since the last field ended. -/
inductive Gap where
  /-- No separator. -/
  | none
  /-- Blank separators; another one belongs to them. -/
  | blanks
  /-- A separator that is no blank. -/
  | full

/-- The fields of an expanded word; `current` is the field begun, in reverse, and
`done` are those before it, in reverse. -/
def splitOnto (separators : Raw) (gap : Gap) (current : Option (List Glyph))
    (done : List (List Glyph)) : List Atom → List (List Glyph)
  | [] => ((current.map List.reverse).toList ++ done).reverse
  | .mark :: rest => splitOnto separators .none (some (current.getD [])) done rest
  | .region :: rest => splitOnto separators .none current done rest
  | .boundary quoted :: rest =>
    if quoted then
      splitOnto separators .none none ((current.map List.reverse).toList ++ done) rest
    else match gap, current with
      | .none, some field => splitOnto separators .blanks none (field.reverse :: done) rest
      | gap, current => splitOnto separators gap current done rest
  | .glyph g separates :: rest =>
    if separates && separators.contains g.char then
      let isBlank := isBlankSeparator g.char
      match gap with
      | .blanks => splitOnto separators (if isBlank then .blanks else .full) current done rest
      | .full =>
        if isBlank then splitOnto separators .full current done rest
        else splitOnto separators .full none ([] :: done) rest
      | .none =>
        if isBlank ∧ current.isNone then splitOnto separators .none none done rest
        else
          splitOnto separators (if isBlank then .blanks else .full) none
            ((current.getD []).reverse :: done) rest
    else splitOnto separators .none (some (g :: current.getD [])) done rest

/-- The fields of an expanded word. -/
def splitFields (separators : Raw) (as : List Atom) : List (List Glyph) :=
  splitOnto separators .none none [] as

/-- The characters of an expanded word that is not split. -/
def unsplit (joint : Raw) (as : List Atom) : List Glyph :=
  as.flatMap fun
    | .glyph g _ => [g]
    | .boundary _ => joint.map fun c => ⟨c, false⟩
    | _ => []

/-! ## Steps -/

/-- What an expansion has before it. -/
structure Scene where
  state : State
  files : Files
  /-- Outputs of commands that have not been used, each with the status of the
  commands. -/
  outputs : List (Raw × Nat)

/-- Why an expansion stops. -/
inductive Interrupt where
  /-- It needs the output of commands, in a shell that has come so far. -/
  | output (body : List Command) (state : State)
  /-- The shell is to end after a complaint. -/
  | fault (text : Raw)
  /-- A signal ends the shell at once. -/
  | signal (number : Nat)

/-- Steps of an expansion.  What they change before a fault stays changed. -/
abbrev Expand := ExceptT Interrupt (StateM Scene)

/-- Change the state of the shell. -/
def modifyState (f : State → State) : Expand Unit :=
  modify fun s => { s with state := f s.state }

/-- Give a variable another value. -/
def assignVariable (name : String) (value : Raw) : Expand Unit := do
  if (← get).state.isReadOnly name then
    throw (.fault (name.toList ++ ": is read only".toList))
  else if name = "OPTIND" ∧ (Raw.toInt? value).isNone then
    throw (.fault ("Illegal number: ".toList ++ value))
  else modifyState fun s => s.assign name value

/-- The output of commands without the line ends after it. -/
def outputOf (body : List Command) : Expand Raw := do
  let s ← get
  match s.outputs with
  | (raw, status) :: rest =>
    set { s with outputs := rest, state := { s.state with substituted := some status } }
    return Raw.dropEnd (· == '\n') (raw.filter (· ≠ Raw.nul))
  | [] => throw (.output body s.state)

/-- The digits of the value of an expression. -/
def sumOf (raw : Raw) : Expand Raw := do
  let s ← get
  let refuse (what : String) : Expand Raw :=
    throw (.fault ("arithmetic expression: ".toList ++ what.toList ++ ": \"".toList ++ raw ++
      ['"']))
  let (result, assignments) := evaluate ⟨s.state.lookup?, s.state.isReadOnly⟩ raw
  for (name, m) in assignments.reverse do
    assignVariable name (Raw.ofInt m)
  match result with
  | .ok n => return Raw.ofInt n
  | .error .divisionByZero => refuse "division by zero"
  | .error .overflow => throw (.signal 8)
  | .error (.expecting what) => refuse ("expecting " ++ what)
  | .error (.badNumber text) => throw (.fault ("Illegal number: ".toList ++ text))
  | .error (.readOnly name) => throw (.fault (name.toList ++ ": is read only".toList))

/-- The home directory of a user, from a variable or from the account file. -/
def homeOf? (s : Scene) (user : Raw) : Option Raw :=
  if user.isEmpty then s.state.lookup? "HOME"
  else
    match s.files.read "/etc/passwd" with
    | .error _ => none
    | .ok bytes =>
      (Raw.lines (Raw.ofBytes bytes)).findSome? fun line =>
        let fields := Raw.splitOn ':' line
        if fields.head? = some user then fields[5]? else none

/-! ## Parameters -/

/-- Whether a name stands for all positional parameters. -/
def isListName (name : String) : Bool :=
  name == "@" || name == "*"

/-- The positional parameters, each a field of its own. -/
def listAtoms (quoted : Bool) (values : List Raw) : List Atom :=
  if quoted then ((values.map (valueAtoms true)).intersperse [.boundary true]).flatten
  else .region :: ((values.map (atoms false true)).intersperse [.boundary false]).flatten

/-- The atoms of all positional parameters under one of their two names. -/
def positionalAtoms (s : State) (quoted : Bool) (name : String) : List Atom :=
  if name = "*" ∧ quoted then valueAtoms true (Raw.join s.joint s.positional)
  else listAtoms quoted s.positional

/-- The part of a text in front of the first character that ends texts. -/
def upToNul (raw : Raw) : Raw :=
  raw.takeWhile (· ≠ Raw.nul)

/-- A list of values without a matching end.  The values are one text in which
the character that ends texts is between them, so that a pattern sees one value
at a time. -/
def cutList (cut : Cut) (pieces : List Piece) (raw : Raw) : Raw :=
  let sizes := List.range (raw.length + 1)
  let isHead (n : Nat) : Bool := fits pieces (upToNul (raw.take n))
  let isTail (n : Nat) : Bool := fits pieces (upToNul (raw.drop n))
  match cut with
  | .shortHead => ((sizes.find? isHead).map raw.drop).getD raw
  | .longHead => ((sizes.reverse.find? isHead).map raw.drop).getD raw
  | .shortTail => ((sizes.reverse.find? isTail).map raw.take).getD raw
  | .longTail => ((sizes.find? isTail).map raw.take).getD raw

/-- A value without a matching end. -/
def cutValue (cut : Cut) (pieces : List Piece) (raw : Raw) : Raw :=
  match cut with
  | .shortHead => cutHead false pieces raw
  | .longHead => cutHead true pieces raw
  | .shortTail => cutTail false pieces raw
  | .longTail => cutTail true pieces raw

/-- Atoms of the word of a parameter use, whose plain characters may separate
fields. -/
def splitting (as : List Atom) : List Atom :=
  .region :: as.map fun
    | .glyph g _ => .glyph g !g.quoted
    | a => a

/-- Whether a parameter counts as having no value. -/
def isMissing (s : State) (name : String) (emptyToo : Bool) : Bool :=
  if isListName name then
    s.positional.isEmpty || (emptyToo && (Raw.join s.joint s.positional).isEmpty)
  else
    match s.value? name with
    | none => true
    | some raw => emptyToo && raw.isEmpty

/-- The atoms of a parameter that is looked up. -/
def parameterAtoms (s : State) (quoted : Bool) (name : String) : List Atom :=
  if isListName name then positionalAtoms s quoted name
  else valueAtoms quoted ((s.value? name).getD [])

/-- Stop if a parameter has no value and has to have one. -/
def requireValue (name : String) : Expand Unit := do
  let s := (← get).state
  if s.has "nounset" ∧ ¬ isListName name ∧ (s.value? name).isNone then
    throw (.fault (name.toList ++ ": parameter not set".toList))

/-! ## Words -/

mutual

/-- What the parts of a word come to. -/
def expandParts : List Part → Expand (List Atom)
  | [] => return []
  | part :: rest => do
    let first ← expandPart part
    let more ← expandParts rest
    return first ++ more

/-- What one part of a word comes to. -/
def expandPart : Part → Expand (List Atom)
  | .text quoted raw => return (if quoted then [.mark] else []) ++ atoms quoted false raw
  | .home true user => return atoms false false ('~' :: user)
  | .home false user => do
    match homeOf? (← get) user with
    | some raw => return atoms true true raw
    | none => return atoms false false ('~' :: user)
  | .output quoted body => do return valueAtoms quoted (← outputOf body)
  | .arithmetic quoted expression => do
    let as ← expandParts expression
    let joint := (← get).state.joint
    return valueAtoms quoted (← sumOf ((unsplit joint as).map Glyph.char))
  | .parameter quoted name use => expandUse quoted name use

/-- What a use of a parameter comes to. -/
def expandUse (quoted : Bool) (name : String) : ParameterUse → Expand (List Atom)
  | .malformed => throw (.fault "Bad substitution".toList)
  | .value => do
    requireValue name
    return parameterAtoms (← get).state quoted name
  | .length => do
    requireValue name
    let s := (← get).state
    let value := if isListName name then Raw.join s.joint s.positional
      else (s.value? name).getD []
    return valueAtoms quoted (Raw.ofNat value.length)
  | .orElse emptyToo word => do
    let s := (← get).state
    if isMissing s name emptyToo then
      let as ← expandParts word
      return if quoted then as else splitting as
    else return parameterAtoms s quoted name
  | .orAssign emptyToo word => do
    let s := (← get).state
    if isMissing s name emptyToo then
      let as ← expandParts word
      if ¬ Raw.isName name.toList then
        throw (.fault (name.toList ++ ": bad variable name".toList))
      let raw := (unsplit (← get).state.joint as).map Glyph.char
      assignVariable name raw
      return valueAtoms quoted raw
    else return parameterAtoms s quoted name
  | .orFail emptyToo word => do
    let s := (← get).state
    if isMissing s name emptyToo then
      let as ← expandParts word
      let raw := (unsplit s.joint as).map Glyph.char
      let text := if raw.isEmpty then
        (if emptyToo then "parameter not set or null" else "parameter not set").toList
        else raw
      throw (.fault (name.toList ++ ": ".toList ++ text))
    else return parameterAtoms s quoted name
  | .instead emptyToo word => do
    let s := (← get).state
    if isMissing s name emptyToo then return if quoted then [.mark] else [.region]
    else
      let as ← expandParts word
      return if quoted then as else splitting as
  | .without cut pattern => do
    requireValue name
    let as ← expandParts pattern
    let s := (← get).state
    let pieces := compile (unsplit s.joint as)
    if isListName name ∧ ¬ (name = "*" ∧ quoted) then
      let raw := cutList cut pieces (Raw.join [Raw.nul] s.positional)
      return listAtoms quoted (if s.positional.isEmpty then [] else Raw.splitOn Raw.nul raw)
    else
      let value := if name = "*" then Raw.join s.joint s.positional
        else (s.value? name).getD []
      return valueAtoms quoted (cutValue cut pieces value)

end

/-! ## Places -/

/-- The fields that a word comes to. -/
def expandFields (word : Word) : Expand (List Raw) := do
  let as ← expandParts word
  let s ← get
  let fields := splitFields s.state.separators as
  if s.state.has "noglob" then return fields.map fun field => field.map Glyph.char
  else return fields.flatMap (matchNames s.files)

/-- What a word comes to where it is not split. -/
def expandText (word : Word) : Expand Raw := do
  let as ← expandParts word
  return (unsplit (← get).state.joint as).map Glyph.char

/-- Whether a word is spelt like an assignment. -/
def isAssignment (word : Word) : Bool :=
  match word with
  | .text false raw :: _ => raw.getLast? = some '=' && Raw.isName raw.dropLast
  | _ => false

/-- What an assignment comes to that is the argument of a command. -/
def expandAssignment (word : Word) : Expand Raw :=
  expandText <| word.map fun
    | .home _ user => .home false user
    | part => part

/-- The pattern that a word comes to. -/
def expandPattern (word : Word) : Expand (List Piece) := do
  let as ← expandParts word
  return compile (unsplit (← get).state.joint as)

end Shell
end MakeTen
