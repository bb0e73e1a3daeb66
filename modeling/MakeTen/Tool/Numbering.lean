import MakeTen.Regex.Matching
import MakeTen.Regex.Reader
import MakeTen.Tool.Lines
/-!
# Numbered lines

The program `nl` puts numbers in front of lines.  A text may have pages, each with a
header, a body and a footer, in which different lines are numbered.

Main definitions:

- Structure `Tool.NumberStyle`: how lines are numbered.
- Function `Tool.nl`: the program.
-/

namespace MakeTen
namespace Tool

/-- Which lines are numbered. -/
inductive Numbered where
  | all
  | filled
  | none
  | matching (pattern : Regex)

/-- How lines are numbered. -/
structure NumberStyle where
  header : Numbered
  body : Numbered
  footer : Numbered
  separator : Raw
  start : Int
  step : Int
  width : Nat
  format : Raw
  /-- How many empty lines count as one. -/
  blanks : Nat
  delimiter : Raw
  keepsCount : Bool

/-- Where numbering has come to. -/
structure NumberState where
  number : Int
  kind : Numbered
  empties : Nat

/-- A number in its column. -/
def NumberStyle.column (style : NumberStyle) (n : Int) : Raw :=
  let digits := Raw.ofInt n
  match style.format with
  | ['l', 'n'] => Raw.padEnd style.width ' ' digits
  | ['r', 'z'] =>
    if n < 0 then '-' :: Raw.padStart (style.width - 1) '0' (Raw.ofNat n.natAbs)
    else Raw.padStart style.width '0' digits
  | _ => Raw.padStart style.width ' ' digits

/-- Show a line with its number. -/
def NumberStyle.showLine (style : NumberStyle) (state : NumberState) (line : Line) :
    Job NumberState := do
  let d := style.delimiter
  let reset (kind : Numbered) : Job NumberState := do
    say ['\n']
    return ⟨if style.keepsCount then state.number else style.start, kind, 0⟩
  if ¬ d.isEmpty ∧ line.raw = d ++ d ++ d then reset style.header
  else if ¬ d.isEmpty ∧ line.raw = d ++ d then reset style.body
  else if ¬ d.isEmpty ∧ line.raw = d then reset style.footer
  else
    let empties := if line.raw.isEmpty then state.empties + 1 else 0
    let isNumbered := match state.kind with
      | .all => !line.raw.isEmpty || empties % (max 1 style.blanks) == 0
      | .filled => !line.raw.isEmpty
      | .none => false
      | .matching r => Regex.isIn (.ofLine false line.raw) r
    if isNumbered then
      say (style.column state.number ++ style.separator ++ line.raw ++ ['\n'])
      return { state with number := state.number + style.step, empties }
    else
      say (List.replicate (style.width + style.separator.length) ' ' ++ line.raw ++ ['\n'])
      return { state with empties }

/-- The lines that an option asks to number, or nothing if it is not understood. -/
def numberedOf? (value : Raw) : Job (Option Numbered) := do
  match value with
  | 'a' :: _ => return some .all
  | 't' :: _ => return some .filled
  | 'n' :: _ => return some .none
  | 'p' :: pattern =>
    match Regex.read Regex.Flavour.basicSearch pattern with
    | .ok r => return some (.matching r)
    | .error fault => giveUp 1 fault.text.toList
  | _ => return none

/-- A whole number that an option gives, of at least some size. -/
def wholeOption (what : String) (least most : Int) (value : Raw) : Job Int := do
  let complaint := what.toList ++ ": ".toList ++ Quoting.forReader value
  let body := value.dropWhile Raw.isSpace
  let body := if body.head? = some '+' ∧ body[1]? ≠ some '-' then body.drop 1 else body
  match Raw.toInt? body with
  | none => giveUp 1 complaint
  | some n =>
    if n < -9223372036854775808 ∨ 9223372036854775807 < n then
      giveUp 1 (complaint ++ ": Value too large for defined data type".toList)
    else if n < least ∨ most < n then
      giveUp 1 (complaint ++ (if 4611686018427387903 < n
        then ": Value too large for defined data type".toList
        else ": Numerical result out of range".toList))
    else return n

/-- The style with one more option, and whether the option is understood. -/
def NumberStyle.withOption (style : NumberStyle) (key : String) (value : Raw) :
    Job (NumberStyle × Bool) := do
  let least : Int := -9223372036854775808
  let most : Int := 9223372036854775807
  let refuse (what : String) : Job (NumberStyle × Bool) := do
    complain ("invalid ".toList ++ what.toList ++ ": ".toList ++ Quoting.forReader value)
    return (style, false)
  match key with
  | "h" =>
    match ← numberedOf? value with
    | some header => return ({ style with header }, true)
    | none => refuse "header numbering style"
  | "b" =>
    match ← numberedOf? value with
    | some body => return ({ style with body }, true)
    | none => refuse "body numbering style"
  | "f" =>
    match ← numberedOf? value with
    | some footer => return ({ style with footer }, true)
    | none => refuse "footer numbering style"
  | "v" =>
    let start ← wholeOption "invalid starting line number" least most value
    return ({ style with start }, true)
  | "i" =>
    let step ← wholeOption "invalid line number increment" least most value
    return ({ style with step }, true)
  | "l" =>
    let n ← wholeOption "invalid line number of blank lines" 1 most value
    return ({ style with blanks := n.toNat }, true)
  | "w" =>
    let n ← wholeOption "invalid line number field width" 1 2147483647 value
    return ({ style with width := n.toNat }, true)
  | "n" =>
    if ["ln", "rn", "rz"].contains (String.ofList value) then
      return ({ style with format := value }, true)
    else refuse "line numbering format"
  | "s" => return ({ style with separator := value }, true)
  | "p" => return ({ style with keepsCount := true }, true)
  | "d" =>
    let delimiter := match value with
      | [c] => [c, ':']
      | raw => raw
    return ({ style with delimiter }, true)
  | _ => return (style, true)

/-- Show lines with their numbers. -/
def nl : Job Unit := do
  let start : NumberStyle :=
    { header := .none
      body := .filled
      footer := .none
      separator := ['\t']
      start := 1
      step := 1
      width := 6
      format := ['r', 'n']
      blanks := 1
      delimiter := ['\\', ':']
      keepsCount := false }
  let known := "b,body-numbering: d,section-delimiter: f,footer-numbering: " ++
    "h,header-numbering: i,line-increment: l,join-blank-lines: n,number-format: " ++
    "p,no-renumber s,number-separator: v,starting-line-number: w,number-width:"
  let ((style, isClear), o) ← foldOptions known true 1 (← get).call.arguments (start, true)
    fun (style, isClear) key value _ => do
      let (next, isKnown) ← style.withOption key value
      return (next, isClear && isKnown)
  if ¬ isClear then
    grumble ("Try '".toList ++ (← get).call.name ++ " --help' for more information.".toList)
    exit 1
  let mut state : NumberState := ⟨style.start, style.body, 0⟩
  let mut isGood := true
  for path in o.files do
    match ← foldFile path state fun state line => do
        return .on (← style.showLine state line) with
    | .ok going => state := going.state
    | .error fault =>
      flush
      complainOf path fault
      isGood := false
  exitClosing isGood o.files "-"

end Tool
end MakeTen
