import MakeTen.Regex.Token
/-!
# Reading patterns

Tokens are put together: alternatives bind least, then one part after the other,
then repetitions.

Main definitions:

- Function `Regex.read`: the pattern that a text describes.
-/

namespace MakeTen
namespace Regex

/-- Which groups have been counted, and which are complete. -/
structure Counting where
  next : Nat
  complete : List Nat

mutual

/-- Alternatives up to the end of a group or pattern; `depth` groups are open. -/
def readAlternatives (f : Flavour) (depth : Nat) :
    Nat → Counting → List Token → Except Fault (Regex × Counting × List Token)
  | 0, k, tokens => .ok (.empty, k, tokens)
  | fuel + 1, k, tokens => do
    let (first, k, rest) ← readParts f depth fuel k [] tokens
    match rest with
    | .bar :: rest =>
      let (second, k, rest) ← readAlternatives f depth fuel k rest
      return (.alt first second, k, rest)
    | _ => return (first, k, rest)

/-- Parts one after the other; those read so far are given in reverse. -/
def readParts (f : Flavour) (depth : Nat) : Nat → Counting → List Regex → List Token →
    Except Fault (Regex × Counting × List Token)
  | 0, k, _, tokens => .ok (.empty, k, tokens)
  | fuel + 1, k, parts, tokens => do
    let finish : Except Fault (Regex × Counting × List Token) :=
      match parts with
      | [] =>
        let isWhole := depth == 0 && k.next == 1 && tokens.isEmpty
        if f.isScript ∧ ¬ isWhole then .error .missingOperand else .ok (.empty, k, tokens)
      | last :: before => .ok (before.foldl (fun r part => .seq part r) last, k, tokens)
    let add (k : Counting) (part : Regex) (rest : List Token) :
        Except Fault (Regex × Counting × List Token) :=
      readParts f depth fuel k (part :: parts) rest
    let inside (k : Counting) (rest : List Token) :
        Except Fault (Regex × Counting × List Token) := do
      if rest.isEmpty then throw .openGroup
      let (body, k, rest) ← readAlternatives f (depth + 1) fuel k rest
      match rest with
      | .closing :: rest => return (body, k, rest)
      | _ => throw .openGroup
    match tokens with
    | [] => finish
    | .bar :: _ => finish
    | .closing :: rest =>
      if 0 < depth then finish
      else if f.isExtended ∧ ¬ f.isOrdered ∧ (f.isLenient ∨ f.isScript) then
        add k (.char ')') rest
      else .error .extraClosing
    | .opening :: rest =>
      let n := k.next
      let (body, k, rest) ← inside { k with next := n + 1 } rest
      add { k with complete := n :: k.complete } (.group n body) rest
    | .plainOpening :: rest =>
      let (body, k, rest) ← inside k rest
      add k body rest
    | .lookOpening isBehind isNegated :: rest =>
      let (body, k, rest) ← inside k rest
      add k (if isBehind then .behind isNegated body else .ahead isNegated body) rest
    | .keep :: rest => add k .keep rest
    | .times least most isLazy :: rest =>
      match parts with
      | [] => readParts f depth fuel k parts rest
      | part :: before =>
        readParts f depth fuel k (.times part least most isLazy :: before) rest
    | .back n :: rest =>
      if k.complete.contains n then add k (.back n) rest else .error .badReference
    | .char c :: rest => add k (.char c) rest
    | .any :: rest => add k .any rest
    | .set s :: rest => add k (.set s) rest
    | .edge e :: rest => add k (.edge e) rest

end

/-- The pattern that a text describes, with warnings, or what is wrong with it. -/
def readWarned (f : Flavour) (raw : List Char) : Except Fault (Regex × List String) := do
  let (tokens, warnings) ← tokens f raw
  let (r, _, _) ← readAlternatives f 0 (2 * tokens.length + 3) ⟨1, []⟩ tokens
  return (r, warnings)

/-- The pattern that a text describes, or what is wrong with it. -/
def read (f : Flavour) (raw : List Char) : Except Fault Regex :=
  (readWarned f raw).map Prod.fst

end Regex
end MakeTen
