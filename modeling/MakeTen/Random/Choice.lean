/-!
# Fair choices from random bytes

A number below a bound is made from as few random bytes as possible.  What is known is a
number and the greatest one that it might have been; bytes are put behind it until it can
decide, and what the choice leaves over is kept for the next one.

Main definitions:

- Structure `Choice.Source`: bytes, and what is left over from earlier choices.
- Function `Choice.below`: a number below a bound.
- Function `Choice.arrange`: the first items of an arrangement.
-/

namespace MakeTen
namespace Choice

/-- Where random bytes come from: `next` gives one, or nothing if there are no more. -/
structure Source (σ : Type) where
  next : σ → Option (UInt8 × σ)
  state : σ
  /-- What is left over from earlier choices, and the greatest number that it could be. -/
  number : Nat
  most : Nat

/-- Put bytes behind what is known until it can be as great as a number. -/
def Source.fill {σ : Type} (top : Nat) : Nat → Source σ → Option (Source σ)
  | 0, s => some s
  | fuel + 1, s =>
    if top ≤ s.most then some s
    else
      match s.next s.state with
      | none => none
      | some (byte, state) =>
        Source.fill top fuel
          { s with state, number := s.number * 256 + byte.toNat, most := s.most * 256 + 255 }

/-- A number that is not above another one. -/
def Source.upTo {σ : Type} (top : Nat) : Nat → Source σ → Option (Nat × Source σ)
  | 0, s => some (0, s)
  | fuel + 1, s =>
    (s.fill top 16).bind fun s =>
      if s.most = top then some (s.number, { s with number := 0, most := 0 })
      else
        let choices := top + 1
        let excess := s.most - top
        let unusable := excess % choices
        if s.number ≤ s.most - unusable then
          some (s.number % choices,
            { s with number := s.number / choices, most := excess / choices })
        else
          Source.upTo top fuel { s with number := s.number % choices, most := unusable - 1 }

/-- A number below a bound that is not zero. -/
def Source.below {σ : Type} (bound : Nat) (s : Source σ) : Option (Nat × Source σ) :=
  s.upTo (bound - 1) 1000

/-- Exchange two items of an array. -/
def exchange {α : Type} (items : Array α) (i j : Nat) : Array α :=
  match items[i]?, items[j]? with
  | some a, some b => (items.set! i b).set! j a
  | _, _ => items

/-- Put chosen items in front, one after the other, from position `first` on. -/
def arrangeFrom {σ α : Type} :
    Nat → Nat → Array α → Source σ → Option (Array α × Source σ)
  | 0, _, items, s => some (items, s)
  | count + 1, first, items, s =>
    if items.size ≤ first then some (items, s)
    else
      (s.below (items.size - first)).bind fun (n, s) =>
        arrangeFrom count (first + 1) (exchange items first (first + n)) s

/-- The first items of an arrangement, so many of them. -/
def arrange {σ α : Type} (count : Nat) (items : List α) (s : Source σ) :
    Option (List α × Source σ) :=
  (arrangeFrom count 0 items.toArray s).map fun (items, s) => (items.toList.take count, s)

end Choice
end MakeTen
