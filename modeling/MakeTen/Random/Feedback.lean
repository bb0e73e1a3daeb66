/-!
# Random numbers by additive feedback

The generator keeps 31 words.  A step adds one word to another, takes the sum as the new
word, and turns to the next two; the lowest bit of the sum is left out of the answer
because it is the least random one.  The words come from a seed by a multiplicative
congruential generator, and the first answers are left out because they show the seed.

Main definitions:

- Structure `Feedback.State`: the words, and where the next step is.
- Function `Feedback.ofSeed`: the state that a seed leads to.
- Function `Feedback.next`: the next answer, of 31 bits.
-/

namespace MakeTen
namespace Feedback

/-- The words, the one that the next step changes, and the one that it adds. -/
structure State where
  words : Vector UInt32 31
  front : Fin 31
  rear : Fin 31

/-- The next answer and the state after it. -/
def next (s : State) : UInt32 × State :=
  let sum := s.words[s.front] + s.words[s.rear]
  (sum >>> 1, { words := s.words.set s.front sum, front := s.front + 1, rear := s.rear + 1 })

/-- The next word that comes from a seed.  Words are signed here; a negative one is
brought back to the range of the generator. -/
def nextWord (word : Int) : Int :=
  let product := 16807 * word.tmod 127773 - 2836 * word.tdiv 127773
  if product < 0 then product + 2147483647 else product

/-- So many words, each coming from the one before. -/
def wordsFrom : Nat → Int → List Int
  | 0, _ => []
  | n + 1, word => word :: wordsFrom n (nextWord word)

/-- The state without so many answers. -/
def skip : Nat → State → State
  | 0, s => s
  | n + 1, s => skip n (next s).2

/-- The state that a seed leads to; a seed of zero counts as one. -/
def ofSeed (seed : UInt32) : State :=
  let first : Int := if seed = 0 then 1 else seed.toInt32.toInt
  let words := ((wordsFrom 31 first).map fun word => (Int32.ofInt word).toUInt32).toArray
  skip 310 ⟨.ofFn fun i => words.getD i 0, 3, 0⟩

end Feedback
end MakeTen
