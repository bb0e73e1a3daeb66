/-!
# A stream of random words

The generator is the ChaCha block function with twelve rounds, run with a
64-bit block counter from zero.  The sixteen words of a block are used in
order, then those of the next block.  A seed of 64 bits is stretched to a key
by a permuted congruential generator, so that similar seeds give unlike keys.

Main definitions:

- Function `ChaCha.block`: the sixteen words of one block.
- Structure `Generator`: a position in the stream.
- Function `Generator.next64`: the next 64 bits of the stream.
-/

namespace MakeTen
namespace ChaCha

/-! ## The block function -/

/-- Sixteen words, the unit on which the rounds work. -/
abbrev State := Vector UInt32 16

/-- Rotation to the left by less than a word. -/
def rotateLeft (x n : UInt32) : UInt32 :=
  (x <<< n) ||| (x >>> (32 - n))

/-- One quarter round on the words at four positions. -/
def quarterRound (s : State) (a b c d : Fin 16) : State :=
  let s := s.set a (s[a] + s[b])
  let s := s.set d (rotateLeft (s[d] ^^^ s[a]) 16)
  let s := s.set c (s[c] + s[d])
  let s := s.set b (rotateLeft (s[b] ^^^ s[c]) 12)
  let s := s.set a (s[a] + s[b])
  let s := s.set d (rotateLeft (s[d] ^^^ s[a]) 8)
  let s := s.set c (s[c] + s[d])
  s.set b (rotateLeft (s[b] ^^^ s[c]) 7)

/-- A round down the columns, then one down the diagonals. -/
def doubleRound (s : State) : State :=
  let s := quarterRound s 0 4 8 12
  let s := quarterRound s 1 5 9 13
  let s := quarterRound s 2 6 10 14
  let s := quarterRound s 3 7 11 15
  let s := quarterRound s 0 5 10 15
  let s := quarterRound s 1 6 11 12
  let s := quarterRound s 2 7 8 13
  quarterRound s 3 4 9 14

/-- A key of eight words. -/
abbrev Key := Vector UInt32 8

/-- The words before the first round: four constants, the key, the counter, and
a nonce of zero. -/
def initial (key : Key) (counter : UInt64) : State :=
  let words : State := #v[0x61707865, 0x3320646e, 0x79622d32, 0x6b206574,
    key[0], key[1], key[2], key[3], key[4], key[5], key[6], key[7],
    counter.toUInt32, (counter >>> 32).toUInt32, 0, 0]
  words

/-- The words of one block: six double rounds, then the initial words added. -/
def block (key : Key) (counter : UInt64) : State :=
  let start := initial key counter
  let mixed := (List.range 6).foldl (fun s _ => doubleRound s) start
  Vector.zipWith (· + ·) mixed start

/-! ## Keys from seeds -/

/-- One step of the congruential generator. -/
def seedStep (state : UInt64) : UInt64 :=
  state * 6364136223846793005 + 11634580027462260723

/-- The word that a state of the congruential generator gives out. -/
def seedWord (state : UInt64) : UInt32 :=
  let folded := (((state >>> 18) ^^^ state) >>> 27).toUInt32
  let turn := (state >>> 59).toUInt32
  (folded >>> turn) ||| (folded <<< ((32 - turn) % 32))

/-- `n` words given out after a state. -/
def seedWords : Nat → UInt64 → List UInt32
  | 0, _ => []
  | n + 1, state => seedWord (seedStep state) :: seedWords n (seedStep state)

theorem length_seedWords (n : Nat) (state : UInt64) : (seedWords n state).length = n := by
  induction n generalizing state with
  | zero => rfl
  | succ n ih => simp [seedWords, ih]

/-- The key of a seed. -/
def keyOfSeed (seed : UInt64) : Key :=
  ⟨(seedWords 8 seed).toArray, by simp [length_seedWords]⟩

end ChaCha

/-! ## Positions in the stream -/

/-- A position in a stream of words. -/
structure Generator where
  /-- The key of the stream. -/
  key : ChaCha.Key
  /-- Number of the next block. -/
  counter : UInt64
  /-- The words of the current block that are still unused. -/
  unused : List UInt32

namespace Generator

/-- The start of the stream of a seed. -/
def ofSeed (seed : UInt64) : Generator :=
  ⟨ChaCha.keyOfSeed seed, 0, []⟩

/-- The next word of the stream. -/
def next32 (g : Generator) : UInt32 × Generator :=
  match g.unused with
  | word :: unused => (word, { g with unused })
  | [] =>
    let words := ChaCha.block g.key g.counter
    (words[0], { g with counter := g.counter + 1, unused := words.toList.drop 1 })

/-- The next two words of the stream as one number, the low half first. -/
def next64 (g : Generator) : UInt64 × Generator :=
  let (low, g) := g.next32
  let (high, g) := g.next32
  (low.toUInt64 ||| (high.toUInt64 <<< 32), g)

end Generator
end MakeTen
