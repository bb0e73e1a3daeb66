import MakeTen.Random.ChaCha
/-!
# Unbiased draws

A draw below `n` multiplies a random 64-bit word by `n` and takes the high half
of the product.  Words whose low half lies beyond the zone are thrown away; the
zone is chosen so that every answer keeps the same number of words.

The words may come from anywhere.  The stream of a `Generator` is one source.

Main definitions:

- Structure `WordSource`: where random words come from.
- Function `Draw.zone`: the greatest low half that is kept.
- Function `Draw.ofWord?`: the answer that a word gives, if it is kept.
- Function `Draw.below`: a draw from a source.
- Structure `Picker`: a source for the choice of puzzles, and how far it is used.
-/

namespace MakeTen

/-! ## Sources -/

/-- Where random words come from: positions of type `γ`, each with its word and the
position behind it. -/
structure WordSource (γ : Type) where
  ofSeed : UInt64 → γ
  next : γ → UInt64 × γ

/-- The streams of generators. -/
def Generator.source : WordSource Generator := ⟨ofSeed, next64⟩

variable {γ : Type}

/-! ## Draws -/

namespace Draw

/-- Number of words of 64 bits. -/
def wordCount : Nat := UInt64.size

/-- Number of zero bits in front of a number in 64 bits. -/
def leadingZeros (n : Nat) : Nat :=
  if n = 0 then 64 else 63 - Nat.log2 n

/-- The greatest low half that is kept when drawing below `n`. -/
def zone (n : Nat) : Nat :=
  (n <<< leadingZeros n) - 1

/-- The answer that a word gives when drawing below `n`, unless the word is
thrown away. -/
def ofWord? (n word : Nat) : Option Nat :=
  if word * n % wordCount ≤ zone n then some (word * n / wordCount) else none

/-- Number of 64-bit words before a generator repeats itself. -/
def period : Nat := 8 * wordCount

/-- The first answer that the words from a position on give when drawing below
`n`, among at most `tries + 1` of them; the last one counts whatever its low
half. -/
def attempt (source : WordSource γ) (n : Nat) : Nat → γ → Nat × γ
  | 0, position =>
    let (word, position) := source.next position
    (word.toNat * n / wordCount, position)
  | tries + 1, position =>
    let (word, position) := source.next position
    match ofWord? n word.toNat with
    | some answer => (answer, position)
    | none => attempt source n tries position

/-- A draw below `n`: the answer of the first word that is kept.  At least half
of all words are kept, and a generator has none left that it has not shown when
it has shown as many as are looked at. -/
def below (source : WordSource γ) (n : Nat) (position : γ) : Nat × γ :=
  attempt source n (period - 1) position

end Draw

/-! ## Choosing puzzles -/

/-- A source for the choice of puzzles, and the position from which on its words
are unused. -/
structure Picker (γ : Type) where
  source : WordSource γ
  position : γ
  /-- Whether the seed was chosen by the player. -/
  predictable : Bool

namespace Picker

/-- The picker of a seed. -/
def ofSeed (source : WordSource γ) (seed : UInt64) : Picker γ :=
  ⟨source, source.ofSeed seed, true⟩

/-- The picker of a given seed, or of a `fresh` position if no seed is given. -/
def ofSeed? {m : Type → Type} [Monad m] (source : WordSource γ) (seed : Option UInt64)
    (fresh : m γ) : m (Picker γ) :=
  match seed with
  | some seed => return ofSeed source seed
  | none => return ⟨source, ← fresh, false⟩

/-- An index below `size`, which must not be zero. -/
def pick (p : Picker γ) (size : Nat) : Nat × Picker γ :=
  let (index, position) := Draw.below p.source size p.position
  (index, { p with position })

end Picker
end MakeTen
