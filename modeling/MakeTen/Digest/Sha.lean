import MakeTen.Digest.Block
/-!
# The secure hash family

Digests of twenty bytes, of 28 or 32 bytes on words of 32 bits, and of 48 or 64
bytes on words of 64 bits.

Main definitions:

- Functions `Digest.sha1`, `Digest.sha224`, `Digest.sha256`, `Digest.sha384` and
  `Digest.sha512`: the digest of a message.
-/

namespace MakeTen
namespace Digest

/-! ## Twenty bytes -/

namespace Sha1

/-- A word rotated to the left. -/
def rotate (x n : UInt32) : UInt32 :=
  (x <<< n) ||| (x >>> (32 - n))

/-- The state of the digest. -/
structure State where
  a : UInt32
  b : UInt32
  c : UInt32
  d : UInt32
  e : UInt32

/-- The state before the first block. -/
def State.start : State :=
  ⟨0x67452301, 0xefcdab89, 0x98badcfe, 0x10325476, 0xc3d2e1f0⟩

/-- The words of all steps. -/
def schedule (words : Array Nat) : Array UInt32 :=
  (List.range 64).foldl (fun w i =>
    let t := i + 16
    w.push (rotate (w.getD (t - 3) 0 ^^^ w.getD (t - 8) 0 ^^^ w.getD (t - 14) 0 ^^^
      w.getD (t - 16) 0) 1)) (words.map Nat.toUInt32)

/-- How three words are mixed in a step, and what is added. -/
def mix (i : Nat) (b c d : UInt32) : UInt32 × UInt32 :=
  if i < 20 then ((b &&& c) ||| (~~~b &&& d), 0x5a827999)
  else if i < 40 then (b ^^^ c ^^^ d, 0x6ed9eba1)
  else if i < 60 then ((b &&& c) ||| (b &&& d) ||| (c &&& d), 0x8f1bbcdc)
  else (b ^^^ c ^^^ d, 0xca62c1d6)

/-- One step. -/
def step (w : Array UInt32) (s : State) (i : Nat) : State :=
  let (f, k) := mix i s.b s.c s.d
  ⟨rotate s.a 5 + f + s.e + k + w.getD i 0, s.a, rotate s.b 30, s.c, s.d⟩

/-- Take in a block. -/
def block (s : State) (words : Array Nat) : State :=
  let t := (List.range 80).foldl (step (schedule words)) s
  ⟨s.a + t.a, s.b + t.b, s.c + t.c, s.d + t.d, s.e + t.e⟩

end Sha1

/-- The digest of twenty bytes of a message. -/
def sha1 (message : List UInt8) : List UInt8 :=
  let l : Layout := ⟨4, false⟩
  let s := l.fold Sha1.State.start Sha1.block message
  [s.a, s.b, s.c, s.d, s.e].flatMap fun w => l.bytes 4 w.toNat

/-! ## Words of 32 bits -/

namespace Sha256

/-- What is added in each step. -/
def constants : Array UInt32 :=
  #[0x428a2f98, 0x71374491, 0xb5c0fbcf, 0xe9b5dba5, 0x3956c25b, 0x59f111f1,
    0x923f82a4, 0xab1c5ed5, 0xd807aa98, 0x12835b01, 0x243185be, 0x550c7dc3,
    0x72be5d74, 0x80deb1fe, 0x9bdc06a7, 0xc19bf174, 0xe49b69c1, 0xefbe4786,
    0x0fc19dc6, 0x240ca1cc, 0x2de92c6f, 0x4a7484aa, 0x5cb0a9dc, 0x76f988da,
    0x983e5152, 0xa831c66d, 0xb00327c8, 0xbf597fc7, 0xc6e00bf3, 0xd5a79147,
    0x06ca6351, 0x14292967, 0x27b70a85, 0x2e1b2138, 0x4d2c6dfc, 0x53380d13,
    0x650a7354, 0x766a0abb, 0x81c2c92e, 0x92722c85, 0xa2bfe8a1, 0xa81a664b,
    0xc24b8b70, 0xc76c51a3, 0xd192e819, 0xd6990624, 0xf40e3585, 0x106aa070,
    0x19a4c116, 0x1e376c08, 0x2748774c, 0x34b0bcb5, 0x391c0cb3, 0x4ed8aa4a,
    0x5b9cca4f, 0x682e6ff3, 0x748f82ee, 0x78a5636f, 0x84c87814, 0x8cc70208,
    0x90befffa, 0xa4506ceb, 0xbef9a3f7, 0xc67178f2]

/-- A word rotated to the right. -/
def rotate (x n : UInt32) : UInt32 :=
  (x >>> n) ||| (x <<< (32 - n))

/-- The words of all steps. -/
def schedule (words : Array Nat) : Array UInt32 :=
  (List.range 48).foldl (fun w i =>
    let t := i + 16
    let x := w.getD (t - 15) 0
    let y := w.getD (t - 2) 0
    let s0 := rotate x 7 ^^^ rotate x 18 ^^^ (x >>> 3)
    let s1 := rotate y 17 ^^^ rotate y 19 ^^^ (y >>> 10)
    w.push (w.getD (t - 16) 0 + s0 + w.getD (t - 7) 0 + s1)) (words.map Nat.toUInt32)

/-- One step on a state of eight words. -/
def step (w : Array UInt32) (s : Array UInt32) (i : Nat) : Array UInt32 :=
  let get (n : Nat) : UInt32 := s.getD n 0
  let (a, b, c, e, f, g) := (get 0, get 1, get 2, get 4, get 5, get 6)
  let s1 := rotate e 6 ^^^ rotate e 11 ^^^ rotate e 25
  let choice := (e &&& f) ^^^ (~~~e &&& g)
  let first := get 7 + s1 + choice + constants.getD i 0 + w.getD i 0
  let s0 := rotate a 2 ^^^ rotate a 13 ^^^ rotate a 22
  let most := (a &&& b) ^^^ (a &&& c) ^^^ (b &&& c)
  #[first + s0 + most, a, b, c, get 3 + first, e, f, g]

/-- Take in a block. -/
def block (s : Array UInt32) (words : Array Nat) : Array UInt32 :=
  Array.zipWith (· + ·) s ((List.range 64).foldl (step (schedule words)) s)

/-- The digest of some bytes of a message, from a state. -/
def digest (size : Nat) (start : Array UInt32) (message : List UInt8) : List UInt8 :=
  let l : Layout := ⟨4, false⟩
  ((l.fold start block message).toList.flatMap fun w => l.bytes 4 w.toNat).take size

end Sha256

/-- The digest of 32 bytes of a message. -/
def sha256 : List UInt8 → List UInt8 :=
  Sha256.digest 32
    #[0x6a09e667, 0xbb67ae85, 0x3c6ef372, 0xa54ff53a,
    0x510e527f, 0x9b05688c, 0x1f83d9ab, 0x5be0cd19]

/-- The digest of 28 bytes of a message. -/
def sha224 : List UInt8 → List UInt8 :=
  Sha256.digest 28
    #[0xc1059ed8, 0x367cd507, 0x3070dd17, 0xf70e5939,
    0xffc00b31, 0x68581511, 0x64f98fa7, 0xbefa4fa4]

/-! ## Words of 64 bits -/

namespace Sha512

/-- What is added in each step. -/
def constants : Array UInt64 :=
  #[0x428a2f98d728ae22, 0x7137449123ef65cd, 0xb5c0fbcfec4d3b2f,
    0xe9b5dba58189dbbc, 0x3956c25bf348b538, 0x59f111f1b605d019,
    0x923f82a4af194f9b, 0xab1c5ed5da6d8118, 0xd807aa98a3030242,
    0x12835b0145706fbe, 0x243185be4ee4b28c, 0x550c7dc3d5ffb4e2,
    0x72be5d74f27b896f, 0x80deb1fe3b1696b1, 0x9bdc06a725c71235,
    0xc19bf174cf692694, 0xe49b69c19ef14ad2, 0xefbe4786384f25e3,
    0x0fc19dc68b8cd5b5, 0x240ca1cc77ac9c65, 0x2de92c6f592b0275,
    0x4a7484aa6ea6e483, 0x5cb0a9dcbd41fbd4, 0x76f988da831153b5,
    0x983e5152ee66dfab, 0xa831c66d2db43210, 0xb00327c898fb213f,
    0xbf597fc7beef0ee4, 0xc6e00bf33da88fc2, 0xd5a79147930aa725,
    0x06ca6351e003826f, 0x142929670a0e6e70, 0x27b70a8546d22ffc,
    0x2e1b21385c26c926, 0x4d2c6dfc5ac42aed, 0x53380d139d95b3df,
    0x650a73548baf63de, 0x766a0abb3c77b2a8, 0x81c2c92e47edaee6,
    0x92722c851482353b, 0xa2bfe8a14cf10364, 0xa81a664bbc423001,
    0xc24b8b70d0f89791, 0xc76c51a30654be30, 0xd192e819d6ef5218,
    0xd69906245565a910, 0xf40e35855771202a, 0x106aa07032bbd1b8,
    0x19a4c116b8d2d0c8, 0x1e376c085141ab53, 0x2748774cdf8eeb99,
    0x34b0bcb5e19b48a8, 0x391c0cb3c5c95a63, 0x4ed8aa4ae3418acb,
    0x5b9cca4f7763e373, 0x682e6ff3d6b2b8a3, 0x748f82ee5defb2fc,
    0x78a5636f43172f60, 0x84c87814a1f0ab72, 0x8cc702081a6439ec,
    0x90befffa23631e28, 0xa4506cebde82bde9, 0xbef9a3f7b2c67915,
    0xc67178f2e372532b, 0xca273eceea26619c, 0xd186b8c721c0c207,
    0xeada7dd6cde0eb1e, 0xf57d4f7fee6ed178, 0x06f067aa72176fba,
    0x0a637dc5a2c898a6, 0x113f9804bef90dae, 0x1b710b35131c471b,
    0x28db77f523047d84, 0x32caab7b40c72493, 0x3c9ebe0a15c9bebc,
    0x431d67c49c100d4c, 0x4cc5d4becb3e42b6, 0x597f299cfc657e2a,
    0x5fcb6fab3ad6faec, 0x6c44198c4a475817]

/-- A word rotated to the right. -/
def rotate (x n : UInt64) : UInt64 :=
  (x >>> n) ||| (x <<< (64 - n))

/-- The words of all steps. -/
def schedule (words : Array Nat) : Array UInt64 :=
  (List.range 64).foldl (fun w i =>
    let t := i + 16
    let x := w.getD (t - 15) 0
    let y := w.getD (t - 2) 0
    let s0 := rotate x 1 ^^^ rotate x 8 ^^^ (x >>> 7)
    let s1 := rotate y 19 ^^^ rotate y 61 ^^^ (y >>> 6)
    w.push (w.getD (t - 16) 0 + s0 + w.getD (t - 7) 0 + s1)) (words.map Nat.toUInt64)

/-- One step on a state of eight words. -/
def step (w : Array UInt64) (s : Array UInt64) (i : Nat) : Array UInt64 :=
  let get (n : Nat) : UInt64 := s.getD n 0
  let (a, b, c, e, f, g) := (get 0, get 1, get 2, get 4, get 5, get 6)
  let s1 := rotate e 14 ^^^ rotate e 18 ^^^ rotate e 41
  let choice := (e &&& f) ^^^ (~~~e &&& g)
  let first := get 7 + s1 + choice + constants.getD i 0 + w.getD i 0
  let s0 := rotate a 28 ^^^ rotate a 34 ^^^ rotate a 39
  let most := (a &&& b) ^^^ (a &&& c) ^^^ (b &&& c)
  #[first + s0 + most, a, b, c, get 3 + first, e, f, g]

/-- Take in a block. -/
def block (s : Array UInt64) (words : Array Nat) : Array UInt64 :=
  Array.zipWith (· + ·) s ((List.range 80).foldl (step (schedule words)) s)

/-- The digest of some bytes of a message, from a state. -/
def digest (size : Nat) (start : Array UInt64) (message : List UInt8) : List UInt8 :=
  let l : Layout := ⟨8, false⟩
  ((l.fold start block message).toList.flatMap fun w => l.bytes 8 w.toNat).take size

end Sha512

/-- The digest of 64 bytes of a message. -/
def sha512 : List UInt8 → List UInt8 :=
  Sha512.digest 64
    #[0x6a09e667f3bcc908, 0xbb67ae8584caa73b, 0x3c6ef372fe94f82b,
    0xa54ff53a5f1d36f1, 0x510e527fade682d1, 0x9b05688c2b3e6c1f,
    0x1f83d9abfb41bd6b, 0x5be0cd19137e2179]

/-- The digest of 48 bytes of a message. -/
def sha384 : List UInt8 → List UInt8 :=
  Sha512.digest 48
    #[0xcbbb9d5dc1059ed8, 0x629a292a367cd507, 0x9159015a3070dd17,
    0x152fecd8f70e5939, 0x67332667ffc00b31, 0x8eb44a8768581511,
    0xdb0c2e0d64f98fa7, 0x47b5481dbefa4fa4]

end Digest
end MakeTen
