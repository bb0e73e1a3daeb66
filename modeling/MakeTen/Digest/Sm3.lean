import MakeTen.Digest.Block
/-!
# A digest of 32 bytes in 64 steps

The digest takes in blocks of sixteen words of 32 bits.  The first sixteen steps
mix words bit by bit with one pair of functions and the others with another pair.

Main definitions:

- Function `Digest.sm3`: the digest of a message.
-/

namespace MakeTen
namespace Digest
namespace Sm3

/-- A word rotated to the left. -/
def rotate (x n : UInt32) : UInt32 :=
  let n := n % 32
  if n = 0 then x else (x <<< n) ||| (x >>> (32 - n))

/-- The spreading of a word into the state. -/
def spread (x : UInt32) : UInt32 :=
  x ^^^ rotate x 9 ^^^ rotate x 17

/-- The words of all steps and the four after them. -/
def schedule (words : Array Nat) : Array UInt32 :=
  (List.range 52).foldl (fun w i =>
    let t := i + 16
    let x := w.getD (t - 16) 0 ^^^ w.getD (t - 9) 0 ^^^ rotate (w.getD (t - 3) 0) 15
    let mixed := x ^^^ rotate x 15 ^^^ rotate x 23
    w.push (mixed ^^^ rotate (w.getD (t - 13) 0) 7 ^^^ w.getD (t - 6) 0))
    (words.map Nat.toUInt32)

/-- One step on a state of eight words. -/
def step (w : Array UInt32) (s : Array UInt32) (i : Nat) : Array UInt32 :=
  let get (n : Nat) : UInt32 := s.getD n 0
  let (a, b, c, e, f, g) := (get 0, get 1, get 2, get 4, get 5, get 6)
  let constant : UInt32 := if i < 16 then 0x79cc4519 else 0x7a879d8a
  let s1 := rotate (rotate a 12 + e + rotate constant i.toUInt32) 7
  let s2 := s1 ^^^ rotate a 12
  let first := if i < 16 then a ^^^ b ^^^ c else (a &&& b) ||| (a &&& c) ||| (b &&& c)
  let second := if i < 16 then e ^^^ f ^^^ g else (e &&& f) ||| (~~~e &&& g)
  let t1 := first + get 3 + s2 + (w.getD i 0 ^^^ w.getD (i + 4) 0)
  let t2 := second + get 7 + s1 + w.getD i 0
  #[t1, a, rotate b 9, c, spread t2, e, rotate f 19, g]

/-- Take in a block. -/
def block (s : Array UInt32) (words : Array Nat) : Array UInt32 :=
  Array.zipWith (· ^^^ ·) s ((List.range 64).foldl (step (schedule words)) s)

end Sm3

/-- The digest of 32 bytes of a message. -/
def sm3 (message : List UInt8) : List UInt8 :=
  let l : Layout := ⟨4, false⟩
  let start : Array UInt32 :=
    #[0x7380166f, 0x4914b2b9, 0x172442d7, 0xda8a0600, 0xa96f30bc, 0x163138aa, 0xe38dee4d,
      0xb0fb0e4e]
  (l.fold start Sm3.block message).toList.flatMap fun w => l.bytes 4 w.toNat

end Digest
end MakeTen
