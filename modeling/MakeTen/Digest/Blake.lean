import MakeTen.Digest.Block
/-!
# A digest with a chosen size

The digest works on words of 64 bits, the lowest byte first.  Its state is made
from the same constants whatever size is asked for, except that the size goes into
the first word.  The blocks are told apart by how many bytes have been taken in,
and the last one by a mark, so that a message is filled up with zeros only.

Main definitions:

- Function `Digest.blake`: the digest of a message with some bytes.
-/

namespace MakeTen
namespace Digest
namespace Blake

/-- What the state is made from. -/
def constants : Array UInt64 :=
  #[0x6a09e667f3bcc908, 0xbb67ae8584caa73b, 0x3c6ef372fe94f82b, 0xa54ff53a5f1d36f1,
    0x510e527fade682d1, 0x9b05688c2b3e6c1f, 0x1f83d9abfb41bd6b, 0x5be0cd19137e2179]

/-- The order in which the words of a block are used, for ten rounds; the first two
orders are used once more after that. -/
def orders : List (List Nat) :=
  [[0, 1, 2, 3, 4, 5, 6, 7, 8, 9, 10, 11, 12, 13, 14, 15],
    [14, 10, 4, 8, 9, 15, 13, 6, 1, 12, 0, 2, 11, 7, 5, 3],
    [11, 8, 12, 0, 5, 2, 15, 13, 10, 14, 3, 6, 7, 1, 9, 4],
    [7, 9, 3, 1, 13, 12, 11, 14, 2, 6, 5, 10, 4, 0, 15, 8],
    [9, 0, 5, 7, 2, 4, 10, 15, 14, 1, 11, 12, 6, 8, 3, 13],
    [2, 12, 6, 10, 0, 11, 8, 3, 4, 13, 7, 5, 15, 14, 1, 9],
    [12, 5, 1, 15, 14, 13, 4, 10, 0, 7, 6, 3, 9, 2, 8, 11],
    [13, 11, 7, 14, 12, 1, 3, 9, 5, 0, 15, 4, 8, 6, 2, 10],
    [6, 15, 14, 9, 11, 3, 0, 8, 12, 2, 13, 7, 1, 4, 10, 5],
    [10, 2, 8, 4, 7, 6, 1, 5, 15, 11, 9, 14, 3, 12, 13, 0]]

/-- Where the four words stand that are mixed in each of the eight steps of a round. -/
def places : List (Nat × Nat × Nat × Nat) :=
  [(0, 4, 8, 12), (1, 5, 9, 13), (2, 6, 10, 14), (3, 7, 11, 15),
    (0, 5, 10, 15), (1, 6, 11, 12), (2, 7, 8, 13), (3, 4, 9, 14)]

/-- A word rotated to the right. -/
def rotate (x n : UInt64) : UInt64 :=
  (x >>> n) ||| (x <<< (64 - n))

/-- Mix four words of a state with two words of a block. -/
def mix (v : Array UInt64) (at4 : Nat × Nat × Nat × Nat) (x y : UInt64) : Array UInt64 :=
  let (i, j, k, l) := at4
  let (a, b, c, d) := (v.getD i 0, v.getD j 0, v.getD k 0, v.getD l 0)
  let a := a + b + x
  let d := rotate (d ^^^ a) 32
  let c := c + d
  let b := rotate (b ^^^ c) 24
  let a := a + b + y
  let d := rotate (d ^^^ a) 16
  let c := c + d
  let b := rotate (b ^^^ c) 63
  (((v.set! i a).set! j b).set! k c).set! l d

/-- One round with the words of a block in some order. -/
def round (words : Array UInt64) (v : Array UInt64) (order : List Nat) : Array UInt64 :=
  (places.zipIdx).foldl (fun v (at4, n) =>
    mix v at4 (words.getD (order.getD (2 * n) 0) 0) (words.getD (order.getD (2 * n + 1) 0) 0)) v

/-- Take in a block, with the number of bytes up to its end. -/
def block (state : Array UInt64) (words : Array Nat) (count : Nat) (isLast : Bool) :
    Array UInt64 :=
  let v := state ++ constants
  let v := v.modify 12 (· ^^^ count.toUInt64)
  let v := if isLast then v.modify 14 (~~~ ·) else v
  let v := (orders ++ orders.take 2).foldl (round (words.map Nat.toUInt64)) v
  state.mapIdx fun i x => x ^^^ v.getD i 0 ^^^ v.getD (i + 8) 0

/-- Take in the blocks of a message; `count` bytes have been taken in. -/
def blocks : Nat → Array UInt64 → Nat → List UInt8 → Array UInt64
  | 0, state, _, _ => state
  | fuel + 1, state, count, message =>
    let l : Layout := ⟨8, true⟩
    let part := message.take 128
    let rest := message.drop 128
    let filled := part ++ List.replicate (128 - part.length) 0
    let state := block state (l.words 129 filled).toArray (count + part.length) rest.isEmpty
    if rest.isEmpty then state else blocks fuel state (count + part.length) rest

end Blake

/-- The digest of a message with at most 64 bytes. -/
def blake (size : Nat) (message : List UInt8) : List UInt8 :=
  let l : Layout := ⟨8, true⟩
  let start := Blake.constants.modify 0 (· ^^^ 0x01010000 ^^^ size.toUInt64)
  let state := Blake.blocks (message.length + 1) start 0 message
  (state.toList.flatMap fun w => l.bytes 8 w.toNat).take size

end Digest
end MakeTen
