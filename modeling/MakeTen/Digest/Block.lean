/-!
# Blocks

What the digests have in common: a message is filled up to whole blocks, the
last of which ends with its length in bits, and the blocks are taken in one
after the other as words.

Main definitions:

- Structure `Digest.Layout`: how messages are cut into words.
- Function `Digest.Layout.fold`: take in the blocks of a message.
-/

namespace MakeTen
namespace Digest

/-- How messages are cut into words. -/
structure Layout where
  /-- Bytes of a word; a block has sixteen words. -/
  wordSize : Nat
  /-- Whether the first byte of a word is its lowest. -/
  isLittle : Bool

/-- The number that some bytes stand for. -/
def Layout.number (l : Layout) (bytes : List UInt8) : Nat :=
  (if l.isLittle then bytes.reverse else bytes).foldl (fun n b => n * 256 + b.toNat) 0

/-- A number in some bytes. -/
def Layout.bytes (l : Layout) (size n : Nat) : List UInt8 :=
  let low := (List.range size).map fun i => (n >>> (8 * i)).toUInt8
  if l.isLittle then low else low.reverse

/-- What fills a message of some length up to whole blocks: a mark, zeros, and the
length in bits. -/
def Layout.filling (l : Layout) (length : Nat) : List UInt8 :=
  let block := 16 * l.wordSize
  let used := (length + 1 + 2 * l.wordSize) % block
  let zeros := if used = 0 then 0 else block - used
  0x80 :: List.replicate zeros 0 ++ l.bytes (2 * l.wordSize) (8 * length)

/-- The words of some bytes. -/
def Layout.words (l : Layout) : Nat → List UInt8 → List Nat
  | 0, _ => []
  | fuel + 1, bytes =>
    if bytes.isEmpty then []
    else l.number (bytes.take l.wordSize) :: l.words fuel (bytes.drop l.wordSize)

/-- Take in blocks of sixteen words. -/
def foldBlocks {σ : Type} (next : σ → Array Nat → σ) : Nat → σ → List Nat → σ
  | 0, state, _ => state
  | fuel + 1, state, words =>
    if words.isEmpty then state
    else foldBlocks next fuel (next state (words.take 16).toArray) (words.drop 16)

/-- Take in the blocks of a message. -/
def Layout.fold {σ : Type} (l : Layout) (start : σ) (next : σ → Array Nat → σ)
    (message : List UInt8) : σ :=
  let bytes := message ++ l.filling message.length
  let words := l.words (bytes.length + 1) bytes
  foldBlocks next (words.length + 1) start words

end Digest
end MakeTen
