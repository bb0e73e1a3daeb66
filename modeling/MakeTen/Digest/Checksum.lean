/-!
# Checksums

Short sums that tell whether a message has changed by accident.

Main definitions:

- Function `Digest.crc`: a remainder of polynomials over bits.
- Functions `Digest.rotatedSum` and `Digest.plainSum`: sums of 16 bits.
-/

namespace MakeTen
namespace Digest

/-- The remainder after eight more bits. -/
def crcByte (crc : UInt32) (byte : UInt8) : UInt32 :=
  (List.range 8).foldl (fun r _ =>
    if r &&& 0x80000000 ≠ 0 then (r <<< 1) ^^^ 0x04c11db7 else r <<< 1)
    (crc ^^^ (byte.toUInt32 <<< 24))

/-- The bytes of a number, the lowest first, without zeros at the end. -/
def lowBytes : Nat → Nat → List UInt8
  | 0, _ => []
  | fuel + 1, n => if n = 0 then [] else n.toUInt8 :: lowBytes fuel (n / 256)

/-- The remainder of a message and its length, with all bits turned round. -/
def crc (message : List UInt8) : UInt32 :=
  ~~~((message ++ lowBytes 16 message.length).foldl crcByte 0)

/-- The sum of a message that is rotated by one bit before each byte. -/
def rotatedSum (message : List UInt8) : Nat :=
  message.foldl (fun s b => ((s >>> 1) + ((s &&& 1) <<< 15) + b.toNat) % 65536) 0

/-- The sum of a message folded to 16 bits. -/
def plainSum (message : List UInt8) : Nat :=
  let s := message.foldl (fun s b => s + b.toNat) 0 % 4294967296
  let r := s % 65536 + s / 65536
  r % 65536 + r / 65536

end Digest
end MakeTen
