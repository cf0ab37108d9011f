import SectorDisk.Extent

/-!
# Little-endian integers

A signed 32-bit integer as four bytes, least significant first, in two's complement.
-/

namespace SectorDisk.Packet

/-- The four bytes of an integer, taken modulo `2 ^ 32`. -/
def int32Bytes (n : Int) : Bytes :=
  let word := (n % 4294967296).toNat
  [word.toUInt8, (word / 256).toUInt8, (word / 65536).toUInt8, (word / 16777216).toUInt8]

/-- The integer that four bytes spell; missing bytes are zero. -/
def int32OfBytes (bytes : Bytes) : Int :=
  let word : Nat := bytes.foldr (fun b n => b.toNat + 256 * n) 0
  if word < 2147483648 then Int.ofNat word else Int.ofNat word - 4294967296

end SectorDisk.Packet
