/-!
# Extents on the disk

The disk holds 4096 bytes in eight sectors of 512.  `span` says which sectors a stretch of bytes
touches and `fittingLength` cuts a stretch off at the end of the disk; both are defined for all
integers.
-/

namespace SectorDisk

/-! ## §1 Sizes -/

/-- Bytes on the disk. -/
def diskSize : Nat := 4096

/-- Bytes in a sector. -/
def sectorSize : Nat := 512

/-- Sectors on the disk. -/
def sectorCount : Nat := diskSize / sectorSize

/-- The most keys that may be configured. -/
def keyLimit : Nat := 8

/-- Bits that carry the sector of an unlock request. -/
def sectorBits : Nat := 3

/-- Bytes as they are written, read and sent. -/
abbrev Bytes := List UInt8

/-- A sector of the disk. -/
abbrev Sector := Fin 8

/-- The content of a whole buffer. -/
abbrev Image := Vector UInt8 4096

/-- The first byte of a sector. -/
def Sector.start (s : Sector) : Nat :=
  sectorSize * s.val

/-- The sector with an index, if there is one. -/
def Sector.ofIndex? (n : Int) : Option Sector :=
  if h : 0 ≤ n ∧ n < 8 then some ⟨n.toNat, by omega⟩ else none

/-- A bit for every sector. -/
abbrev Flags := Vector Bool 8

/-- The bit of a sector. -/
def Flags.bit (flags : Flags) (s : Sector) : Bool :=
  flags[s]

/-- The bits with that of one sector replaced. -/
def Flags.setBit (flags : Flags) (s : Sector) (on : Bool) : Flags :=
  flags.set s on

/-! ## §2 Stretches of bytes -/

/-- Consecutive sector indices: from `first` up to, not including, `past`. -/
structure Span where
  /-- The first index. -/
  first : Int
  /-- The index after the last. -/
  past : Int
  deriving DecidableEq, Repr

/-- Whether an index belongs to the span. -/
def Span.holds (r : Span) (index : Int) : Bool :=
  r.first ≤ index && index < r.past

/-- The sectors that hold a byte of the stretch; an empty stretch has none. -/
def span (offset length : Int) : Span :=
  if length ≤ 0 then ⟨0, 0⟩
  else ⟨Int.fdiv offset sectorSize, Int.fdiv (offset + length - 1) sectorSize + 1⟩

/-- The greatest length up to `length` with which a stretch does not pass the end of the disk. -/
def fittingLength (offset length : Int) : Int :=
  if (diskSize : Int) ≤ offset then 0 else min length (diskSize - offset)

/-! ## §3 Images -/

/-- A buffer of zeros. -/
def Image.blank : Image :=
  Vector.replicate 4096 0

/-- `length` bytes from `offset` on, fewer at the end of the buffer. -/
def Image.slice (image : Image) (offset length : Nat) : Bytes :=
  (image.toList.drop offset).take length

/-- The content of a sector. -/
def Image.sector (image : Image) (s : Sector) : Bytes :=
  image.slice s.start sectorSize

/-- The buffer with `data` laid over it from `offset` on; what passes the end is dropped. -/
def Image.splice (image : Image) (offset : Nat) (data : Bytes) : Image :=
  let cells := data.toArray
  Vector.ofFn fun i =>
    if offset ≤ i.val then (cells[i.val - offset]?).getD image[i] else image[i]

end SectorDisk
