import SectorDisk.Extent

/-!
# Views of numbers

A view lends the bytes of another object.  Where its items are single bytes that lie side by side it
is a byte string like any other.  The other views are those of this module: their items are numbers
of several bytes each, or there are bytes between the items that do not belong to the view.  A view
that was released lends nothing any more, and is no value.
-/

namespace SectorDisk

/-- How many bytes an item of a view has. -/
inductive ItemSize where
  /-- One byte. -/
  | one
  /-- Two bytes. -/
  | two
  /-- Four bytes. -/
  | four
  /-- Eight bytes. -/
  | eight
  deriving DecidableEq, Repr

/-- The number of bytes. -/
def ItemSize.bytes : ItemSize → Nat
  | one => 1
  | two => 2
  | four => 4
  | eight => 8

/-- A view that is no plain byte string. -/
structure View where
  /-- The size of an item. -/
  size : ItemSize
  /-- Whether there are bytes between the items that do not belong to the view. -/
  isSpaced : Bool
  /-- The items. -/
  items : List (Vector UInt8 size.bytes)
  /-- Single bytes side by side are a byte string. -/
  uneven : size = .one → isSpaced = true

namespace View

/-- The bytes of all items. -/
def content (v : View) : Bytes :=
  v.items.flatMap Vector.toList

/-- Whether the bytes of the view lie in one piece: a single item does, whatever surrounds it. -/
def isSolid (v : View) : Bool :=
  !v.isSpaced || v.items.length == 1

/-- The number that bytes spell, least significant byte first. -/
def number (bytes : Bytes) : Nat :=
  bytes.foldr (fun b n => b.toNat + 256 * n) 0

/-- The items as numbers. -/
def numbers (v : View) : List Nat :=
  v.items.map fun item => number item.toList

end View

end SectorDisk
