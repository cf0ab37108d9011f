import SectorDisk.Device.Operation
import SectorDisk.Sector

/-!
# The primary buffer

Reading and writing bytes, protecting sectors and lifting their protection, and erasing.  Every
operation judges its arguments before it asks for the lock of the buffer, and a stretch of no bytes
asks for no lock at all.
-/

namespace SectorDisk.Storage

/-! ## §1 Reading and writing -/

/-- Reads up to `length` bytes from `offset` on, fewer at the end of the disk. -/
def read (offset length : Value) : Op Bytes := do
  let offset ← natural "offset" offset
  let length ← natural "length" length
  let count := (fittingLength offset length).toNat
  if count = 0 then return []
  Op.exclusively .primary "read" do
    return (← Op.device).primary.slice offset count

/-- What data to write is refused with that has no bytes in one piece. -/
def dataFailure (data : Value) : Failure :=
  match data.held? with
  | some _ => .writeSpaced
  | none => .writeType data.typeName

/-- The bytes to write, which have to lie in one piece. -/
def bytesToWrite (data : Value) : Except Failure Bytes :=
  match data.bytes? with
  | some bytes => .ok bytes
  | none => .error (dataFailure data)

/-- Lays bytes over the buffer, unless a sector that they touch is protected. -/
def overwrite (offset : Nat) (data : Bytes) : Op Unit := do
  match (← Op.device).firstProtected? (span offset data.length) with
  | some s =>
    Op.tell (.writeRefused offset s)
    Op.fail (.locked s .write)
  | none => Op.updateDevice fun d => { d with primary := d.primary.splice offset data }

/-- Writes bytes from `offset` on, dropping what passes the end of the disk, and returns how many
were written. -/
def write (offset data : Value) : Op Nat := do
  let offset ← natural "offset" offset
  if diskSize ≤ offset then Op.fail (.noSpace offset)
  let data ← bytesToWrite data
  let count := (fittingLength offset data.length).toNat
  if count = 0 then return 0
  Op.exclusively .primary "write" (overwrite offset (data.take count))
  return count

/-! ## §2 Protection -/

/-- Sets the protection of a sector. -/
def protect (s : Sector) (on : Bool) : Op Unit :=
  Op.updateDevice fun d => { d with protection := d.protection.setBit s on }

/-- Protects a sector. -/
def lock (sector : Value) : Op Unit := do
  let s ← Sector.ofValue sector
  Op.exclusively .primary "lock" (protect s true)
  Op.tell (.locked s)

/-- Lifts the protection of a sector, given one of the keys. -/
def unlock (sector key : Value) : Op Unit := do
  let s ← Sector.ofValue sector
  if (← Op.device).keys.accepts key then
    Op.exclusively .primary "unlock" (protect s false)
    Op.tell (.unlocked s)
  else
    Op.tell (.keyRefused s)
    Op.fail (.keyRefused s)

/-- The protection of all sectors. -/
def protections : Op (List Bool) :=
  Op.exclusively .primary "get_lock_bitmap" do
    return (← Op.device).protection.toList

/-! ## §3 Erasing and copying -/

/-- The content of an erased sector. -/
def zeros : Bytes := List.replicate sectorSize 0

/-- Fills a sector with zeros, unless it is protected. -/
def clear (s : Sector) : Op Unit := do
  if (← Op.device).protection.bit s then
    Op.tell (.eraseRefused s)
    Op.fail (.locked s .erase)
  else Op.updateDevice fun d => { d with primary := d.primary.splice s.start zeros }

/-- Erases a sector. -/
def erase (sector : Value) : Op Unit := do
  let s ← Sector.ofValue sector
  Op.exclusively .primary "erase" (clear s)
  Op.tell (.erased s)

/-- The whole buffer. -/
def snapshot : Op Bytes :=
  Op.exclusively .primary "snapshot" do
    return (← Op.device).primary.toList

/-- A copy of a sector. -/
def copyOut (s : Sector) : Op Bytes :=
  Op.exclusively .primary "mirror" do
    return (← Op.device).primary.sector s

end SectorDisk.Storage
