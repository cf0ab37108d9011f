import SectorDisk.Device.Storage
import SectorDisk.Number

/-!
# Handles

A handle reads and writes at its cursor and moves it on by what was transferred; `pread` and
`pwrite` begin at a given offset and leave the cursor alone.  A cursor is a number of any kind,
because moving it asks only that the result is not negative.

Opening needs an open device, and so does everything that a handle does but telling its cursor.
-/

namespace SectorDisk

/-! ## §1 Seeking -/

/-- Where a seek counts from. -/
inductive Origin where
  /-- The beginning of the disk. -/
  | start
  /-- The cursor. -/
  | cursor
  /-- The end of the disk. -/
  | past

/-- The origin that an argument stands for: 0, 1 or 2. -/
def Origin.ofValue (v : Value) : Except Failure Origin :=
  match v with
  | .number n =>
    if n.equals 0 then .ok .start
    else if n.equals 1 then .ok .cursor
    else if n.equals 2 then .ok .past
    else .error (.whence v)
  | v => .error (.whence v)

/-- A number to which an argument is added. -/
def addArgument (base : Number) (v : Value) : Except Failure Number :=
  match v with
  | .number n => base.add n
  | v => .error (.unaddable base.typeName v.typeName)

/-- The number at which a seek ends; from the beginning it may be an argument that is none. -/
def seekTarget (cursor : Number) (offset : Value) : Origin → Except Failure Value
  | .start => .ok offset
  | .cursor => (addArgument cursor offset).map Value.number
  | .past => (addArgument (.int diskSize) offset).map Value.number

/-- The cursor that a seek leaves. -/
def newCursor (target : Value) : Except Failure Number :=
  match target with
  | .number n => if n.isNegative then .error .cursorNegative else .ok n
  | v => .error (.unordered .less v.typeName "int")

/-! ## §2 Handles of a device -/

namespace Device

/-- A handle by number; one that was never opened counts as closed. -/
def handle (d : Device) (index : Nat) : Handle :=
  (d.handles[index]?).getD { isClosed := true }

/-- Whether operations of a handle may go on. -/
def usable (d : Device) (index : Nat) : Except Failure Unit :=
  if d.isClosed then .error .deviceClosed
  else if (d.handle index).isClosed then .error .handleClosed
  else .ok ()

end Device

namespace Stream

/-- The cursor of a handle. -/
def tell (index : Nat) : Op Number := do
  return ((← Op.device).handle index).cursor

/-- Goes on only with a usable handle. -/
def check (index : Nat) : Op Unit := do
  (← Op.device).usable index

/-- Replaces the cursor of a handle. -/
def setCursor (index : Nat) (cursor : Number) : Op Unit :=
  Op.updateDevice fun d => d.setHandle index { d.handle index with cursor := cursor }

/-- Moves the cursor of a handle on; it was an integer, or nothing was transferred. -/
def advance (index count : Nat) : Op Unit := do
  match (← tell index).toInt? with
  | some cursor => setCursor index (.int (cursor + count))
  | none => return ()

/-- Reads at the cursor. -/
def read (index : Nat) (length : Value) : Op Bytes := do
  check index
  let data ← Storage.read (.number (← tell index)) length
  advance index data.length
  return data

/-- Writes at the cursor. -/
def write (index : Nat) (data : Value) : Op Nat := do
  check index
  let count ← Storage.write (.number (← tell index)) data
  advance index count
  return count

/-- Reads at an offset. -/
def pread (index : Nat) (length offset : Value) : Op Bytes := do
  check index
  Storage.read offset length

/-- Writes at an offset. -/
def pwrite (index : Nat) (data offset : Value) : Op Nat := do
  check index
  Storage.write offset data

/-- Moves the cursor. -/
def seek (index : Nat) (offset whence : Value) : Op Number := do
  check index
  let cursor ← tell index
  let origin ← Origin.ofValue whence
  let target ← seekTarget cursor offset origin
  let cursor ← newCursor target
  setCursor index cursor
  return cursor

/-- Closes a handle. -/
def close (index : Nat) : Op Unit := do
  let handle := (← Op.device).handle index
  if handle.isClosed then return ()
  Op.updateDevice fun d => d.setHandle index { handle with isClosed := true }
  Op.tell (.handleReleased index)

end Stream

end SectorDisk
