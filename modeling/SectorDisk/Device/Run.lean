import SectorDisk.Device.Control
import SectorDisk.Device.Handle

/-!
# Runs of a device

`Operation` lists everything that can be asked of a device and `perform` does it.  A run is a list
of steps: operations of the caller, and what another thread or somebody else with access to the
files does in between.
-/

namespace SectorDisk

/-! ## §1 The device as a whole -/

namespace Device

/-- Goes on only with an open device. -/
def check : Op Unit := do
  if (← Op.device).isClosed then Op.fail .deviceClosed

/-- Opens a handle and returns its number. -/
def «open» : Op Nat := do
  check
  let index := (← Op.device).handles.length
  Op.updateDevice fun d => { d with handles := d.handles ++ [{}] }
  Op.tell (.handleOpened index)
  return index

/-- Dispatches a control command on an open device. -/
def control (command payload : Value) : Op Value := do
  check
  Control.dispatch command payload

/-- Closes the device. -/
def close : Op Unit :=
  Op.update Host.closed

end Device

/-! ## §2 Operations -/

/-- What can be asked of a handle. -/
inductive HandleOperation where
  /-- Read at the cursor. -/
  | read (length : Value)
  /-- Write at the cursor. -/
  | write (data : Value)
  /-- Read at an offset. -/
  | pread (length offset : Value)
  /-- Write at an offset. -/
  | pwrite (data offset : Value)
  /-- Move the cursor. -/
  | seek (offset whence : Value)
  /-- Tell the cursor. -/
  | tell
  /-- Tell whether it is closed. -/
  | isClosed
  /-- Close it. -/
  | close
  /-- Tell the cursor and close it. -/
  | useOnce

/-- What can be asked of a device. -/
inductive Operation where
  /-- Open a handle. -/
  | openHandle
  /-- Dispatch a control command on an open device. -/
  | control (command payload : Value)
  /-- Dispatch a control command, open or not. -/
  | dispatch (command payload : Value)
  /-- Close the device. -/
  | close
  /-- Tell whether it is closed. -/
  | isClosed
  /-- Tell the keys. -/
  | keys
  /-- Tell the metrics. -/
  | metrics
  /-- Close the device at the end of a context. -/
  | useOnce
  /-- Ask something of a handle. -/
  | handle (index : Nat) (op : HandleOperation)
  /-- Read from the primary buffer. -/
  | read (offset length : Value)
  /-- Write to the primary buffer. -/
  | write (offset data : Value)
  /-- Protect a sector. -/
  | lock (sector : Value)
  /-- Lift the protection of a sector. -/
  | unlock (sector key : Value)
  /-- Tell the protection of all sectors. -/
  | protections
  /-- Erase a sector. -/
  | erase (sector : Value)
  /-- Copy a sector into the mirror. -/
  | capture (sector : Value)
  /-- Tell the primary buffer. -/
  | primarySnapshot
  /-- Store given bytes in the mirror. -/
  | store (sector data : Value)
  /-- Tell the mirror. -/
  | mirrorSnapshot
  /-- Write the mirror to a file. -/
  | backup (path : Value)

/-- Texts as a list. -/
def textList (texts : List String) : Value :=
  .list (texts.map Value.string)

/-- An operation with its result as a value. -/
def Op.giving {α : Type} (op : Op α) (f : α → Value) : Op Value := do
  return f (← op)

/-- A count as a value. -/
def countValue (n : Nat) : Value :=
  .int n

/-- No result as a value. -/
def unitValue (_ : Unit) : Value :=
  .none

/-- Does what is asked of a handle. -/
def HandleOperation.perform (index : Nat) : HandleOperation → Op Value
  | read length => (Stream.read index length).giving Value.octets
  | write data => (Stream.write index data).giving countValue
  | pread length offset => (Stream.pread index length offset).giving Value.octets
  | pwrite data offset => (Stream.pwrite index data offset).giving countValue
  | seek offset whence => (Stream.seek index offset whence).giving Value.number
  | tell => (Stream.tell index).giving Value.number
  | isClosed => do return .bool ((← Op.device).handle index).isClosed
  | close => (Stream.close index).giving unitValue
  | useOnce => do
    let cursor ← Stream.tell index
    Stream.close index
    return .number cursor

/-- Does what is asked of a device. -/
def Operation.perform : Operation → Op Value
  | openHandle => Device.open.giving countValue
  | control command payload => Device.control command payload
  | dispatch command payload => Control.dispatch command payload
  | close => Device.close.giving unitValue
  | isClosed => do return .bool (← Op.device).isClosed
  | keys => do return textList (← Op.device).keys.texts
  | metrics => do return textList (← Op.device).metrics.lines
  | useOnce => do
    Device.close
    return .bool true
  | handle index op => op.perform index
  | read offset length => (Storage.read offset length).giving Value.octets
  | write offset data => (Storage.write offset data).giving countValue
  | lock sector => (Storage.lock sector).giving unitValue
  | unlock sector key => (Storage.unlock sector key).giving unitValue
  | protections => Storage.protections.giving fun flags => .list (flags.map Value.bool)
  | erase sector => (Storage.erase sector).giving unitValue
  | capture sector => (Mirror.capture sector).giving unitValue
  | primarySnapshot => Storage.snapshot.giving Value.octets
  | store sector data => (Mirror.store sector data).giving unitValue
  | mirrorSnapshot => Mirror.snapshot.giving Value.octets
  | backup path => (Mirror.backup path).giving unitValue

/-! ## §3 Runs -/

/-- A step of a run. -/
inductive Step where
  /-- The caller asks something of the device. -/
  | operate (c : Circumstance) (op : Operation)
  /-- Another thread takes the lock of a buffer. -/
  | hold (b : Buffer)
  /-- It lets the lock go. -/
  | letGo (b : Buffer)
  /-- The lock of a buffer is interrupted. -/
  | interrupt (b : Buffer)
  /-- Somebody writes a file. -/
  | writeFile (path content : Bytes)
  /-- Somebody makes a directory. -/
  | makeDirectory (path : Bytes)

/-- The host after an operation, when what was to happen during the operation has happened at the
latest. -/
def Host.settled (h : Host) : Option Wake → Host
  | some wake => h.woken wake
  | none => h

/-- What an operation ends with and the host after it. -/
def Host.operate (h : Host) (c : Circumstance) (op : Operation) : Except Failure Value × Host :=
  let (r, h) := op.perform c h
  (r, h.settled c.wake)

/-- The host after a change of its files, which stay as they are where the change is refused. -/
def Host.withFiles (h : Host) (change : Files → Except FileProblem Files) : Host :=
  match change h.files with
  | .ok files => { h with files := files }
  | .error _ => h

/-- The host after a step. -/
def Host.step (h : Host) : Step → Host
  | .operate c op => (h.operate c op).2
  | .hold b => h.updateDevice (·.taken b)
  | .letGo b => h.updateDevice (·.letGo b)
  | .interrupt b => h.updateDevice (·.interrupted b)
  | .writeFile path content => h.withFiles (·.save path content)
  | .makeDirectory path => h.withFiles (·.makeDirectory path)

/-- The host after a run. -/
def Host.run (h : Host) (steps : List Step) : Host :=
  steps.foldl Host.step h

end SectorDisk
