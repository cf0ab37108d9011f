import SectorDisk.Files
import SectorDisk.Key
import SectorDisk.Lock
import SectorDisk.Metrics
import SectorDisk.Notice

/-!
# The device and its host

A device has two buffers of eight sectors, the primary one and its mirror, each behind a lock of its
own; a protection bit for every sector of the primary buffer; the keys that lift protection; handles
with cursors; and the metrics of its control commands.  Its host adds the files that it can reach
and a journal of what happened.
-/

namespace SectorDisk

/-! ## §1 Buffers and parties -/

/-- The buffers of a device. -/
inductive Buffer where
  /-- The buffer that is read and written. -/
  | primary
  /-- The buffer that sectors are copied into. -/
  | mirror
  deriving DecidableEq, Repr

/-- What the lock of a buffer is called. -/
def Buffer.lockName : Buffer → String
  | .primary => "storage lock"
  | .mirror => "mirror lock"

/-- Who may own the lock of a buffer. -/
inductive Party where
  /-- The thread of the operation that is told of. -/
  | caller
  /-- Another thread. -/
  | rival
  deriving DecidableEq, Repr

/-! ## §2 Devices -/

/-- A byte-stream endpoint. -/
structure Handle where
  /-- Where the next read or write begins. -/
  cursor : Number := .int 0
  /-- Whether it was closed. -/
  isClosed : Bool := false

/-- A device. -/
structure Device where
  /-- The primary buffer. -/
  primary : Image := Image.blank
  /-- The mirror. -/
  mirror : Image := Image.blank
  /-- Which sectors are protected. -/
  protection : Flags := Vector.replicate 8 false
  /-- The keys that lift protection. -/
  keys : Keyring
  /-- The lock of the primary buffer. -/
  primaryLock : Lock Party := {}
  /-- The lock of the mirror. -/
  mirrorLock : Lock Party := {}
  /-- The handles that were opened, by number. -/
  handles : List Handle := []
  /-- Whether the device was closed. -/
  isClosed : Bool := false
  /-- The metrics of control commands. -/
  metrics : Metrics := {}

namespace Device

/-- The lock of a buffer. -/
def lockOf (d : Device) : Buffer → Lock Party
  | .primary => d.primaryLock
  | .mirror => d.mirrorLock

/-- The device with the lock of a buffer replaced. -/
def setLock (d : Device) (b : Buffer) (lock : Lock Party) : Device :=
  match b with
  | .primary => { d with primaryLock := lock }
  | .mirror => { d with mirrorLock := lock }

/-- The buffers whose locks a party owns. -/
def ownedBy (d : Device) (party : Party) : List Buffer :=
  [Buffer.primary, Buffer.mirror].filter fun b => decide ((d.lockOf b).owner = some party)

/-- The device after another thread took the lock of a buffer, if it was free. -/
def taken (d : Device) (b : Buffer) : Device :=
  match (d.lockOf b).owner with
  | none => d.setLock b { d.lockOf b with owner := some .rival }
  | some _ => d

/-- The device after another thread let the lock of a buffer go, if it owned it. -/
def letGo (d : Device) (b : Buffer) : Device :=
  if (d.lockOf b).owner = some .rival then d.setLock b (d.lockOf b).freed else d

/-- The device after an interruption of the lock of a buffer. -/
def interrupted (d : Device) (b : Buffer) : Device :=
  d.setLock b (d.lockOf b).interrupted

/-- The lowest protected sector of a span. -/
def firstProtected? (d : Device) (r : Span) : Option Sector :=
  (List.finRange 8).find? fun s => r.holds s.val && d.protection.bit s

/-- The device with a handle replaced. -/
def setHandle (d : Device) (index : Nat) (handle : Handle) : Device :=
  { d with handles := d.handles.set index handle }

end Device

/-! ## §3 Hosts -/

/-- An entry of the journal. -/
inductive Entry where
  /-- The caller asked for the lock of a buffer; `owned` are the buffers whose locks it owned. -/
  | request (buffer : Buffer) (owned : List Buffer)
  /-- The operator was told something. -/
  | notice (notice : Notice)

/-- The notice of an entry, if it is one. -/
def Entry.notice? : Entry → Option Notice
  | .notice n => some n
  | .request .. => none

/-- A device with the files it can reach and the journal of what happened. -/
structure Host where
  /-- The device. -/
  device : Device
  /-- The files. -/
  files : Files
  /-- What happened, in order. -/
  journal : List Entry := []

namespace Host

/-- The host with its device changed. -/
def updateDevice (h : Host) (f : Device → Device) : Host :=
  { h with device := f h.device }

/-- The host with one more entry in its journal. -/
def enter (h : Host) (entry : Entry) : Host :=
  { h with journal := h.journal ++ [entry] }

/-- The host after its operator was told something. -/
def tell (h : Host) (n : Notice) : Host :=
  h.enter (.notice n)

/-- What the operator was told, in order. -/
def notices (h : Host) : List Notice :=
  h.journal.filterMap Entry.notice?

/-- The host after its device was closed: the first time, all who wait are interrupted. -/
def closed (h : Host) : Host :=
  if h.device.isClosed then h
  else
    (h.updateDevice fun d =>
      (({ d with isClosed := true }).interrupted .primary).interrupted .mirror).tell .deviceClosed

/-- A host with a new device, whose keys are given by a value of any type. -/
def start (keys : Value) (files : Files) : Except Failure Host := do
  let ring ← Keyring.ofValue keys
  let keyNotice : Notice :=
    if keys.isTrue then .configuredKeys ring.keys.length else .standardKeys
  return {
    device := { keys := ring }
    files := files
    journal := [.notice keyNotice, .notice .mirrorReady, .notice .deviceReady] }

end Host

end SectorDisk
