import SectorDisk.Console.Invocation
import SectorDisk.Device.Run

/-!
# Acts

Carrying out a request on a device.  An act does operations and prints lines as it goes; it ends
with the first failure, and what it printed before stays printed.
-/

namespace SectorDisk.Console

/-! ## §1 Acting and printing -/

/-- A host, the lines printed so far, and how backup files behave. -/
structure Stage where
  /-- The host. -/
  host : Host
  /-- The lines. -/
  printed : List String := []
  /-- The behaviour of backup files. -/
  sink : Sink := Sink.ample

/-- Something that is done step by step, printing lines. -/
def Act (α : Type) : Type :=
  Stage → Except Failure α × Stage

namespace Act

variable {α β : Type}

/-- Continues an act with its result; a failure ends both. -/
def andThen (act : Act α) (next : α → Act β) : Act β := fun s =>
  match act s with
  | (.ok a, s) => next a s
  | (.error e, s) => (.error e, s)

instance : Monad Act where
  pure a := fun s => (.ok a, s)
  bind := andThen

/-- Ends with a failure. -/
def fail (e : Failure) : Act α := fun s => (.error e, s)

/-- Ends as a judgement says. -/
def judge (r : Except Failure α) : Act α := fun s => (r, s)

instance : MonadLift (Except Failure) Act where
  monadLift := judge

/-- Does an operation, under circumstances that are ordinary but for the backup files. -/
def operate (op : Op α) : Act α := fun s =>
  let (r, host) := op { sink := s.sink } s.host
  (r, { s with host := host })

instance : MonadLift Op Act where
  monadLift := operate

/-- Prints a line. -/
def say (line : String) : Act Unit := fun s =>
  (.ok (), { s with printed := s.printed ++ [line] })

/-- Prints lines. -/
def sayAll (lines : List String) : Act Unit := fun s =>
  (.ok (), { s with printed := s.printed ++ lines })

/-- Opens a handle for a body and closes it on every way out. -/
def withHandle (body : Nat → Act α) : Act α := do
  let index ← operate Device.open
  fun s =>
    let (r, s) := body index s
    (r, (operate (Stream.close index) s).2)

end Act

/-! ## §2 Requests -/

/-- A control command with its payload as bytes. -/
def control (c : Command) (payload : Bytes) : Op Value :=
  Device.control (.command c) (.octets payload)

/-- Shows bytes. -/
def actRead (offset length : Value) : Act Unit := do
  let data ← Act.withHandle fun index => Act.operate (Stream.pread index length offset)
  Act.say ("Read " ++ toString data.length ++ " bytes")
  match offset, data with
  | _, [] => return ()
  | .int base, data => Act.sayAll (dumpLines base 16 data)
  | _, data => Act.sayAll (dumpLines 0 16 data)

/-- Writes bytes. -/
def actWrite (offset data : Value) : Act Unit := do
  let count ← Act.withHandle fun index => Act.operate (Stream.pwrite index data offset)
  Act.say ("Wrote " ++ toString count ++ " bytes at offset " ++ offset.text)

/-- Sends a control command about a sector and prints what happened to it. -/
def actOnSector (c : Command) (sector : Value) (deed : String) : Act Unit := do
  let payload ← Packet.Index.encode sector
  let _ ← control c payload
  Act.say ("Sector " ++ sector.text ++ " " ++ deed)

/-- Lifts the protection of a sector. -/
def actUnlock (sector key : Value) : Act Unit := do
  let request ← Packet.Unlock.make sector key
  let _ ← control .unlockSector request.encode
  Act.say ("Sector " ++ sector.text ++ " unlocked with key " ++ key.text)

/-- The line on the protection of one sector. -/
def protectionLine (entry : Bool × Nat) : String :=
  "Sector " ++ toString entry.2 ++ ": " ++ (if entry.1 then "LOCKED" else "UNLOCKED")

/-- Shows the protection of all sectors. -/
def actLockInfo : Act Unit := do
  let answer ← control .getLockInfo []
  let flags ← Packet.Protection.decode answer
  Act.say "Lock status:"
  Act.sayAll (flags.zipIdx.map protectionLine)

/-- Writes the mirror to a file. -/
def actBackup (path : Value) : Act Unit := do
  let payload ← Packet.Path.encode path
  let _ ← control .backupToFile payload
  Act.say ("Storage backup written to " ++ path.text)

/-- Shows a sector. -/
def actDump (sector : Value) : Act Unit := do
  let s ← Sector.ofValue sector
  let data ← Act.withHandle fun index =>
    Act.operate (Stream.pread index (.int sectorSize) (.int s.start))
  Act.sayAll (dumpLines s.start 16 data)

/-- Shows the metrics. -/
def actMetrics : Act Unit := do
  let device ← Op.device
  Act.sayAll device.metrics.lines

/-! ## §3 The demonstration -/

/-- The bytes that a demonstration writes: all values in order, twice. -/
def demoPattern : Bytes :=
  (List.range sectorSize).map fun i => i.toUInt8

/-- Writes the pattern to the first sector and reads it back. -/
def demoWriteRead : Act Unit :=
  Act.withHandle fun index => do
    let _ ← Act.operate (Stream.pwrite index (.octets demoPattern) (.int 0))
    Act.say "Sector 0 write success"
    let data ← Act.operate (Stream.pread index (.int sectorSize) (.int 0))
    if data ≠ demoPattern then Act.fail .readBack
    Act.say "Sector 0 read success"

/-- Shows all at work: writing and reading back, protecting a sector and lifting its protection, the
protection of all sectors, copying into the mirror, a backup, and erasing. -/
def actDemo (path : String) : Act Unit := do
  demoWriteRead
  actOnSector .lockSector (.int 2) "locked"
  actUnlock (.int 2) (.string "B")
  actLockInfo
  actOnSector .mirrorSector (.int 2) "mirrored"
  actBackup (.string path)
  actOnSector .eraseSector (.int 4) "erased"

/-- The path for the backup of a demonstration. -/
def demoPath (given : Option String) (default : String) : String :=
  match given with
  | some path => if path.isEmpty then default else path
  | none => default

/-- Carries out a request; `defaultPath` is where a demonstration writes its backup. -/
def Request.act (defaultPath : String) : Request → Act Unit
  | read offset length => actRead offset length
  | write offset data => actWrite offset data
  | lock sector => actOnSector .lockSector sector "locked"
  | unlock sector key => actUnlock sector key
  | lockInfo => actLockInfo
  | erase sector => actOnSector .eraseSector sector "erased"
  | mirror sector => actOnSector .mirrorSector sector "mirrored"
  | backup path => actBackup path
  | dump sector => actDump sector
  | metrics => actMetrics
  | demo path => actDemo (demoPath path defaultPath)

end SectorDisk.Console
