import SectorDisk.Device.Storage
import SectorDisk.SystemError.Count

/-!
# The mirror

Sectors are copied into the mirror, from the primary buffer or from given bytes, and the whole
mirror is written to a backup file.  The copy of a sector is taken under the lock of the primary
buffer and delivered under the lock of the mirror; the two are never owned together.
-/

namespace SectorDisk.Mirror

/-! ## §1 Filling -/

/-- The content for a sector: the first 512 of the given bytes, which have to lie in one piece.
That there are so many is judged first. -/
def sectorBytes (data : Value) : Except Failure Bytes :=
  match data.held? with
  | none => .error (.mirrorType data.typeName)
  | some held =>
    if held.length < sectorSize then .error (.mirrorSize held.length)
    else
      match data.bytes? with
      | none => .error .mirrorSpaced
      | some bytes => .ok (bytes.take sectorSize)

/-- Stores the content of a sector. -/
def deliver (s : Sector) (content : Bytes) : Op Unit := do
  Op.exclusively .mirror "mirror_sector" do
    Op.updateDevice fun d => { d with mirror := d.mirror.splice s.start content }
  Op.tell (.mirrored s)

/-- Stores given bytes as a sector. -/
def store (sector data : Value) : Op Unit := do
  let s ← Sector.ofValue sector
  let content ← sectorBytes data
  deliver s content

/-- Copies a sector of the primary buffer. -/
def capture (sector : Value) : Op Unit := do
  let s ← Sector.ofValue sector
  let content ← Storage.copyOut s
  deliver s content

/-- The whole mirror. -/
def snapshot : Op Bytes :=
  Op.exclusively .mirror "snapshot" do
    return (← Op.device).mirror.toList

/-! ## §2 Backup -/

/-- A path as text or bytes. -/
def plainPath : Value → Except Failure Value
  | .path s => .ok (.string s)
  | .string s => .ok (.string s)
  | .torn t => .ok (.torn t)
  | .octets data => .ok (.octets data)
  | v => .error (.pathType v.typeName)

/-- The path of a backup, which must not be empty. -/
def backupPath (path : Value) : Except Failure Value :=
  match path with
  | .none => .error .emptyPath
  | path => do
    let path ← plainPath path
    if path.isTrue then return path else throw .emptyPath

/-- The bytes that a path has for the host; halves of surrogate pairs may escape bytes. -/
def pathOctets : Value → Except Failure Bytes
  | .string s => .ok (Text.Utf8.encode s)
  | .torn t => t.escaped.mapError Failure.unwritable
  | .octets data => .ok data
  | _ => .ok []

/-- The failure on a path with a NUL in it, where the path is for the given request. -/
def nulFailure (request : String) : Value → Failure
  | .octets _ => .pathNulByte request
  | _ => .pathNul

/-- The file that a path opens. -/
def target (files : Files) (path : Value) : Except Failure Location := do
  let octets ← pathOctets path
  if octets.contains 0 then throw (nulFailure "open" path)
  match files.locate octets with
  | .ok place => return place
  | .error problem => throw (.openFailed path (problem.toValue path))

/-- Opens a backup file, which empties it. -/
def openFile (path : Value) : Op Location := do
  let place ← target (← Op.host).files path
  Op.update fun h => { h with files := h.files.put place [] }
  return place

/-- Ends as a file's failure after `written` bytes demands; one that cannot even be made fails in a
way of its own. -/
def failWriting (path : Value) (written : Nat) (cause : Value) : Op Nat := do
  match cause.flaw? with
  | some flaw => Op.fail flaw
  | none =>
    Op.tell (.backupFailed path written cause)
    Op.fail (.writeFailed path cause)

/-- What comes of offering the mirror to the file at a place. -/
def delivery (sink : Sink) (place : Location) (h : Host) : Sink.Delivery :=
  sink.drain h.device.mirror.toList ((h.files.content? place).getD [])

/-- Writes the mirror to an open file and returns how many bytes it took. -/
def writeImage (path : Value) (place : Location) : Op Nat := do
  let sink := (← Op.circumstance).sink
  let delivery := delivery sink place (← Op.host)
  Op.update fun h => { h with files := h.files.put place delivery.content }
  match delivery.failure with
  | some cause => failWriting path delivery.written cause
  | none => return delivery.written

/-- Writes the mirror to a file. -/
def backup (path : Value) : Op Unit := do
  let path ← backupPath path
  let place ← openFile path
  let written ← Op.exclusively .mirror "backup_to_file" (writeImage path place)
  if written = diskSize then Op.tell (.backedUp path)
  else
    Op.tell (.backupIncomplete path written)
    Op.fail (.incomplete path written)

end SectorDisk.Mirror
