import SectorDisk.Failure

/-!
# Notices

What a device tells its operator, each with a level, the part that says it and a text.
-/

namespace SectorDisk

/-! ## §1 Levels -/

/-- How urgent a notice is. -/
inductive Level where
  /-- Something happened. -/
  | info
  /-- Something was refused. -/
  | warning
  /-- Something broke. -/
  | error
  deriving DecidableEq, Repr

namespace Level

/-- The name of a level. -/
def name : Level → String
  | info => "INFO"
  | warning => "WARNING"
  | error => "ERROR"

/-- The rank of a level; a more urgent one has a greater rank. -/
def rank : Level → Nat
  | info => 20
  | warning => 30
  | error => 40

end Level

/-! ## §2 Notices -/

/-- Something that an operator is told. -/
inductive Notice where
  /-- The standard keys are in use. -/
  | standardKeys
  /-- Configured keys are in use. -/
  | configuredKeys (count : Nat)
  /-- The mirror is ready. -/
  | mirrorReady
  /-- The device is ready. -/
  | deviceReady
  /-- The device is closed. -/
  | deviceClosed
  /-- A handle was opened. -/
  | handleOpened (handle : Nat)
  /-- A handle was closed. -/
  | handleReleased (handle : Nat)
  /-- A sector was protected. -/
  | locked (sector : Sector)
  /-- The protection of a sector was lifted. -/
  | unlocked (sector : Sector)
  /-- A sector was filled with zeros. -/
  | erased (sector : Sector)
  /-- A sector was copied into the mirror. -/
  | mirrored (sector : Sector)
  /-- A write was refused because of a protected sector. -/
  | writeRefused (offset : Nat) (sector : Sector)
  /-- An erasure was refused. -/
  | eraseRefused (sector : Sector)
  /-- A key was refused. -/
  | keyRefused (sector : Sector)
  /-- A command is not known. -/
  | unsupported (command : Value)
  /-- A command failed. -/
  | commandFailed (command : Command) (failure : Failure)
  /-- The mirror was written to a file. -/
  | backedUp (path : Value)
  /-- A backup file took only `written` bytes. -/
  | backupIncomplete (path : Value) (written : Nat)
  /-- A backup file failed when it had taken `written` bytes. -/
  | backupFailed (path : Value) (written : Nat) (cause : Value)

namespace Notice

/-- The level of a notice. -/
def level : Notice → Level
  | writeRefused .. => .warning
  | eraseRefused .. => .warning
  | keyRefused .. => .warning
  | unsupported .. => .warning
  | commandFailed .. => .warning
  | backupIncomplete .. => .warning
  | backupFailed .. => .error
  | _ => .info

/-- The part of the device that gives the notice. -/
def origin : Notice → String
  | standardKeys => "sectorstore_db.persistence.key_store"
  | configuredKeys .. => "sectorstore_db.persistence.key_store"
  | mirrorReady => "sectorstore_db.persistence.mirror_buffer"
  | mirrored .. => "sectorstore_db.persistence.mirror_buffer"
  | backedUp .. => "sectorstore_db.persistence.mirror_buffer"
  | backupIncomplete .. => "sectorstore_db.persistence.mirror_buffer"
  | backupFailed .. => "sectorstore_db.persistence.mirror_buffer"
  | locked .. => "sectorstore_db.persistence.sector_storage"
  | unlocked .. => "sectorstore_db.persistence.sector_storage"
  | erased .. => "sectorstore_db.persistence.sector_storage"
  | writeRefused .. => "sectorstore_db.persistence.sector_storage"
  | eraseRefused .. => "sectorstore_db.persistence.sector_storage"
  | keyRefused .. => "sectorstore_db.persistence.sector_storage"
  | unsupported .. => "sectorstore_db.engine.control_dispatcher"
  | commandFailed .. => "sectorstore_db.engine.control_dispatcher"
  | handleOpened .. => "sectorstore_db.engine.device_handle"
  | handleReleased .. => "sectorstore_db.engine.device_handle"
  | deviceReady => "sectorstore_db.engine.storage_device"
  | deviceClosed => "sectorstore_db.engine.storage_device"

/-- The text of a notice. -/
def text : Notice → String
  | standardKeys => "Key store using default keys A-H"
  | configuredKeys count => "Key store loaded with " ++ toString count ++ " user keys"
  | mirrorReady => "Mirror buffer initialized"
  | deviceReady => "Storage device initialized"
  | deviceClosed => "Storage device closed"
  | handleOpened handle => "Device handle " ++ toString handle ++ " opened"
  | handleReleased handle => "Device handle " ++ toString handle ++ " released"
  | locked s => "Sector " ++ toString s.val ++ " locked"
  | unlocked s => "Sector " ++ toString s.val ++ " unlocked"
  | erased s => "Sector " ++ toString s.val ++ " erased"
  | mirrored s => "Sector " ++ toString s.val ++ " mirrored"
  | writeRefused offset s =>
    "Write at offset " ++ toString offset ++ " rejected: sector " ++ toString s.val
      ++ " is locked"
  | eraseRefused s => "Erase of sector " ++ toString s.val ++ " rejected: sector is locked"
  | keyRefused s => "Unlock of sector " ++ toString s.val ++ " rejected: invalid key"
  | unsupported command => "Unsupported control command " ++ command.quoted
  | commandFailed c failure => "Control command " ++ c.name ++ " failed: " ++ failure.message
  | backedUp path => "Mirror backed up to " ++ path.text
  | backupIncomplete path written =>
    "Backup to " ++ path.text ++ " incomplete: " ++ toString written ++ " of 4096 bytes"
  | backupFailed path written cause =>
    "Backup to " ++ path.text ++ " failed after " ++ toString written ++ " bytes: "
      ++ cause.text

end Notice

end SectorDisk
