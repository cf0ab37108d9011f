/-!
# Control commands

The closed set of commands that act on the disk beside reading and writing, each with its wire code.
-/

namespace SectorDisk

/-- A control command. -/
inductive Command where
  /-- Protect a sector against writing. -/
  | lockSector
  /-- Lift the protection of a sector. -/
  | unlockSector
  /-- Report the protection of all sectors. -/
  | getLockInfo
  /-- Fill a sector with zeros. -/
  | eraseSector
  /-- Copy a sector into the mirror. -/
  | mirrorSector
  /-- Write the mirror to a file. -/
  | backupToFile
  deriving DecidableEq, Repr

namespace Command

/-- The commands by ascending code. -/
def all : List Command :=
  [lockSector, unlockSector, getLockInfo, eraseSector, mirrorSector, backupToFile]

/-- The wire code. -/
def code : Command → Nat
  | lockSector => 1
  | unlockSector => 2
  | getLockInfo => 3
  | eraseSector => 4
  | mirrorSector => 5
  | backupToFile => 6

/-- The name in messages. -/
def name : Command → String
  | lockSector => "LOCK_SECTOR"
  | unlockSector => "UNLOCK_SECTOR"
  | getLockInfo => "GET_LOCK_INFO"
  | eraseSector => "ERASE_SECTOR"
  | mirrorSector => "MIRROR_SECTOR"
  | backupToFile => "BACKUP_TO_FILE"

/-- The name in metrics. -/
def label : Command → String
  | lockSector => "lock_sector"
  | unlockSector => "unlock_sector"
  | getLockInfo => "get_lock_info"
  | eraseSector => "erase_sector"
  | mirrorSector => "mirror_sector"
  | backupToFile => "backup_to_file"

/-- The command with a wire code. -/
def ofCode? (n : Int) : Option Command :=
  all.find? fun c => decide ((c.code : Int) = n)

/-- The command with a name. -/
def ofName? (s : String) : Option Command :=
  all.find? fun c => decide (c.name = s)

end Command

end SectorDisk
