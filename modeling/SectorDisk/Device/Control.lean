import SectorDisk.Device.Mirror
import SectorDisk.Packet.Payload

/-!
# Control commands

Each command comes with a payload, which is decoded before anything else is done.  Every command
that is known is counted and timed, whether it succeeds or fails.
-/

namespace SectorDisk.Control

/-- The sector of a payload, as an argument. -/
def sectorArgument (payload : Value) : Except Failure Value :=
  (Packet.Index.decode payload).map Value.int

/-- Carries out a command. -/
def carryOut (c : Command) (payload : Value) : Op Value :=
  match c with
  | .lockSector => do
    let sector ← sectorArgument payload
    Storage.lock sector
    return .none
  | .unlockSector => do
    let request ← Packet.Unlock.decode payload
    Storage.unlock (.int request.sector.val) (.string (String.singleton request.key.char))
    return .none
  | .getLockInfo => do
    if payload.isTrue then Op.fail .payloadExcess
    return .octets (Packet.flagBytes (← Storage.protections))
  | .eraseSector => do
    let sector ← sectorArgument payload
    Storage.erase sector
    return .none
  | .mirrorSector => do
    let sector ← sectorArgument payload
    Mirror.capture sector
    return .none
  | .backupToFile => do
    let path ← Packet.Path.decode payload
    Mirror.backup (.string path)
    return .none

/-- Changes the metrics. -/
def record (f : Metrics → Metrics) (h : Host) : Host :=
  h.updateDevice fun d => { d with metrics := f d.metrics }

/-- Carries out a command, counting it, its failure and its time. -/
def counted (c : Command) (payload : Value) : Op Value := fun circumstance h =>
  match carryOut c payload circumstance (record (·.started c) h) with
  | (.ok answer, h) => (.ok answer, record (·.observed c circumstance.latency) h)
  | (.error e, h) =>
    let h := (record (·.failed c e.kind) h).tell (.commandFailed c e)
    (.error e, record (·.observed c circumstance.latency) h)

/-- Dispatches a command, given by name or code. -/
def dispatch (command payload : Value) : Op Value :=
  match Command.ofValue command with
  | .ok c => counted c payload
  | .error e => do
    Op.tell (.unsupported command)
    Op.fail e

end SectorDisk.Control
