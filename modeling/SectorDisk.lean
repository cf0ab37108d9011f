import SectorDisk.Lock.Crowd
import SectorDisk.Main
import SectorDisk.Proofs.Atomicity
import SectorDisk.Proofs.Protection
import SectorDisk.Proofs.LastWriter
import SectorDisk.Proofs.MirrorTime
import SectorDisk.Proofs.BackupOutcome
import SectorDisk.Proofs.Lock.Schedule
import SectorDisk.Proofs.Lock.Script
import SectorDisk.Proofs.Contention.Waiting
import SectorDisk.Proofs.Text.Utf8
import SectorDisk.Proofs.Control.Metrics
import SectorDisk.Proofs.Exposition
import SectorDisk.Proofs.Packet
import SectorDisk.Proofs.Control.Errand
import SectorDisk.Proofs.Requests.Operation
import SectorDisk.Proofs.Control.Rejection
import SectorDisk.Proofs.Control.Wire
import SectorDisk.Proofs.MirrorTraffic
import SectorDisk.Proofs.Interruption
import SectorDisk.Proofs.Closing
import SectorDisk.Proofs.Console.Launch
import SectorDisk.Proofs.Write
import SectorDisk.Proofs.Unlock
import SectorDisk.Proofs.Console.Dialogue
import SectorDisk.Proofs.Cursor.Place
import SectorDisk.Proofs.Streaming
import SectorDisk.Proofs.Reading
import SectorDisk.Proofs.Commutation
import SectorDisk.Proofs.Erasing
import SectorDisk.Proofs.Bounds
import SectorDisk.Proofs.BackupPath
import SectorDisk.Proofs.DataPath
import SectorDisk.Proofs.Packet.Exact
import SectorDisk.Proofs.Console.KeyOption
import SectorDisk.Proofs.Console.HexDump
import SectorDisk.Proofs.Console.Demonstration
import SectorDisk.Proofs.Extent.Exact
