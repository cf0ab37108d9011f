import SectorDisk.Proofs.Backup
import SectorDisk.Proofs.Contention.Operation
import SectorDisk.Proofs.Indifference

/-!
# What each operation leaves aside

Only backups have to do with files, only commands that are known with the metrics, and only opening
a handle and what is asked of a handle with the handles.
-/

namespace SectorDisk

variable {x : Aside}

/-! ## §1 Storage -/

namespace Storage

open Op.Ignores

theorem read_ignores (offset length : Value) : (read offset length).Ignores x := by
  unfold read
  apply andThen (judge _)
  intro offset
  apply andThen (judge _)
  intro length
  exact branch (result _) (inspect _ _ fun _ => rfl)

theorem overwrite_ignores (offset : Nat) (data : Bytes) : (overwrite offset data).Ignores x := by
  unfold overwrite
  refine device_bind (fun d => ?_) fun _ => rfl
  split
  · exact andThen (tell _) fun _ => fail _
  · exact updateDevice fun _ => rfl

theorem write_ignores (offset data : Value) : (write offset data).Ignores x := by
  unfold write
  apply andThen (judge _)
  intro offset
  apply branch (fail _)
  apply andThen (judge _)
  intro data
  apply branch (result _)
  apply andThen (exclusively _ _ (overwrite_ignores offset _))
  intro _
  exact result _

theorem protect_ignores (s : Sector) (on : Bool) : (protect s on).Ignores x :=
  updateDevice fun _ => rfl

theorem lock_ignores (sector : Value) : (lock sector).Ignores x := by
  unfold lock
  apply andThen (judge _)
  intro s
  apply andThen (exclusively _ _ (protect_ignores s true))
  intro _
  exact tell _

theorem unlock_ignores (sector key : Value) : (unlock sector key).Ignores x := by
  unfold unlock
  apply andThen (judge _)
  intro s
  refine device_bind (fun d => branch ?accepted ?refused) fun _ => rfl
  case accepted =>
    apply andThen (exclusively _ _ (protect_ignores s false))
    intro _
    exact tell _
  case refused => exact andThen (tell _) fun _ => fail _

theorem protections_ignores : protections.Ignores x := inspect _ _ fun _ => rfl

theorem clear_ignores (s : Sector) : (clear s).Ignores x := by
  unfold clear
  refine device_bind (fun d => branch ?locked ?free) fun _ => rfl
  case locked => exact andThen (tell _) fun _ => fail _
  case free => exact updateDevice fun _ => rfl

theorem erase_ignores (sector : Value) : (erase sector).Ignores x := by
  unfold erase
  apply andThen (judge _)
  intro s
  apply andThen (exclusively _ _ (clear_ignores s))
  intro _
  exact tell _

theorem snapshot_ignores : snapshot.Ignores x := inspect _ _ fun _ => rfl

theorem copyOut_ignores (s : Sector) : (copyOut s).Ignores x := inspect _ _ fun _ => rfl

end Storage

/-! ## §2 The mirror -/

namespace Mirror

open Op.Ignores

theorem deliver_ignores (s : Sector) (content : Bytes) : (deliver s content).Ignores x := by
  unfold deliver
  apply andThen
  · apply exclusively
    exact updateDevice fun _ => rfl
  · intro _
    exact tell _

theorem store_ignores (sector data : Value) : (store sector data).Ignores x := by
  unfold store
  apply andThen (judge _)
  intro s
  apply andThen (judge _)
  intro content
  exact deliver_ignores s content

theorem capture_ignores (sector : Value) : (capture sector).Ignores x := by
  unfold capture
  apply andThen (judge _)
  intro s
  apply andThen (Storage.copyOut_ignores s)
  intro content
  exact deliver_ignores s content

theorem snapshot_ignores : snapshot.Ignores x := inspect _ _ fun _ => rfl

section Files

variable (hfiles : x.files = id)
include hfiles

theorem files_beside (h : Host) : (h.beside x).files = h.files := by
  rw [Host.beside, hfiles, id_eq]

theorem withFiles_beside (h : Host) (files : Files) :
    ({ h.beside x with files } : Host) = ({ h with files } : Host).beside x := by
  simp only [Host.beside, hfiles, id_eq]

theorem put_beside (h : Host) (place : Location) (content : Bytes) :
    ({ h.beside x with files := (h.beside x).files.put place content } : Host) =
      ({ h with files := h.files.put place content } : Host).beside x := by
  rw [files_beside hfiles, withFiles_beside hfiles]

theorem openFile_ignores (path : Value) : (openFile path).Ignores x := by
  unfold openFile
  refine host_bind (fun h => ?_) fun h => ?_
  · apply andThen (judge _)
    intro place
    apply andThen (update fun h => put_beside hfiles h place [])
    intro _
    exact result _
  · rw [files_beside hfiles]

theorem writeImage_ignores (path : Value) (place : Location) :
    (writeImage path place).Ignores x := by
  unfold writeImage
  apply circumstance_bind
  intro c
  -- what is written comes from the mirror, and what is written over from the files
  have hdelivery (h : Host) : delivery c.sink place (h.beside x) = delivery c.sink place h := by
    rw [delivery, delivery, files_beside hfiles]
    rfl
  refine host_bind (fun h => ?_) fun h => by rw [hdelivery]
  apply andThen (update fun h => put_beside hfiles h place _)
  intro _
  split
  · unfold failWriting
    split
    · exact fail _
    · exact andThen (tell _) fun _ => fail _
  · exact result _

theorem backup_ignores (path : Value) : (backup path).Ignores x := by
  unfold backup
  apply andThen (judge _)
  intro path
  apply andThen (openFile_ignores hfiles path)
  intro place
  apply andThen (exclusively _ _ (writeImage_ignores hfiles path place))
  intro written
  apply branch (tell _)
  exact andThen (tell _) fun _ => fail _

end Files

end Mirror

/-! ## §3 Commands -/

namespace Control

open Op.Ignores

variable {cmd : Command} {payload : Value}

theorem carryOut_ignores (hfiles : cmd = .backupToFile →
      ∀ path, Packet.Path.decode payload = .ok path → x.files = id) :
    (carryOut cmd payload).Ignores x := by
  cases cmd with
  | lockSector =>
    apply andThen (judge _)
    intro sector
    exact andThen (Storage.lock_ignores sector) fun _ => result _
  | unlockSector =>
    apply andThen (judge _)
    intro request
    exact andThen (Storage.unlock_ignores _ _) fun _ => result _
  | getLockInfo => exact branch (fail _) (andThen Storage.protections_ignores fun _ => result _)
  | eraseSector =>
    apply andThen (judge _)
    intro sector
    exact andThen (Storage.erase_ignores sector) fun _ => result _
  | mirrorSector =>
    apply andThen (judge _)
    intro sector
    exact andThen (Mirror.capture_ignores sector) fun _ => result _
  | backupToFile =>
    apply judged
    intro path hpath
    exact andThen (Mirror.backup_ignores (hfiles rfl path hpath) _) fun _ => result _

theorem record_beside (hmetrics : x.metrics = id) (f : Metrics → Metrics) (h : Host) :
    record f (h.beside x) = (record f h).beside x := by
  apply h.beside_updateDevice x
  intro d
  simp only [Device.beside, hmetrics, id_eq]

theorem recorded_beside (hmetrics : x.metrics = id) (latency : Float)
    (r : Except Failure Value) (h : Host) :
    recorded cmd latency r (h.beside x) = (recorded cmd latency r h).beside x := by
  cases r with
  | ok answer =>
    simp only [recorded]
    rw [record_beside hmetrics]
  | error e =>
    simp only [recorded]
    rw [record_beside hmetrics, Host.beside_tell, record_beside hmetrics]

theorem counted_ignores (hmetrics : x.metrics = id)
    (hfiles : cmd = .backupToFile →
      ∀ path, Packet.Path.decode payload = .ok path → x.files = id) :
    (counted cmd payload).Ignores x := by
  intro c h
  rw [counted_eq, counted_eq, record_beside hmetrics, carryOut_ignores hfiles,
    recorded_beside hmetrics]

/-- A command that is not known leaves everything aside. -/
theorem dispatch_ignores {command : Value}
    (hmetrics : ∀ cmd, Command.ofValue command = .ok cmd → x.metrics = id)
    (hfiles : ∀ path, backupPath? command payload = some path → x.files = id) :
    (dispatch command payload).Ignores x := by
  unfold dispatch
  split
  · rename_i cmd hname
    refine counted_ignores (hmetrics cmd hname) fun hbackup path hpath => ?_
    subst hbackup
    exact hfiles (.string path) (by rw [backupPath?, hname, hpath])
  · exact andThen (tell _) fun _ => fail _

end Control

/-! ## §4 Handles -/

namespace Aside.Spares

variable {index : Nat} (hspares : x.Spares index)
include hspares

theorem handle_eq (d : Device) : (d.beside x).handle index = d.handle index :=
  congrArg (Option.getD · _) (hspares.look d.handles)

theorem setHandle_eq (d : Device) (e : Handle) :
    (d.beside x).setHandle index e = (d.setHandle index e).beside x :=
  congrArg (fun handles => { d.beside x with handles }) (hspares.set d.handles e).symm

end Aside.Spares

namespace Stream

open Op.Ignores

variable {index : Nat} (hspares : x.Spares index)
include hspares

theorem tell_ignores : (tell index).Ignores x := by
  unfold tell
  refine device_bind (fun d => result _) fun d => ?_
  rw [hspares.handle_eq]

theorem check_ignores : (check index).Ignores x := by
  unfold check
  refine device_bind (fun d => judge _) fun d => ?_
  have hclosed : (d.beside x).isClosed = d.isClosed := rfl
  unfold Device.usable
  rw [hspares.handle_eq, hclosed]

theorem setCursor_ignores (cursor : Number) : (setCursor index cursor).Ignores x := by
  apply updateDevice
  intro d
  rw [hspares.handle_eq, hspares.setHandle_eq]

theorem advance_ignores (count : Nat) : (advance index count).Ignores x := by
  unfold advance
  apply andThen (tell_ignores hspares)
  intro cursor
  split
  · exact setCursor_ignores hspares _
  · exact result _

theorem read_ignores (length : Value) : (read index length).Ignores x := by
  unfold read
  apply andThen (check_ignores hspares)
  intro _
  apply andThen (tell_ignores hspares)
  intro cursor
  apply andThen (Storage.read_ignores _ _)
  intro data
  exact andThen (advance_ignores hspares _) fun _ => result _

theorem write_ignores (data : Value) : (write index data).Ignores x := by
  unfold write
  apply andThen (check_ignores hspares)
  intro _
  apply andThen (tell_ignores hspares)
  intro cursor
  apply andThen (Storage.write_ignores _ _)
  intro count
  exact andThen (advance_ignores hspares _) fun _ => result _

theorem pread_ignores (length offset : Value) : (pread index length offset).Ignores x :=
  andThen (check_ignores hspares) fun _ => Storage.read_ignores _ _

theorem pwrite_ignores (data offset : Value) : (pwrite index data offset).Ignores x :=
  andThen (check_ignores hspares) fun _ => Storage.write_ignores _ _

theorem seek_ignores (offset whence : Value) : (seek index offset whence).Ignores x := by
  unfold seek
  apply andThen (check_ignores hspares)
  intro _
  apply andThen (tell_ignores hspares)
  intro cursor
  apply andThen (judge _)
  intro origin
  apply andThen (judge _)
  intro target
  apply andThen (judge _)
  intro cursor
  exact andThen (setCursor_ignores hspares _) fun _ => result _

theorem close_ignores : (close index).Ignores x := by
  unfold close
  refine device_bind (fun d => branch (result _) ?_) fun d => ?_
  · apply andThen (updateDevice fun d => hspares.setHandle_eq d _)
    intro _
    exact Op.Ignores.tell _
  · rw [hspares.handle_eq]

end Stream

theorem HandleOperation.perform_ignores {index : Nat} (hspares : x.Spares index)
    (op : HandleOperation) : (op.perform index).Ignores x := by
  open Op.Ignores in
  cases op with
  | read length => exact (Stream.read_ignores hspares _).giving _
  | write data => exact (Stream.write_ignores hspares _).giving _
  | pread length offset => exact (Stream.pread_ignores hspares _ _).giving _
  | pwrite data offset => exact (Stream.pwrite_ignores hspares _ _).giving _
  | seek offset whence => exact (Stream.seek_ignores hspares _ _).giving _
  | tell => exact (Stream.tell_ignores hspares).giving _
  | isClosed =>
    refine device_bind (fun d => result _) fun d => ?_
    rw [hspares.handle_eq]
  | close => exact (Stream.close_ignores hspares).giving _
  | useOnce =>
    apply andThen (Stream.tell_ignores hspares)
    intro cursor
    exact andThen (Stream.close_ignores hspares) fun _ => result _

/-! ## §5 Every operation -/

/-- The command that is dispatched, if the value given for it names one. -/
def Operation.command? : Operation → Option Command
  | .control command _ => (Command.ofValue command).toOption
  | .dispatch command _ => (Command.ofValue command).toOption
  | _ => none

/-- The change is about nothing that the operation has to do with. -/
structure Aside.Besides (x : Aside) (op : Operation) : Prop where
  handle : ∀ {index hop}, op = .handle index hop → x.Spares index
  openHandle : op = .openHandle → x.handles = id
  metrics : op = .metrics → x.metrics = id
  command : ∀ {cmd}, op.command? = some cmd → x.metrics = id
  backup : ∀ {path}, op.backupPath? = some path → x.files = id

theorem Device.check_ignores : Device.check.Ignores x := by
  open Op.Ignores in
  unfold check
  exact device_bind (fun d => branch (fail _) (result _)) fun d => rfl

theorem Device.close_ignores : Device.close.Ignores x :=
  Op.Ignores.update fun h => h.beside_closed x

/-- **Every operation** leaves aside what it has nothing to do with. -/
theorem Operation.perform_ignores {op : Operation} (hbesides : x.Besides op) :
    op.perform.Ignores x := by
  have hdispatch {command payload : Value}
      (hcommand : op.command? = (Command.ofValue command).toOption)
      (hbackup : op.backupPath? = Control.backupPath? command payload) :
      (Control.dispatch command payload).Ignores x := by
    apply Control.dispatch_ignores
    · intro cmd hname
      exact hbesides.command (by rw [hcommand, hname, Except.toOption])
    · intro path hpath
      exact hbesides.backup (hbackup.trans hpath)
  open Op.Ignores in
  cases op with
  | openHandle =>
    -- a new handle is put behind the others, so the handles must be as they were
    have hhandles := hbesides.openHandle rfl
    have hadded (d : Device) :
        ({ d.beside x with handles := (d.beside x).handles ++ [{}] } : Device) =
        ({ d with handles := d.handles ++ [{}] } : Device).beside x := by
      simp only [Device.beside, hhandles, id_eq]
    apply giving
    apply andThen Device.check_ignores
    intro _
    refine device_bind (fun d => ?_) fun d => ?_
    · apply andThen (updateDevice hadded)
      intro _
      exact andThen (tell _) fun _ => result _
    · simp only [Device.beside, hhandles, id_eq]
  | control command payload => exact andThen Device.check_ignores fun _ => hdispatch rfl rfl
  | dispatch command payload => exact hdispatch rfl rfl
  | close => exact Device.close_ignores.giving _
  | isClosed => exact device_bind (fun d => result _) fun d => rfl
  | keys => exact device_bind (fun d => result _) fun d => rfl
  | metrics =>
    refine device_bind (fun d => result _) fun d => ?_
    simp only [Device.beside, hbesides.metrics rfl, id_eq]
  | useOnce => exact andThen Device.close_ignores fun _ => result _
  | handle index op => exact op.perform_ignores (hbesides.handle rfl)
  | read offset length => exact (Storage.read_ignores _ _).giving _
  | write offset data => exact (Storage.write_ignores _ _).giving _
  | lock sector => exact (Storage.lock_ignores _).giving _
  | unlock sector key => exact (Storage.unlock_ignores _ _).giving _
  | protections => exact Storage.protections_ignores.giving _
  | erase sector => exact (Storage.erase_ignores _).giving _
  | capture sector => exact (Mirror.capture_ignores _).giving _
  | primarySnapshot => exact Storage.snapshot_ignores.giving _
  | store sector data => exact (Mirror.store_ignores _ _).giving _
  | mirrorSnapshot => exact Mirror.snapshot_ignores.giving _
  | backup path => exact (Mirror.backup_ignores (hbesides.backup rfl) _).giving _

/-! ## §6 Steps -/

theorem Host.withFiles_beside (hfiles : x.files = id) (h : Host)
    (change : Files → Except FileProblem Files) :
    (h.beside x).withFiles change = (h.withFiles change).beside x := by
  unfold withFiles
  rw [Mirror.files_beside hfiles]
  split
  · exact Mirror.withFiles_beside hfiles h _
  · rfl

/-- What happens on the waiting of an operation leaves aside what the operation does. -/
theorem Host.operate_beside {op : Operation} (hbesides : x.Besides op) (h : Host)
    (c : Circumstance) :
    (h.beside x).operate c op = ((h.operate c op).1, (h.operate c op).2.beside x) := by
  simp only [operate, Operation.perform_ignores hbesides c h, beside_settled]

/-- What others do has only to do with the locks and the files. -/
theorem Host.step_beside (hfiles : x.files = id) (h : Host) {step : Step}
    (hother : ∀ c op, step ≠ .operate c op) : (h.beside x).step step = (h.step step).beside x := by
  cases step with
  | operate c op => exact absurd rfl (hother c op)
  | hold b => exact h.beside_updateDevice x (f := (·.taken b)) fun d => d.beside_taken x b
  | letGo b => exact h.beside_updateDevice x (f := (·.letGo b)) fun d => d.beside_letGo x b
  | interrupt b =>
    exact h.beside_updateDevice x (f := (·.interrupted b)) fun d => d.beside_interrupted x b
  | writeFile path content => exact withFiles_beside hfiles h (·.save path content)
  | makeDirectory path => exact withFiles_beside hfiles h (·.makeDirectory path)

end SectorDisk
