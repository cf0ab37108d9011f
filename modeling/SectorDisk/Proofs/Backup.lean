import SectorDisk.Proofs.Outcome.Operation
import SectorDisk.Proofs.Sink

/-!
# Backups

A backup that succeeds, asked for directly or by a control command, leaves the whole mirror in the
file that its path leads to.
-/

namespace SectorDisk

/-! ## §1 Files -/

namespace Files

private theorem lookup_map_put (contents : List (Location × Bytes)) (place : Location)
    (content : Bytes) (hsome : (contents.lookup place).isSome = true) :
    (contents.map fun entry => if entry.1 = place then (place, content) else entry).lookup place =
      some content := by
  induction contents with
  | nil => cases hsome
  | cons entry rest ih =>
    rw [List.map_cons]
    by_cases hplace : entry.1 = place
    · rw [if_pos hplace, List.lookup_cons_self]
    · -- an entry of another place is kept and looked past
      rw [if_neg hplace]
      have hbeq : (place == entry.1) = false := beq_eq_false_iff_ne.mpr (Ne.symm hplace)
      rw [List.lookup_cons, hbeq] at hsome ⊢
      exact ih hsome

theorem content?_put (files : Files) (place : Location) (content : Bytes) :
    (files.put place content).content? place = some content := by
  unfold put content?
  by_cases hsome : (files.contents.lookup place).isSome = true
  · simp only [if_pos hsome]
    exact lookup_map_put _ place content hsome
  · simp only [if_neg hsome]
    rw [List.lookup_append, Option.not_isSome_iff_eq_none.mp hsome, List.lookup_cons_self]
    rfl

/-- The file that the path of a backup leads to. -/
def backupPlace? (files : Files) (path : Value) : Option Location :=
  match Mirror.backupPath path with
  | .ok p => (Mirror.target files p).toOption
  | .error _ => none

end Files

/-! ## §2 A backup -/

namespace Mirror

variable {c : Circumstance} {h : Host} {path : Value}

/-- A file that was just emptied is left with what it takes of the mirror. -/
theorem delivery_empty {sink : Sink} {place : Location} {counts : List Nat} {stop : Sink.Stop}
    (hempty : h.files.content? place = some []) (htakes : sink.Takes 0 diskSize counts stop) :
    delivery sink place h =
      ⟨h.device.mirror.toList.take counts.sum, counts.sum, stop.failure sink.syncFailure⟩ := by
  have hsize : h.device.mirror.toList.length = diskSize := Vector.length_toList
  rw [delivery, hempty, Option.getD_some]
  rw [← hsize] at htakes
  exact htakes.drain_empty

/-- What a file held before does not matter to how much it takes and how it fails. -/
theorem delivery_eq {sink : Sink} {counts : List Nat} {stop : Sink.Stop}
    (htakes : sink.Takes 0 diskSize counts stop) (place : Location) (h : Host) :
    (delivery sink place h).written = counts.sum ∧
      (delivery sink place h).failure = stop.failure sink.syncFailure := by
  have hsize : h.device.mirror.toList.length = diskSize := Vector.length_toList
  rw [← hsize] at htakes
  exact htakes.drain_eq _

theorem writeImage_ok {place : Location} {written : Nat}
    (hempty : h.files.content? place = some [])
    (hok : (writeImage path place c h).1 = .ok written) :
    (writeImage path place c h).2.files =
      h.files.put place (h.device.mirror.toList.take written) := by
  obtain ⟨counts, stop, htakes⟩ := c.sink.exists_takes 0 diskSize
  unfold writeImage at hok ⊢
  simp only [Op.circumstance_bind_run, Op.host_bind_run, Op.update_bind_run,
    delivery_empty hempty htakes] at hok ⊢
  cases hfailure : stop.failure c.sink.syncFailure with
  | none =>
    simp only [hfailure, Op.pure_run] at hok ⊢
    cases hok
    rfl
  | some cause =>
    -- a failure that was reported is no success
    obtain ⟨e, herror, -⟩ := failWriting_error c
      { h with files := h.files.put place (h.device.mirror.toList.take counts.sum) }
      path counts.sum cause
    simp only [hfailure] at hok
    cases herror.symm.trans hok

/-- The section in which the file is written takes its bytes from the mirror as it is. -/
theorem writeSection_ok {place : Location} {written : Nat}
    (hempty : h.files.content? place = some [])
    (hok : (Op.exclusively .mirror "backup_to_file" (writeImage path place) c h).1 = .ok written) :
    (Op.exclusively .mirror "backup_to_file" (writeImage path place) c h).2.files =
      h.files.put place (h.device.mirror.toList.take written) := by
  rcases Op.exclusively_cases .mirror "backup_to_file" (writeImage path place) c h with
    ⟨e, h', hrun, -⟩ | ⟨k, held, hadmitted, hrun⟩
  · rw [hrun] at hok
    cases hok
  · have hmirror : held.device.mirror = h.device.mirror :=
      congrArg Store.mirror hadmitted.store
    have hopened : held.files.content? place = some [] := by
      rw [hadmitted.files]
      exact hempty
    rw [hrun] at hok ⊢
    rw [Op.release_files, writeImage_ok hopened hok, hadmitted.files, hmirror]

theorem openFile_ok {place : Location} (hok : (openFile path c h).1 = .ok place) :
    target h.files path = .ok place ∧
      (openFile path c h).2.device = h.device ∧
      (openFile path c h).2.files.content? place = some [] := by
  rcases openFile_cases c h path with ⟨e, -, hrun⟩ | ⟨found, hfound, hrun⟩
  · rw [hrun] at hok
    cases hok
  · rw [hrun] at hok ⊢
    cases hok
    exact ⟨hfound, rfl, Files.content?_put _ _ _⟩

/-- **A successful backup** leaves the mirror in the file that its path leads to. -/
theorem backup_ok (hok : (backup path c h).1 = .ok ()) :
    ∃ place, h.files.backupPlace? path = some place ∧
      (backup path c h).2.files.content? place = some h.device.mirror.toList := by
  unfold backup at hok ⊢
  -- the path is judged, the file opened and the image written, each with success
  obtain ⟨p, hpath, hopen⟩ := Op.exists_of_judge_ok hok
  rw [hopen] at hok ⊢
  obtain ⟨place, hplace, hwrite⟩ := Op.exists_of_bind_ok hok
  rw [hwrite] at hok ⊢
  obtain ⟨written, hwritten, hend⟩ := Op.exists_of_bind_ok hok
  rw [hend] at hok ⊢
  obtain ⟨hlocated, hdevice, hempty⟩ := openFile_ok hplace
  refine ⟨place, by simp only [Files.backupPlace?, hpath, hlocated, Except.toOption], ?_⟩
  -- a file that took less than the whole image is a failure
  by_cases hall : written = diskSize
  · rw [if_pos hall, Op.tell_run, Host.tell_files, writeSection_ok hempty hwritten,
      Files.content?_put, hdevice, hall]
    exact congrArg some (List.take_of_length_le (Nat.le_of_eq Vector.length_toList))
  · rw [if_neg hall, Op.tell_bind_run] at hok
    cases hok

end Mirror

/-! ## §3 Operations that make a backup -/

/-- The path of a backup that a command of any name or code makes. -/
def Control.backupPath? (command payload : Value) : Option Value :=
  match Command.ofValue command, Packet.Path.decode payload with
  | .ok .backupToFile, .ok path => some (.string path)
  | _, _ => none

/-- The path of a backup, asked for directly or by a command. -/
def Operation.backupPath? : Operation → Option Value
  | .backup path => some path
  | .control command payload => Control.backupPath? command payload
  | .dispatch command payload => Control.backupPath? command payload
  | _ => none

variable {c : Circumstance} {h : Host} {path result : Value}

/-- A backup only touches files. -/
theorem Operation.deeds_backup {op : Operation} (hpath : op.backupPath? = some path) (d : Device)
    (result : Value) : op.deeds d result = [] := by
  have hcommand {command payload : Value}
      (hbackup : Control.backupPath? command payload = some path) :
      Deed.ofCommand d command payload = [] := by
    unfold Control.backupPath? at hbackup
    split at hbackup
    · rename_i hname _
      simp only [Deed.ofCommand, hname, Command.deeds]
    · cases hbackup
  cases op with
  | backup path' => rfl
  | control command payload => exact hcommand hpath
  | dispatch command payload => exact hcommand hpath
  | _ => cases hpath

/-- Counting and timing the command does not come between the backup and its file. -/
theorem Control.dispatch_backup {command payload : Value}
    (hpath : backupPath? command payload = some path)
    (hok : (dispatch command payload c h).1 = .ok result) :
    ∃ place, h.files.backupPlace? path = some place ∧
      (dispatch command payload c h).2.files.content? place = some h.device.mirror.toList := by
  unfold backupPath? at hpath
  split at hpath
  · rename_i path' hcommand hdecode
    cases hpath
    unfold dispatch at hok ⊢
    simp only [hcommand, counted, carryOut, hdecode, Op.lift_ok_bind_run] at hok ⊢
    -- counting the command changes neither the mirror nor the files
    cases hbackup : (Mirror.backup (.string path') c (record (·.started .backupToFile) h)).1 with
    | error e =>
      rw [Op.bind_of_error hbackup] at hok
      cases hok
    | ok _ =>
      rw [Op.bind_of_ok hbackup]
      exact Mirror.backup_ok hbackup
  · cases hpath

/-- **Every successful backup**, however it was asked for, leaves the mirror in its file. -/
theorem Operation.perform_backup {op : Operation} (hpath : op.backupPath? = some path)
    (hok : (op.perform c h).1 = .ok result) :
    ∃ place, h.files.backupPlace? path = some place ∧
      (op.perform c h).2.files.content? place = some h.device.mirror.toList := by
  cases op with
  | backup path' =>
    cases hpath
    obtain ⟨_, hbackup, -⟩ := Op.exists_of_giving_ok hok
    simp only [perform, Op.giving_run]
    exact Mirror.backup_ok hbackup
  | dispatch command payload => exact Control.dispatch_backup hpath hok
  | control command payload =>
    -- a device that was closed has refused the command
    obtain ⟨_, -, hrest⟩ := Op.exists_of_bind_ok hok
    have hsame : (Device.check c h).2 = h := by rw [Device.check_run]
    simp only [perform, Device.control] at hok ⊢
    rw [hrest, hsame] at hok ⊢
    exact Control.dispatch_backup hpath hok
  | _ => cases hpath

end SectorDisk
