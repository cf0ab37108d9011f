import SectorDisk.Proofs.Backup

/-!
# What a backup ends with

Where the path of a backup opens a file and the lock of the mirror is to be had, what the backup
ends with hangs on what the file takes (`Sink.Takes`) and on nothing else.
-/

namespace SectorDisk

namespace Mirror

variable {c : Circumstance} {h : Host} {path plain : Value} {place : Location}
  {counts : List Nat} {stop : Sink.Stop}

/-- The path of a backup is not empty, is `plain` as text or bytes, and opens the file at the
place. -/
structure Opens (files : Files) (path plain : Value) (place : Location) : Prop where
  path : backupPath path = .ok plain
  file : target files plain = .ok place

theorem Opens.openFile_run (hopens : Opens h.files path plain place) :
    openFile plain c h = (.ok place, { h with files := h.files.put place [] }) := by
  unfold openFile
  rw [Op.host_bind_run, hopens.file]
  rfl

/-- What comes of writing the image to a file that has taken `written` bytes. -/
def imageEnd (path : Value) (written : Nat) : Option Value → Except Failure Nat
  | some cause => .error (.writeFailed path cause)
  | none => .ok written

/-- What comes of a backup to a file that has taken `written` bytes. -/
def backupEnd (path : Value) (written : Nat) : Option Value → Except Failure Unit
  | some cause => .error (.writeFailed path cause)
  | none => if written = diskSize then .ok () else .error (.incomplete path written)

/-- Writing the image to a file that was just emptied depends on what the file takes and on nothing
else. -/
theorem writeImage_run (path : Value) {place : Location} {h : Host}
    (hempty : h.files.content? place = some []) (hgenuine : c.sink.Genuine)
    (htakes : c.sink.Takes 0 diskSize counts stop) :
    (writeImage path place c h).1 =
        imageEnd path counts.sum (stop.failure c.sink.syncFailure) ∧
      (writeImage path place c h).2.files =
        h.files.put place (h.device.mirror.toList.take counts.sum) ∧
      (writeImage path place c h).2.device = h.device := by
  unfold writeImage
  simp only [Op.circumstance_bind_run, Op.host_bind_run, Op.update_bind_run,
    delivery_empty hempty htakes]
  cases hfailure : stop.failure c.sink.syncFailure with
  | none => exact ⟨rfl, rfl, rfl⟩
  | some cause =>
    simp only [failWriting, hgenuine.failure htakes hfailure]
    exact ⟨rfl, rfl, rfl⟩

/-- The section in which the file is written, where the lock of the mirror is to be had. -/
theorem writeSection_run (path : Value) {place : Location}
    (hempty : h.files.content? place = some []) (hadmits : h.device.Admits .mirror c)
    (hgenuine : c.sink.Genuine) (htakes : c.sink.Takes 0 diskSize counts stop) :
    ∃ h', Op.exclusively .mirror "backup_to_file" (writeImage path place) c h =
        (imageEnd path counts.sum (stop.failure c.sink.syncFailure), h') ∧
      h'.files = h.files.put place (h.device.mirror.toList.take counts.sum) ∧
      h'.device.mirror = h.device.mirror ∧ (h'.device.lockOf .mirror).owner = none := by
  obtain ⟨k, held, hadmitted, hrun⟩ :
      ∃ k held, Op.Admitted .mirror c h held k ∧
        Op.exclusively .mirror "backup_to_file" (writeImage path place) c h =
          ((writeImage path place c held).1, Op.release .mirror (writeImage path place c held).2) :=
    Op.exclusively_of_admits hadmits
  have hopened : held.files.content? place = some [] := by
    rw [hadmitted.files]
    exact hempty
  obtain ⟨hend, hfiles, hdevice⟩ := writeImage_run path hopened hgenuine htakes
  -- whatever happened on waiting, it was not to the mirror
  have hmirror : held.device.mirror = h.device.mirror := congrArg Store.mirror hadmitted.store
  refine ⟨Op.release .mirror (writeImage path place c held).2, ?_, ?_, ?_, rfl⟩
  · rw [hrun, hend]
  · rw [Op.release_files, hfiles, hadmitted.files, hmirror]
  · rw [← hmirror, ← hdevice]
    rfl

/-- Where the file opens and the lock of the mirror is to be had, a backup goes through all its
steps. -/
theorem backup_run (hopens : Opens h.files path plain place)
    (hadmits : h.device.Admits .mirror c) (hgenuine : c.sink.Genuine)
    (htakes : c.sink.Takes 0 diskSize counts stop) :
    ∃ h', backup path c h =
        (backupEnd plain counts.sum (stop.failure c.sink.syncFailure), h') ∧
      h'.files.content? place = some (h.device.mirror.toList.take counts.sum) ∧
      h'.device.mirror = h.device.mirror ∧ (h'.device.lockOf .mirror).owner = none := by
  -- the file is emptied before the lock is asked for
  obtain ⟨h', hsection, hfiles, hmirror, hfree⟩ :=
    writeSection_run (h := { h with files := h.files.put place [] }) plain
      (Files.content?_put _ _ _) hadmits hgenuine htakes
  have hcontent : h'.files.content? place = some (h.device.mirror.toList.take counts.sum) := by
    rw [hfiles, Files.content?_put]
  have hopened := hopens.openFile_run (c := c)
  unfold backup
  rw [hopens.path, Op.lift_ok_bind_run, Op.bind_of_ok (congrArg Prod.fst hopened), hopened]
  cases hfailure : stop.failure c.sink.syncFailure with
  | some cause =>
    rw [hfailure] at hsection
    rw [Op.bind_of_error (congrArg Prod.fst hsection), hsection]
    exact ⟨h', rfl, hcontent, hmirror, hfree⟩
  | none =>
    rw [hfailure] at hsection
    rw [Op.bind_of_ok (congrArg Prod.fst hsection), hsection]
    -- the file is judged by what it has taken, and the operator is told
    by_cases hall : counts.sum = diskSize
    · rw [if_pos hall, backupEnd, if_pos hall]
      exact ⟨_, rfl, hcontent, hmirror, hfree⟩
    · rw [if_neg hall, backupEnd, if_neg hall]
      exact ⟨_, rfl, hcontent, hmirror, hfree⟩

theorem backupEnd_ok {n : Nat} {failure : Option Value} :
    backupEnd path n failure = .ok () ↔ failure = none ∧ n = diskSize := by
  unfold backupEnd
  cases failure with
  | some cause => simp only [reduceCtorEq, false_and]
  | none =>
    by_cases hall : n = diskSize
    · simp only [hall, if_true, and_self]
    · simp only [hall, if_false, reduceCtorEq, and_false]

theorem backupEnd_incomplete {n : Nat} {failure : Option Value} {e : Failure} :
    backupEnd path n failure = .error e ∧ e.kind = .incompleteWrite ↔
      failure = none ∧ n ≠ diskSize ∧ e = .incomplete path n := by
  constructor
  · rintro ⟨hend, hkind⟩
    unfold backupEnd at hend
    split at hend
    · cases hend
      cases hkind
    · split at hend
      · cases hend
      · rename_i hsome
        exact ⟨rfl, hsome, (Except.error.inj hend).symm⟩
  · rintro ⟨rfl, hsome, rfl⟩
    exact ⟨by rw [backupEnd, if_neg hsome], rfl⟩

theorem backupEnd_storageIO {n : Nat} {failure : Option Value} :
    (∃ e, backupEnd path n failure = .error e ∧ e.kind = .storageIO) ↔ failure ≠ none := by
  cases failure with
  | some cause => exact iff_of_true ⟨_, rfl, rfl⟩ (Option.some_ne_none cause)
  | none =>
    refine iff_of_false ?_ fun h => h rfl
    rintro ⟨e, hend, hkind⟩
    -- a file that took too little fails in a way of its own
    simp only [backupEnd] at hend
    split at hend
    · cases hend
    · cases hend
      cases hkind

/-- **What a backup ends with.**  Whatever the file does that its path opens, and whatever it held,
it comes to a stop; then it holds what it took of the mirror, which is as before, and the lock of
the mirror is free.  The backup succeeds if the file took everything and nothing failed; it is
incomplete, and says by how much, if the file refused bytes and nothing failed; and it fails as a
file does if the file broke or did not reach the disk, whatever it took. -/
theorem backup_of_takes (hopens : Opens h.files path plain place)
    (hadmits : h.device.Admits .mirror c) (hgenuine : c.sink.Genuine) :
    (∃ counts stop, c.sink.Takes 0 diskSize counts stop) ∧
      ∀ counts stop, c.sink.Takes 0 diskSize counts stop →
        counts.length ≤ diskSize ∧
        (backup path c h).2.files.content? place =
          some (h.device.mirror.toList.take counts.sum) ∧
        (backup path c h).2.device.mirror = h.device.mirror ∧
        ((backup path c h).2.device.lockOf .mirror).owner = none ∧
        ((backup path c h).1 = .ok () ↔
          counts.sum = diskSize ∧ (∀ cause, stop ≠ .broken cause) ∧
            c.sink.syncFailure = none) ∧
        ((∃ e, (backup path c h).1 = .error e ∧ e.kind = .incompleteWrite) ↔
          stop = .refused ∧ c.sink.syncFailure = none) ∧
        (∀ e, (backup path c h).1 = .error e → e.kind = .incompleteWrite →
          counts.sum < diskSize ∧
            e.report.context =
              [("path", plain), ("written", .int counts.sum), ("expected", .int diskSize)]) ∧
        ((∃ e, (backup path c h).1 = .error e ∧ e.kind = .storageIO) ↔
          (∃ cause, stop = .broken cause) ∨ c.sink.syncFailure ≠ none) := by
  refine ⟨c.sink.exists_takes 0 diskSize, ?_⟩
  intro counts stop htakes
  obtain ⟨h', hrun, hcontent, hmirror, hfree⟩ := backup_run hopens hadmits hgenuine htakes
  rw [hrun]
  refine ⟨Nat.le_trans htakes.length_le_sum htakes.sum_le, hcontent, hmirror, hfree, ?ok,
    ?incomplete, ?report, ?storageIO⟩
  case ok => rw [backupEnd_ok, Sink.Stop.failure_eq_none, and_comm]
  case incomplete =>
    simp only [backupEnd_incomplete, htakes.refused_iff, exists_and_left, exists_eq, and_true]
  case report =>
    intro e hend hkind
    obtain ⟨-, hsome, rfl⟩ := backupEnd_incomplete.mp ⟨hend, hkind⟩
    exact ⟨Nat.lt_of_le_of_ne htakes.sum_le hsome, rfl⟩
  case storageIO =>
    rw [backupEnd_storageIO, ne_eq, Sink.Stop.failure_eq_none]
    simp only [Classical.not_and_iff_not_or_not, Classical.not_forall, ne_eq, Classical.not_not]

/-- A mirror of ones in the hands of another thread, and a long file where a backup goes. -/
def agedHost : Host where
  device :=
    { keys := Keyring.standard
      mirror := Vector.replicate 4096 1
      mirrorLock := { owner := some .rival } }
  files :=
    Files.empty.put [Files.temporary, Text.Utf8.encode "work", Text.Utf8.encode "disk"]
      (List.replicate 5000 120)

/-- What the host reports on a disk that is broken. -/
def brokenDisk : Value := .error "OSError" [.int 5, .string "Input/output error"]

/-- The mirror is let go on waiting, and the file takes some bytes in three offers before it refuses
the others. -/
def stubborn : Circumstance where
  wake := some .release
  sink := .obeying [700, 1, 900] .refused (some brokenDisk)

/-- A file that refuses bytes and then does not reach the disk fails as a file does, and holds what
it took. -/
theorem unsynced_backup :
    ∃ place e, Opens agedHost.files (.string "disk") (.string "disk") place ∧
      (backup (.string "disk") stubborn agedHost).1 = .error e ∧ e.kind = .storageIO ∧
      (backup (.string "disk") stubborn agedHost).2.files.content? place =
        some (agedHost.device.mirror.toList.take 1601) := by
  have hopens : Opens agedHost.files (.string "disk") (.string "disk")
      [Files.temporary, Text.Utf8.encode "work", Text.Utf8.encode "disk"] := ⟨rfl, rfl⟩
  have hgenuine : stubborn.sink.Genuine := by
    apply Sink.genuine_obeying
    · intro cause hcause
      cases hcause
    · intro cause hcause
      cases hcause
      rfl
  have htakes : stubborn.sink.Takes 0 diskSize [700, 1, 900] .refused :=
    Sink.takes_obeying (by decide) (by decide) (iff_of_false Sink.Stop.noConfusion (by decide)) _
  obtain ⟨-, hbackup⟩ := backup_of_takes hopens (Or.inr ⟨rfl, rfl, rfl⟩) hgenuine
  obtain ⟨-, hcontent, -, -, -, -, -, hfails⟩ := hbackup _ _ htakes
  obtain ⟨e, hend, hkind⟩ := hfails.mpr (Or.inr (Option.some_ne_none brokenDisk))
  exact ⟨_, e, hopens, hend, hkind, hcontent⟩

end Mirror

end SectorDisk
