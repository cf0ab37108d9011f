import SectorDisk.Proofs.BackupOutcome
import SectorDisk.Proofs.History
import SectorDisk.Proofs.Text.Utf8

/-!
# Paths of backups

A path that is given as a text of characters opens a file, or it does not, and then there is one
reason: it is empty, it has a NUL, or the tree of files has no place for it.  Such a backup fails at
once and leaves everything as it was.  An empty path is refused as an argument, and a problem with
the tree is one of the file.  A NUL is neither: it comes to the caller as an error of another kind,
which is none of those that a backup documents.  So does a text that no bytes stand for.
-/

namespace SectorDisk

variable {c : Circumstance} {h : Host} {files : Files} {p : String} {e : Failure}

/-- The text has a NUL character. -/
def Text.HasNul (p : String) : Prop :=
  ∃ x ∈ p.toList, x.toNat = 0

theorem Text.HasNul.ne_empty (hnul : Text.HasNul p) : p ≠ "" := by
  rintro rfl
  obtain ⟨x, hx, -⟩ := hnul
  rw [String.toList_empty] at hx
  cases hx

/-- The kinds of failure that a backup documents. -/
def Kind.ofBackup : List Kind :=
  [invalidArgument, storageIO, incompleteWrite]

namespace Mirror

/-! ## §1 Paths that open no file -/

/-- Why a text opens no file. -/
inductive Shut (files : Files) (p : String) : Failure → Prop
  | empty (hempty : p = "") : Shut files p .emptyPath
  | nul (hnul : Text.HasNul p) : Shut files p .pathNul
  | problem {problem : FileProblem} (hsome : p ≠ "") (hplain : ¬ Text.HasNul p)
    (hlocate : files.locate (Text.Utf8.encode p) = .error problem) :
    Shut files p (.openFailed (.string p) (problem.toValue (.string p)))

theorem backupPath_of_ne (hsome : p ≠ "") : backupPath (.string p) = .ok (.string p) := by
  have htrue : (Value.string p).isTrue = true := by
    rw [Value.isTrue, bne_iff_ne, ne_eq, String.toList_eq_nil_iff]
    exact hsome
  exact if_pos htrue

theorem contains_zero_iff : (Text.Utf8.encode p).contains 0 = true ↔ Text.HasNul p := by
  rw [List.contains_eq_mem, decide_eq_true_eq, Text.Utf8.zero_mem_encode]
  rfl

theorem target_of_nul (files : Files) (hnul : Text.HasNul p) :
    target files (.string p) = .error .pathNul := by
  have hoctets : pathOctets (.string p) = .ok (Text.Utf8.encode p) := rfl
  rw [target, hoctets]
  exact if_pos (contains_zero_iff.mpr hnul)

theorem target_of_plain (files : Files) (hplain : ¬ Text.HasNul p) :
    target files (.string p) = (files.locate (Text.Utf8.encode p)).mapError fun problem =>
      .openFailed (.string p) (problem.toValue (.string p)) := by
  have hoctets : pathOctets (.string p) = .ok (Text.Utf8.encode p) := rfl
  rw [target, hoctets]
  refine (if_neg (mt contains_zero_iff.mp hplain)).trans ?_
  cases files.locate (Text.Utf8.encode p) <;> rfl

/-- A text opens a file, unless there is a reason why it does not. -/
theorem shut_or_opens (files : Files) (p : String) :
    (∃ e, Shut files p e) ∨ ∃ place, Opens files (.string p) (.string p) place := by
  by_cases hempty : p = ""
  · exact .inl ⟨_, .empty hempty⟩
  by_cases hnul : Text.HasNul p
  · exact .inl ⟨_, .nul hnul⟩
  cases hlocate : files.locate (Text.Utf8.encode p) with
  | error problem => exact .inl ⟨_, .problem hempty hnul hlocate⟩
  | ok place =>
    refine .inr ⟨place, backupPath_of_ne hempty, ?_⟩
    rw [target_of_plain files hnul, hlocate]
    rfl

/-- A path that is one and opens no file fails for that, and nothing at all has happened. -/
theorem backup_of_shut {path plain : Value} (hpath : backupPath path = .ok plain)
    (htarget : target h.files plain = .error e) : backup path c h = (.error e, h) := by
  have hopen : openFile plain c h = (.error e, h) := by
    unfold openFile
    rw [Op.host_bind_run, htarget]
    rfl
  unfold backup
  rw [hpath, Op.lift_ok_bind_run, Op.bind_of_error (congrArg Prod.fst hopen), hopen]

/-- A backup to such a text fails for that reason, and nothing at all has happened. -/
theorem Shut.backup_run (hshut : Shut h.files p e) : backup (.string p) c h = (.error e, h) := by
  cases hshut with
  | empty hempty =>
    subst hempty
    rfl
  | nul hnul => exact backup_of_shut (backupPath_of_ne hnul.ne_empty) (target_of_nul _ hnul)
  | problem hsome hplain hlocate =>
    apply backup_of_shut (backupPath_of_ne hsome)
    rw [target_of_plain _ hplain, hlocate]
    rfl

/-- A torn text of which no bytes can be made fails in a way of its own as well. -/
theorem backup_to_torn {t : Text.Torn} {stretch : Text.Utf8.Unwritable}
    (hescaped : t.escaped = .error stretch) :
    backup (.torn t) c h = (.error (.unwritable stretch), h) := by
  have hpath : backupPath (.torn t) = .ok (.torn t) := rfl
  apply backup_of_shut hpath
  have hoctets : pathOctets (.torn t) = .error (.unwritable stretch) := by
    rw [pathOctets, hescaped]
    rfl
  rw [target, hoctets]
  rfl

theorem Shut.not_opens {place : Location} (hshut : Shut files p e) :
    ¬ Opens files (.string p) (.string p) place := by
  intro hopens
  cases hshut with
  | empty hempty =>
    subst hempty
    cases hopens.path
  | nul hnul => cases (target_of_nul files hnul).symm.trans hopens.file
  | problem hsome hplain hlocate =>
    have hfile := hopens.file
    rw [target_of_plain files hplain, hlocate] at hfile
    cases hfile

/-- Only an empty text is refused as an argument. -/
theorem Shut.invalidArgument_iff (hshut : Shut files p e) :
    e.kind = .invalidArgument ↔ p = "" := by
  cases hshut with
  | empty hempty => exact iff_of_true rfl hempty
  | nul hnul => exact iff_of_false (fun hkind => by cases hkind) hnul.ne_empty
  | problem hsome => exact iff_of_false (fun hkind => by cases hkind) hsome

/-- Only a NUL comes to the caller in a way that is not documented. -/
theorem Shut.ofBackup_iff (hshut : Shut files p e) :
    e.kind ∈ Kind.ofBackup ↔ ¬ Text.HasNul p := by
  cases hshut with
  | empty hempty =>
    exact iff_of_true (show Kind.invalidArgument ∈ Kind.ofBackup by decide) fun hnul =>
      hnul.ne_empty hempty
  | nul hnul =>
    exact iff_of_false (show Kind.wrongValue ∉ Kind.ofBackup by decide) fun hplain => hplain hnul
  | problem hsome hplain =>
    exact iff_of_true (show Kind.storageIO ∈ Kind.ofBackup by decide) hplain

theorem Shut.eq_pathNul_iff (hshut : Shut files p e) : e = .pathNul ↔ Text.HasNul p := by
  cases hshut with
  | empty hempty => exact iff_of_false (fun he => by cases he) fun hnul => hnul.ne_empty hempty
  | nul hnul => exact iff_of_true rfl hnul
  | problem hsome hplain => exact iff_of_false (fun he => by cases he) hplain

/-! ## §2 Backups to paths -/

theorem backupEnd_kind {path : Value} {n : Nat} {failure : Option Value}
    (hend : backupEnd path n failure = .error e) :
    e.kind = .storageIO ∨ e.kind = .incompleteWrite := by
  unfold backupEnd at hend
  split at hend
  · cases hend
    exact .inl rfl
  · split at hend
    · cases hend
    · cases hend
      exact .inr rfl

/-- A backup to a text that opens a file fails, if it does, for the sake of the file. -/
theorem Opens.backup_error {place : Location}
    (hopens : Opens h.files (.string p) (.string p) place)
    (hadmits : h.device.Admits .mirror c) (hgenuine : c.sink.Genuine)
    (hfail : (backup (.string p) c h).1 = .error e) :
    e.kind = .storageIO ∨ e.kind = .incompleteWrite := by
  obtain ⟨counts, stop, htakes⟩ := c.sink.exists_takes 0 diskSize
  obtain ⟨h', hrun, -⟩ := Mirror.backup_run hopens hadmits hgenuine htakes
  rw [hrun] at hfail
  exact backupEnd_kind hfail

theorem backup_error_iff :
    ((Operation.backup (.string p)).perform c h).1 = .error e ↔
      (backup (.string p) c h).1 = .error e := by
  rw [Operation.perform, Op.giving_run]
  cases (backup (.string p) c h).1 with
  | ok _ => exact iff_of_false (fun hfail => by cases hfail) fun hfail => by cases hfail
  | error e' => exact ⟨fun hfail => by cases hfail; rfl, fun hfail => by cases hfail; rfl⟩

/-- **What becomes of the path of a backup**, where it is a text of characters and so has bytes in
UTF-8 (`backup_to_torn` is about other texts).  A text that opens no file is refused for the one
reason there is, and nothing at all has happened: no file has changed and no lock was asked for.
Where the lock of the mirror is to be had and files fail as files do, a backup fails with its
argument just if the text is empty, and in one of the ways that it documents, unless there is a NUL
in the text: then it fails for that, in a way of its own. -/
theorem backup_to_text (p : String) (hadmits : h.device.Admits .mirror c)
    (hgenuine : c.sink.Genuine) :
    ((∀ place, ¬ Opens h.files (.string p) (.string p) place) →
        ∃ e, Shut h.files p e ∧
          (Operation.backup (.string p)).perform c h = (.error e, h)) ∧
      ((∃ e, ((Operation.backup (.string p)).perform c h).1 = .error e ∧
          e.kind = .invalidArgument) ↔ p = "") ∧
      (((Operation.backup (.string p)).perform c h).1 = .error .pathNul ↔ Text.HasNul p) ∧
      ∀ e, ((Operation.backup (.string p)).perform c h).1 = .error e →
        (e.kind ∈ Kind.ofBackup ↔ ¬ Text.HasNul p) := by
  rcases shut_or_opens h.files p with ⟨e, hshut⟩ | ⟨place, hopens⟩
  · -- the backup ends with the reason, whose kind answers every question
    have hrun : (Operation.backup (.string p)).perform c h = (.error e, h) := by
      rw [Operation.perform, Op.giving_run, hshut.backup_run]
      rfl
    rw [hrun]
    refine ⟨fun _ => ⟨e, hshut, rfl⟩, ?argument, ?nul, ?documented⟩
    case argument =>
      simp only [Except.error.injEq, exists_eq_left', hshut.invalidArgument_iff]
    case nul => rw [Except.error.injEq, hshut.eq_pathNul_iff]
    case documented =>
      intro e' hfail
      cases hfail
      exact hshut.ofBackup_iff
  · have hsome : p ≠ "" := fun hempty => (Shut.empty hempty).not_opens hopens
    have hplain : ¬ Text.HasNul p := fun hnul => (Shut.nul hnul).not_opens hopens
    have hfile {e : Failure}
        (hfail : ((Operation.backup (.string p)).perform c h).1 = .error e) :
        e.kind = .storageIO ∨ e.kind = .incompleteWrite :=
      hopens.backup_error hadmits hgenuine (backup_error_iff.mp hfail)
    refine ⟨fun hnone => absurd hopens (hnone place), iff_of_false ?argument hsome,
      iff_of_false ?nul hplain, ?documented⟩
    case argument =>
      rintro ⟨e, hfail, hkind⟩
      rcases hfile hfail with hother | hother <;> cases hkind.symm.trans hother
    case nul =>
      intro hfail
      rcases hfile hfail with hother | hother <;> cases hother
    case documented =>
      intro e hfail
      refine iff_of_true ?_ hplain
      rcases hfile hfail with hkind | hkind <;> rw [hkind] <;> decide

/-- There is no file in a directory that does not exist, and nothing in the host has changed. -/
theorem backup_to_missing :
    ∃ e, (Operation.backup (.string "missing/disk")).perform {} .fresh = (.error e, .fresh) ∧
      e.kind ∈ Kind.ofBackup ∧ e.kind ≠ .invalidArgument := by
  have hsome : "missing/disk" ≠ "" := by decide
  have hplain : ¬ Text.HasNul "missing/disk" := by simp [Text.HasNul]
  have hlocate : Host.fresh.files.locate (Text.Utf8.encode "missing/disk") = .error .missing := rfl
  have hshut := Shut.problem hsome hplain hlocate
  obtain ⟨hclosed, hargument, -, hdocumented⟩ :=
    backup_to_text (c := {}) (h := .fresh) "missing/disk" (Or.inl rfl) Sink.genuine_ample
  obtain ⟨e, -, hrun⟩ := hclosed fun place => hshut.not_opens
  have hfail : ((Operation.backup (.string "missing/disk")).perform {} .fresh).1 = .error e := by
    rw [hrun]
  exact ⟨e, hrun, (hdocumented e hfail).mpr hplain, fun hkind =>
    hsome (hargument.mp ⟨e, hfail, hkind⟩)⟩

/-- That backups fail only in the ways that they document is too much to say. -/
theorem not_backup_ofBackup :
    ¬ ∀ (p : String) (e : Failure),
      ((Operation.backup (.string p)).perform {} .fresh).1 = .error e →
        e.kind ∈ Kind.ofBackup := by
  intro hdocumented
  have hnul : Text.HasNul "a\x00b" := by simp [Text.HasNul]
  have hshut : Shut Host.fresh.files "a\x00b" .pathNul := .nul hnul
  have hfail : (backup (.string "a\x00b") {} .fresh).1 = .error .pathNul := by
    rw [hshut.backup_run]
  exact absurd (hdocumented _ _ (backup_error_iff.mpr hfail)) (by decide)

end Mirror

end SectorDisk
