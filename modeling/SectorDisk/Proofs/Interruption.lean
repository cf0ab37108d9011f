import SectorDisk.Proofs.Indifference.Operation
import SectorDisk.Proofs.Requests.Order

/-!
# Interruptions and files

An operation that is interrupted while it waits has not entered the section that it waited for.  No
operation but a backup has to do with files at all.  A backup opens its file before it asks for the
lock of the mirror, and opening a file empties it: an interrupted backup has made its file, or has
lost what the file held.
-/

namespace SectorDisk

variable {c : Circumstance} {h : Host} {path : Value} {e : Failure}

/-! ## §1 Files that were opened -/

namespace Files

private theorem lookup_map_other (contents : List (Location × Bytes)) {place other : Location}
    (content : Bytes) (hother : other ≠ place) :
    (contents.map fun entry => if entry.1 = place then (place, content) else entry).lookup other =
      contents.lookup other := by
  induction contents with
  | nil => rfl
  | cons entry rest ih =>
    rw [List.map_cons, List.lookup_cons]
    by_cases hsame : entry.1 = place
    · have hplace : (other == place) = false := beq_eq_false_iff_ne.mpr hother
      rw [if_pos hsame, List.lookup_cons, hsame, hplace, ih]
    · rw [if_neg hsame, List.lookup_cons, ih]

theorem content?_put_of_ne (files : Files) {place other : Location} (content : Bytes)
    (hother : other ≠ place) : (files.put place content).content? other = files.content? other := by
  have hplace : (other == place) = false := beq_eq_false_iff_ne.mpr hother
  unfold put content?
  split
  · exact lookup_map_other files.contents content hother
  · rw [List.lookup_append, List.lookup_cons, hplace]
    exact Option.or_none

/-- Opening a file changes none only where it was there and empty. -/
theorem content?_opened_iff (files : Files) (place : Location) :
    (∀ other, (files.put place []).content? other = files.content? other) ↔
      files.content? place = some [] := by
  constructor
  · intro hsame
    rw [← hsame place, content?_put]
  · intro hempty other
    by_cases hother : other = place
    · subst hother
      rw [content?_put, hempty]
    · exact content?_put_of_ne files [] hother

end Files

/-! ## §2 Backups -/

namespace Mirror

theorem backupPath_uninterrupted (hfail : backupPath path = .error e) : e.kind ≠ .interrupted := by
  have hplain {plain : Value} (hplain : (if plain.isTrue then .ok plain else .error .emptyPath :
      Except Failure Value) = .error e) : e.kind ≠ .interrupted := by
    split at hplain
    · cases hplain
    · cases hplain
      exact Kind.noConfusion
  -- a path is refused where it is empty or no path at all, and both are misuse
  cases path with
  | path s | string s => exact hplain hfail
  | torn t => cases hfail
  | bytes kind data =>
    cases kind with
    | fixed => exact hplain hfail
    | _ =>
      cases hfail
      exact Kind.noConfusion
  | _ =>
    cases hfail
    exact Kind.noConfusion

theorem openFile_uninterrupted {plain : Value} (hfail : (openFile plain c h).1 = .error e) :
    e.kind ≠ .interrupted := by
  rcases openFile_cases c h plain with ⟨e', htarget, hrun⟩ | ⟨place, -, hrun⟩
  · rw [hrun] at hfail
    cases hfail
    rcases target_kind htarget with hkind | hkind | hkind <;> rw [hkind] <;> exact Kind.noConfusion
  · rw [hrun] at hfail
    cases hfail

theorem writeImage_uninterrupted {plain : Value} {place : Location}
    (hfail : (writeImage plain place c h).1 = .error e) : e.kind ≠ .interrupted := by
  unfold writeImage at hfail
  simp only [Op.circumstance_bind_run, Op.host_bind_run, Op.update_bind_run] at hfail
  cases hcause : (delivery c.sink place h).failure with
  | none =>
    rw [hcause] at hfail
    cases hfail
  | some cause =>
    rw [hcause] at hfail
    obtain ⟨e', herror, hreason⟩ := failWriting_error c
      { h with files := h.files.put place (delivery c.sink place h).content }
      plain (delivery c.sink place h).written cause
    cases herror.symm.trans hfail
    rcases hreason with rfl | hflaw
    · exact Kind.noConfusion
    · rcases cause.flaw?_kind hflaw with hkind | hkind <;> rw [hkind] <;> exact Kind.noConfusion

/-- No failure of writing is an interruption, so an interrupted section was not entered. -/
theorem writeSection_interrupted {plain : Value} {place : Location}
    (hfail : (Op.exclusively .mirror "backup_to_file" (writeImage plain place) c h).1 = .error e)
    (hinterrupted : e.kind = .interrupted) :
    (Op.exclusively .mirror "backup_to_file" (writeImage plain place) c h).2.files = h.files := by
  rcases Op.exclusively_cases .mirror "backup_to_file" (writeImage plain place) c h with
    ⟨e', h', hrun, hgave⟩ | ⟨k, held, hadmitted, hrun⟩
  · rw [hrun]
    exact hgave.files
  · rw [hrun] at hfail
    exact absurd hinterrupted (writeImage_uninterrupted hfail)

/-- An interrupted backup has opened its file and done nothing else to the files. -/
theorem backup_interrupted (hfail : (backup path c h).1 = .error e)
    (hinterrupted : e.kind = .interrupted) :
    ∃ place, h.files.backupPlace? path = some place ∧
      (backup path c h).2.files = h.files.put place [] := by
  unfold backup at hfail ⊢
  cases hpath : backupPath path with
  | error e' =>
    rw [hpath] at hfail
    cases hfail
    exact absurd hinterrupted (backupPath_uninterrupted hpath)
  | ok plain =>
    rw [hpath] at hfail
    rw [Op.lift_ok_bind_run] at hfail ⊢
    rcases openFile_cases c h plain with ⟨e', -, hopen⟩ | ⟨place, hplace, hopen⟩
    · have herror := congrArg Prod.fst hopen
      rw [Op.bind_of_error herror] at hfail
      cases hfail
      exact absurd hinterrupted (openFile_uninterrupted herror)
    · refine ⟨place, by simp only [Files.backupPlace?, hpath, hplace, Except.toOption], ?_⟩
      rw [Op.bind_of_ok (congrArg Prod.fst hopen), hopen] at hfail ⊢
      cases hsection : (Op.exclusively .mirror "backup_to_file" (writeImage plain place) c
          { h with files := h.files.put place [] }).1 with
      | error e' =>
        rw [Op.bind_of_error hsection] at hfail ⊢
        cases hfail
        exact writeSection_interrupted hsection hinterrupted
      | ok written =>
        -- a file that took less than the whole image is no interruption
        rw [Op.bind_of_ok hsection] at hfail
        split at hfail
        · cases hfail
        · cases hfail
          cases hinterrupted

end Mirror

/-! ## §3 Every operation -/

theorem Control.recorded_files (cmd : Command) (latency : Float) (r : Except Failure Value)
    (h : Host) : (recorded cmd latency r h).files = h.files := by
  cases r <;> rfl

/-- Counting the command does not come between the backup and its interruption. -/
theorem Control.dispatch_interrupted {command payload : Value}
    (hpath : backupPath? command payload = some path)
    (hfail : (dispatch command payload c h).1 = .error e) (hinterrupted : e.kind = .interrupted) :
    ∃ place, h.files.backupPlace? path = some place ∧
      (dispatch command payload c h).2.files = h.files.put place [] := by
  unfold backupPath? at hpath
  split at hpath
  · rename_i text hcommand hdecode
    cases hpath
    have hcarry : carryOut .backupToFile payload =
        Mirror.backup (.string text) >>= fun _ => pure Value.none := by
      rw [carryOut, hdecode]
      rfl
    unfold dispatch at hfail ⊢
    simp only [hcommand, counted_eq, hcarry] at hfail ⊢
    cases hbackup : (Mirror.backup (.string text) c (record (·.started .backupToFile) h)).1 with
    | ok _ =>
      rw [Op.bind_of_ok hbackup] at hfail
      cases hfail
    | error e' =>
      rw [Op.bind_of_error hbackup] at hfail ⊢
      cases hfail
      obtain ⟨place, hplace, hfiles⟩ := Mirror.backup_interrupted hbackup hinterrupted
      refine ⟨place, hplace, ?_⟩
      rw [recorded_files, hfiles]
      rfl
  · cases hpath

namespace Operation

variable {op : Operation}

/-- Only backups have to do with files. -/
theorem perform_files (hnone : op.backupPath? = none) (c : Circumstance) (h : Host) :
    (op.perform c h).2.files = h.files := by
  -- setting the files makes no difference to what is no backup
  refine Op.Ignores.files_eq (fun f => perform_ignores ?_) c h
  refine ⟨fun _ => ⟨fun _ => rfl, fun _ _ => rfl⟩, fun _ => rfl, fun _ => rfl, fun _ => rfl,
    fun h => ?_⟩
  rw [hnone] at h
  cases h

theorem backup_interrupted (hpath : op.backupPath? = some path)
    (hfail : (op.perform c h).1 = .error e) (hinterrupted : e.kind = .interrupted) :
    ∃ place, h.files.backupPlace? path = some place ∧
      (op.perform c h).2.files = h.files.put place [] := by
  cases op with
  | backup path' =>
    cases hpath
    simp only [perform, Op.giving_run] at hfail ⊢
    cases hbackup : (Mirror.backup path c h).1 with
    | ok _ =>
      rw [hbackup] at hfail
      cases hfail
    | error e' =>
      rw [hbackup] at hfail
      cases hfail
      exact Mirror.backup_interrupted hbackup hinterrupted
  | dispatch command payload => exact Control.dispatch_interrupted hpath hfail hinterrupted
  | control command payload =>
    have hrun := Device.check_run c h
    simp only [perform, Device.control] at hfail ⊢
    split at hrun
    · -- a closed device refuses the command, which is no interruption
      rw [Op.bind_of_error (congrArg Prod.fst hrun)] at hfail
      cases hfail
      cases hinterrupted
    · rw [Op.bind_of_ok (congrArg Prod.fst hrun), hrun] at hfail ⊢
      exact Control.dispatch_interrupted hpath hfail hinterrupted
  | _ => cases hpath

/-- **What an interruption leaves of the files.**  An operation that is no backup leaves all of them
alone.  A backup, asked for directly or by a command, has opened its file and left it empty; that
changes nothing only where the file was there and empty before. -/
theorem interrupted_files (hfail : (op.perform c h).1 = .error e)
    (hinterrupted : e.kind = .interrupted) :
    (op.backupPath? = none → (h.operate c op).2.files = h.files) ∧
      ∀ path, op.backupPath? = some path →
        ∃ place, h.files.backupPlace? path = some place ∧
          (h.operate c op).2.files = h.files.put place [] ∧
          ((∀ other, (h.operate c op).2.files.content? other = h.files.content? other) ↔
            h.files.content? place = some []) := by
  have hsettled : (h.operate c op).2.files = (op.perform c h).2.files := Host.settled_files _ c.wake
  rw [hsettled]
  refine ⟨fun hnone => perform_files hnone c h, fun path hpath => ?_⟩
  obtain ⟨place, hplace, hfiles⟩ := backup_interrupted hpath hfail hinterrupted
  rw [hfiles]
  exact ⟨place, hplace, rfl, h.files.content?_opened_iff place⟩

/-- A host with a backup of three bytes and the mirror in other hands. -/
def keptHost : Host where
  device := busyHost.device
  files := ⟨[[]], [([[109]], [1, 2, 3])], []⟩

theorem keptHost_emptied :
    ((backup (.octets [109])).perform { cancelled := true } keptHost).1 =
        .error (.interrupted .cancelled "mirror lock" (some "backup_to_file")) ∧
      (keptHost.operate { cancelled := true } (.backup (.octets [109]))).2.files.content? [[109]] =
        some [] := by
  have hfail : ((backup (.octets [109])).perform { cancelled := true } keptHost).1 =
      .error (.interrupted .cancelled "mirror lock" (some "backup_to_file")) := rfl
  obtain ⟨-, hbackup⟩ := interrupted_files hfail rfl
  obtain ⟨place, hplace, hfiles, -⟩ := hbackup (.octets [109]) rfl
  have hknown : keptHost.files.backupPlace? (.octets [109]) = some [[109]] := rfl
  obtain rfl := Option.some.inj (hplace.symm.trans hknown)
  exact ⟨hfail, by rw [hfiles, Files.content?_put]⟩

/-- That an interrupted operation leaves all files alone is too much to say. -/
theorem not_interrupted_keeps_files :
    ¬ ∀ (c : Circumstance) (h : Host) (op : Operation) (e : Failure),
      (op.perform c h).1 = .error e → e.kind = .interrupted →
        ∀ place, (h.operate c op).2.files.content? place = h.files.content? place := by
  intro hkeeps
  have hfail : ((backup (.octets [109])).perform { cancelled := true } keptHost).1 =
      .error (.interrupted .cancelled "mirror lock" (some "backup_to_file")) := rfl
  have hemptied : (keptHost.operate { cancelled := true } (backup (.octets [109]))).2.files =
      keptHost.files.put [[109]] [] := rfl
  have hsame := hkeeps _ _ _ _ hfail rfl [[109]]
  rw [hemptied, Files.content?_put] at hsame
  cases hsame

end Operation

end SectorDisk
