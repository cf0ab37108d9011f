import SectorDisk.Proofs.BackupOutcome
import SectorDisk.Proofs.Erasing

/-!
# When operations succeed

Where nothing is to happen while an operation waits, waiting is in vain: an operation succeeds just
if the locks that it asks for are free and its own conditions hold.  The lemmas here say this of
every operation on the buffers, with its conditions in terms of the host that it finds.
-/

namespace SectorDisk

variable {α β : Type} {c : Circumstance} {h : Host} {b : Buffer} {s : Sector}

theorem Device.admits_iff {d : Device} (hwake : c.wake = none) :
    d.Admits b c ↔ (d.lockOf b).owner = none := by
  constructor
  · rintro (hfree | ⟨-, -, hrelease⟩)
    · exact hfree
    · cases hwake.symm.trans hrelease
  · exact .inl

/-- Where nothing is to happen on waiting, what an operation leaves is what its deeds make of what
it found. -/
theorem Outcome.status_of_ok {deeds : α → List Deed} {out : Except Failure α × Host} {a : α}
    (hwake : c.wake = none) (hout : Outcome c h.device.status deeds out) (hok : out.1 = .ok a) :
    out.2.device.status = h.device.status.after (deeds a) := by
  obtain ⟨k, hidle, hexact⟩ := hout
  rcases hidle with rfl | ⟨w, hw, -⟩
  · simp only [Exactly, hok] at hexact
    exact hexact.1
  · cases hwake.symm.trans hw

/-- What fails has done nothing. -/
theorem Outcome.status_of_error {deeds : α → List Deed} {out : Except Failure α × Host}
    {e : Failure} (hwake : c.wake = none) (hout : Outcome c h.device.status deeds out)
    (hfail : out.1 = .error e) : out.2.device.status = h.device.status := by
  obtain ⟨k, hidle, hexact⟩ := hout
  rcases hidle with rfl | ⟨w, hw, -⟩
  · simpa only [Exactly, hfail] using hexact
  · cases hwake.symm.trans hw

namespace Op

theorem bind_ok_iff {op : Op α} {next : α → Op β} {r : β} :
    ((op >>= next) c h).1 = .ok r ↔
      ∃ a, (op c h).1 = .ok a ∧ (next a c (op c h).2).1 = .ok r := by
  constructor
  · intro hok
    obtain ⟨a, ha, hrest⟩ := exists_of_bind_ok hok
    exact ⟨a, ha, hrest ▸ hok⟩
  · rintro ⟨a, ha, hr⟩
    rw [bind_of_ok ha]
    exact hr

/-- What comes last always succeeds. -/
theorem bind_ok_iff_of_last {op : Op Unit} {next : Unit → Op β} {r : β}
    (hlast : ∀ g, (next () c g).1 = .ok r) :
    ((op >>= next) c h).1 = .ok r ↔ (op c h).1 = .ok () := by
  rw [bind_ok_iff]
  constructor
  · rintro ⟨_, hok, -⟩
    exact hok
  · exact fun hok => ⟨(), hok, hlast _⟩

/-- A section succeeds just if its lock is free and its body succeeds, which runs on what was
found. -/
theorem exclusively_ok_iff {purpose : String} {body : Op α} {a : α} {p : Prop}
    (hwake : c.wake = none)
    (hbody : ∀ held : Host, held.device.store = h.device.store →
      ((body c held).1 = .ok a ↔ p)) :
    (exclusively b purpose body c h).1 = .ok a ↔ (h.device.lockOf b).owner = none ∧ p := by
  by_cases hfree : (h.device.lockOf b).owner = none
  · obtain ⟨k, held, hadmitted, hrun⟩ : ∃ k held, Admitted b c h held k ∧
        exclusively b purpose body c h = ((body c held).1, release b (body c held).2) :=
      exclusively_of_admits (.inl hfree)
    rw [hrun, hbody held hadmitted.store, and_iff_right hfree]
  · refine iff_of_false ?_ fun hboth => hfree hboth.1
    -- nobody lets the lock go, so that asking for it fails
    have hnot : ¬ h.device.Admits b c := fun hadmits =>
      hfree ((Device.admits_iff hwake).mp hadmits)
    intro hok
    rcases exclusively_of_not_admits purpose body hnot with ⟨-, hfail⟩ | hfail
    · cases hok.symm.trans hfail
    · cases hok.symm.trans hfail

/-- A section whose body always succeeds. -/
theorem exclusively_ok_iff_free {purpose : String} {body : Op α} {a : α} (hwake : c.wake = none)
    (hbody : ∀ held : Host, (body c held).1 = .ok a) :
    (exclusively b purpose body c h).1 = .ok a ↔ (h.device.lockOf b).owner = none :=
  (exclusively_ok_iff hwake fun held _ => iff_of_true (hbody held) trivial).trans
    (and_iff_left trivial)

/-- A section that only looks tells what it found. -/
theorem inspect_ok_iff {purpose : String} (look : Store → α) {a : α} (hwake : c.wake = none) :
    (exclusively b purpose (do return look (← device).store) c h).1 = .ok a ↔
      (h.device.lockOf b).owner = none ∧ look h.device.store = a := by
  apply exclusively_ok_iff hwake
  intro held hstore
  rw [device_bind_run, pure_run, hstore, Except.ok.injEq]

end Op

/-! ## §1 The primary buffer -/

namespace Storage

variable {offset data : Value} {start : Nat} {content : Bytes} {key : Value}

theorem read_ok_iff {length : Nat} {bytes : Bytes} (hwake : c.wake = none)
    (hsome : min length (diskSize - start) ≠ 0) :
    (read (.int start) (.int length) c h).1 = .ok bytes ↔
      (h.device.lockOf .primary).owner = none ∧
        h.device.primary.slice start (min length (diskSize - start)) = bytes := by
  unfold read
  rw [natural_int, natural_int, Op.lift_ok_bind_run, Op.lift_ok_bind_run, toNat_fittingLength,
    if_neg hsome]
  exact Op.inspect_ok_iff (fun k => k.primary.slice start (min length (diskSize - start))) hwake

theorem overwrite_ok_iff {held : Host} :
    (overwrite start content c held).1 = .ok () ↔
      ∀ s, ¬ held.device.Guards s start content.length := by
  rw [← Device.firstProtected?_eq_none_iff]
  unfold overwrite
  rw [Op.device_bind_run]
  cases held.device.firstProtected? (span start content.length) with
  | none => exact iff_of_true rfl rfl
  | some s => exact iff_of_false (fun hok => by cases hok) fun hnone => by cases hnone

theorem Fits.write_ok_iff (hfits : Fits offset data start content) (hwake : c.wake = none)
    (hsome : content ≠ []) :
    (write offset data c h).1 = .ok content.length ↔ (h.device.lockOf .primary).owner = none ∧
      ∀ s, ¬ h.device.Guards s start content.length := by
  rw [hfits.write_eq hsome, Op.bind_ok_iff_of_last fun _ => rfl]
  apply Op.exclusively_ok_iff hwake
  intro held hstore
  have hprotection : held.device.protection = h.device.protection :=
    congrArg Store.protection hstore
  rw [overwrite_ok_iff]
  simp only [Device.Guards, hprotection]

theorem lock_ok_iff (s : Sector) (hwake : c.wake = none) :
    (lock (.int s.val) c h).1 = .ok () ↔ (h.device.lockOf .primary).owner = none := by
  unfold lock
  rw [Sector.ofValue_val, Op.lift_ok_bind_run, Op.bind_ok_iff_of_last fun _ => rfl]
  exact Op.exclusively_ok_iff_free hwake fun _ => rfl

theorem unlock_ok_iff (s : Sector) (hwake : c.wake = none) :
    (unlock (.int s.val) key c h).1 = .ok () ↔
      (h.device.lockOf .primary).owner = none ∧ h.device.keys.accepts key = true := by
  unfold unlock
  rw [Sector.ofValue_val, Op.lift_ok_bind_run, Op.device_bind_run]
  by_cases hkey : h.device.keys.accepts key = true
  · rw [if_pos hkey, Op.bind_ok_iff_of_last fun _ => rfl, and_iff_left hkey]
    exact Op.exclusively_ok_iff_free hwake fun _ => rfl
  · rw [if_neg hkey]
    exact iff_of_false (fun hok => by cases hok) fun hboth => hkey hboth.2

theorem protections_ok_iff {flags : List Bool} (hwake : c.wake = none) :
    (protections c h).1 = .ok flags ↔
      (h.device.lockOf .primary).owner = none ∧ h.device.protection.toList = flags :=
  Op.inspect_ok_iff (fun k => k.protection.toList) hwake

theorem erase_ok_iff (s : Sector) (hwake : c.wake = none) :
    (erase (.int s.val) c h).1 = .ok () ↔
      (h.device.lockOf .primary).owner = none ∧ h.device.protection.bit s = false := by
  unfold erase
  rw [Sector.ofValue_val, Op.lift_ok_bind_run, Op.bind_ok_iff_of_last fun _ => rfl,
    (Op.guarded_section fun held => clear_result c held s).2, Device.admits_iff hwake]

theorem copyOut_ok_iff {block : Bytes} (s : Sector) (hwake : c.wake = none) :
    (copyOut s c h).1 = .ok block ↔
      (h.device.lockOf .primary).owner = none ∧ h.device.primary.sector s = block :=
  Op.inspect_ok_iff (fun k => k.primary.sector s) hwake

end Storage

/-! ## §2 The mirror -/

namespace Mirror

variable {path : Value}

theorem deliver_ok_iff (s : Sector) (content : Bytes) (hwake : c.wake = none) :
    (deliver s content c h).1 = .ok () ↔ (h.device.lockOf .mirror).owner = none := by
  unfold deliver
  rw [Op.bind_ok_iff_of_last fun _ => rfl]
  exact Op.exclusively_ok_iff_free hwake fun _ => rfl

theorem capture_ok_iff (s : Sector) (hwake : c.wake = none) :
    (capture (.int s.val) c h).1 = .ok () ↔
      (h.device.lockOf .primary).owner = none ∧ (h.device.lockOf .mirror).owner = none := by
  -- taking the copy does not change who owns the lock of the mirror
  have hkept {block : Bytes} (hcopy : (Storage.copyOut s c h).1 = .ok block) :
      ((Storage.copyOut s c h).2.device.lockOf .mirror).owner =
        (h.device.lockOf .mirror).owner := by
    rw [Device.lockOf_owner, (Storage.copyOut_outcome c h s).status_of_ok hwake hcopy,
      Status.after_nil, Device.lockOf_owner]
  unfold capture
  rw [Sector.ofValue_val, Op.lift_ok_bind_run, Op.bind_ok_iff]
  simp only [deliver_ok_iff s _ hwake]
  constructor
  · rintro ⟨block, hcopy, hmirror⟩
    exact ⟨((Storage.copyOut_ok_iff s hwake).mp hcopy).1, hkept hcopy ▸ hmirror⟩
  · rintro ⟨hprimary, hmirror⟩
    have hcopy := (Storage.copyOut_ok_iff s hwake).mpr ⟨hprimary, rfl⟩
    exact ⟨_, hcopy, (hkept hcopy).trans hmirror⟩

theorem openFile_ok_iff {plain : Value} {place : Location} :
    (openFile plain c h).1 = .ok place ↔ target h.files plain = .ok place := by
  rcases openFile_cases c h plain with ⟨e, htarget, hrun⟩ | ⟨found, htarget, hrun⟩ <;>
    rw [hrun, htarget]

theorem writeImage_ok_iff {plain : Value} {place : Location} :
    (writeImage plain place c h).1 = .ok diskSize ↔ c.sink.Accepts := by
  obtain ⟨counts, stop, htakes⟩ := c.sink.exists_takes 0 diskSize
  obtain ⟨hwritten, hfailure⟩ := delivery_eq htakes place h
  rw [htakes.accepts_iff, ← hfailure, ← hwritten]
  unfold writeImage
  simp only [Op.circumstance_bind_run, Op.host_bind_run, Op.update_bind_run]
  rcases delivery c.sink place h with ⟨content, count, failure⟩
  cases failure with
  | none => simp only [Op.pure_run, Except.ok.injEq, true_and]
  | some cause =>
    refine iff_of_false (fun hok => ?_) fun hnone => by cases hnone.1
    obtain ⟨e, herror, -⟩ := failWriting_error c { h with files := h.files.put place content }
      plain count cause
    cases herror.symm.trans hok

/-- A backup succeeds just if its path opens a file, which takes the whole mirror. -/
theorem backup_ok_iff (hwake : c.wake = none) :
    (backup path c h).1 = .ok () ↔ (∃ plain place, Opens h.files path plain place) ∧
      (h.device.lockOf .mirror).owner = none ∧ c.sink.Accepts := by
  have hsection {g : Host} {plain : Value} {place : Location} :
      (Op.exclusively .mirror "backup_to_file" (writeImage plain place) c g).1 = .ok diskSize ↔
        (g.device.lockOf .mirror).owner = none ∧ c.sink.Accepts :=
    Op.exclusively_ok_iff hwake fun _ _ => writeImage_ok_iff
  have hend {g : Host} {plain : Value} {written : Nat} :
      ((if written = diskSize then Op.tell (.backedUp plain)
        else do
          Op.tell (.backupIncomplete plain written)
          Op.fail (.incomplete plain written) : Op Unit) c g).1 = .ok () ↔ written = diskSize := by
    split
    · rename_i hall
      exact iff_of_true rfl hall
    · rename_i hsome
      exact iff_of_false (fun hok => by cases hok) hsome
  unfold backup
  -- the path is judged, the file is opened, and only then the lock is asked for
  cases hpath : backupPath path with
  | error e =>
    refine iff_of_false (fun hok => by cases hok) ?_
    rintro ⟨⟨plain, place, hopens⟩, -⟩
    cases hpath.symm.trans hopens.path
  | ok plain =>
    rw [Op.lift_ok_bind_run, Op.bind_ok_iff]
    simp only [Op.bind_ok_iff, hend]
    constructor
    · rintro ⟨place, hopened, written, hwritten, rfl⟩
      obtain ⟨hfree, hdrain⟩ := hsection.mp hwritten
      rw [(openFile_ok hopened).2.1] at hfree
      exact ⟨⟨plain, place, hpath, openFile_ok_iff.mp hopened⟩, hfree, hdrain⟩
    · rintro ⟨⟨plain', place, hopens⟩, hfree, hdrain⟩
      cases hpath.symm.trans hopens.path
      have hopened : (openFile plain c h).1 = .ok place := openFile_ok_iff.mpr hopens.file
      refine ⟨place, hopened, diskSize, hsection.mpr ⟨?_, hdrain⟩, rfl⟩
      rw [(openFile_ok hopened).2.1]
      exact hfree

end Mirror

end SectorDisk
