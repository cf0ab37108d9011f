import SectorDisk.Proofs.Outcome.Storage

/-!
# Outcomes on the mirror

Filling a sector of the mirror is one deed: of given bytes, or of the content that the sector of the
primary buffer had when the copy was asked for.  A backup is no deed at all, because it only touches
files.
-/

namespace SectorDisk

theorem Block.first?_of_sectorBytes {data : Value} {content : Bytes}
    (hcontent : Mirror.sectorBytes data = .ok content) :
    ∃ block : Block, data.bytes?.bind Block.first? = some block ∧ block.val = content := by
  obtain ⟨bytes, hbytes, hsize, rfl⟩ := Mirror.sectorBytes_eq_ok_iff.mp hcontent
  refine ⟨⟨bytes.take sectorSize, ?_⟩, ?_, rfl⟩
  · rw [List.length_take, Nat.min_eq_left (by omega)]
  · simp only [hbytes, Option.bind_some, first?, dif_pos hsize]

namespace Mirror

variable (c : Circumstance) (h : Host)

/-- Delivering the content of a sector to the mirror is one deed, wherever the content is from. -/
theorem deliver_outcome {s : Sector} {content : Bytes} {deed : Deed}
    (hdeed : ∀ k : Status, k.did deed = { k with mirror := k.mirror.splice s.start content })
    (hfree : ∀ k : Store, k.Allows deed) :
    Outcome c h.device.status (fun _ => [deed]) (deliver s content c h) := by
  have hbody (held : Host) : Exactly held.device.status (fun _ => [deed])
      (Op.updateDevice (fun d => { d with mirror := d.mirror.splice s.start content }) c held) := by
    simp only [Op.updateDevice_run, Exactly, Status.after_cons, Status.after_nil, hdeed]
    exact ⟨rfl, hfree _, trivial⟩
  unfold deliver
  apply (Outcome.exclusively .mirror "mirror_sector" fun held _ => hbody held).last_quiet
  intro _ h' _
  exact ⟨(), rfl, rfl, rfl⟩

theorem store_outcome (sector data : Value) :
    Outcome c h.device.status (fun _ => Deed.ofStore sector data) (store sector data c h) := by
  unfold store
  apply Outcome.judge
  intro s hs
  apply Outcome.judge
  intro content hcontent
  obtain ⟨block, hblock, rfl⟩ := Block.first?_of_sectorBytes hcontent
  have hdeeds : Deed.ofStore sector data = [.stored s block] := by
    simp only [Deed.ofStore, hblock, Deed.onSector_of_ok hs]
  rw [hdeeds]
  exact deliver_outcome c h (fun k => rfl) fun k => trivial

/-- The copy of a sector that arrives in the mirror is its content at the moment of asking, even
where the delivery had to wait. -/
theorem capture_outcome (sector : Value) :
    Outcome c h.device.status
      (fun _ => Deed.onSector sector fun s => .captured s (h.device.primary.block s))
      (capture sector c h) := by
  unfold capture
  apply Outcome.judge
  intro s hs
  -- the copy is taken under one lock and delivered under the other
  apply (Storage.copyOut_outcome c h s).next
  intro content hcopy
  rw [Storage.eq_sector_of_copyOut hcopy, Deed.onSector_of_ok hs]
  exact deliver_outcome c _ (fun k => rfl) fun k => trivial

theorem snapshot_outcome : Outcome c h.device.status (fun _ => []) (snapshot c h) :=
  Outcome.inspect _ _ _ fun _ => rfl

/-- Only halves of surrogate pairs have no bytes for the host. -/
theorem pathOctets_kind {path : Value} {e : Failure} (hfail : pathOctets path = .error e) :
    e.kind = .unwritable := by
  unfold pathOctets at hfail
  split at hfail
  · cases hfail
  · rename_i t
    cases hescaped : t.escaped with
    | ok octets =>
      rw [hescaped] at hfail
      cases hfail
    | error stretch =>
      rw [hescaped] at hfail
      cases hfail
      rfl
  · cases hfail
  · cases hfail

/-- A path that opens no file is one that the host cannot take, or there is a problem with the
files. -/
theorem target_kind {files : Files} {path : Value} {e : Failure}
    (hfail : target files path = .error e) :
    e.kind = .unwritable ∨ e.kind = .wrongValue ∨ e.kind = .storageIO := by
  unfold target at hfail
  cases hoctets : pathOctets path with
  | error e' =>
    rw [hoctets] at hfail
    cases hfail
    exact .inl (pathOctets_kind hoctets)
  | ok octets =>
    rw [hoctets] at hfail
    change (if octets.contains 0 = true then _ else _) = _ at hfail
    split at hfail
    · cases hfail
      refine .inr (.inl ?_)
      unfold nulFailure
      split <;> rfl
    · cases hlocate : files.locate octets with
      | ok place =>
        simp only [hlocate] at hfail
        cases hfail
      | error problem =>
        simp only [hlocate] at hfail
        cases hfail
        exact .inr (.inr rfl)

/-- Opening a backup file fails and does nothing, or empties the file that the path opens. -/
theorem openFile_cases (path : Value) :
    (∃ e, target h.files path = .error e ∧ openFile path c h = (.error e, h)) ∨
      ∃ place, target h.files path = .ok place ∧
        openFile path c h = (.ok place, { h with files := h.files.put place [] }) := by
  unfold openFile
  rw [Op.host_bind_run]
  cases htarget : target h.files path with
  | error e => exact Or.inl ⟨e, rfl, rfl⟩
  | ok place => exact Or.inr ⟨place, rfl, rfl⟩

theorem openFile_outcome (path : Value) :
    Outcome c h.device.status (fun _ => []) (openFile path c h) := by
  rcases openFile_cases c h path with ⟨e, -, hrun⟩ | ⟨place, -, hrun⟩
  · rw [hrun]
    exact Outcome.failed (Idle.refl c _) e
  · rw [hrun]
    refine Outcome.quiet ?_ rfl
    exact Idle.refl c _

/-- A failure of writing is told as it is, or what is wrong with it is. -/
theorem failWriting_error (path : Value) (written : Nat) (cause : Value) :
    ∃ e, (failWriting path written cause c h).1 = .error e ∧
      (e = .writeFailed path cause ∨ cause.flaw? = some e) := by
  unfold failWriting
  cases hflaw : cause.flaw? with
  | none => exact ⟨_, rfl, .inl rfl⟩
  | some flaw => exact ⟨flaw, rfl, .inr rfl⟩

/-- Writing the mirror to a file touches the files only, whatever the file does. -/
theorem writeImage_exactly (path : Value) (place : Location) (held : Host) :
    Exactly held.device.status (fun _ => []) (writeImage path place c held) := by
  unfold writeImage
  simp only [Op.circumstance_bind_run, Op.host_bind_run, Op.update_bind_run]
  cases (delivery c.sink place held).failure with
  | none => exact ⟨rfl, trivial⟩
  | some cause =>
    simp only [failWriting]
    cases cause.flaw? <;> rfl

theorem backup_outcome (path : Value) :
    Outcome c h.device.status (fun _ => []) (backup path c h) := by
  unfold backup
  apply Outcome.judge
  intro path _
  apply (openFile_outcome c h path).next
  intro place _
  apply Outcome.next (Outcome.exclusively .mirror "backup_to_file"
    fun held _ => writeImage_exactly c path place held)
  intro written _
  -- the file is checked after the lock of the mirror was let go
  by_cases hall : written = diskSize
  · rw [if_pos hall]
    refine Outcome.quiet ?_ rfl
    exact Idle.refl c _
  · rw [if_neg hall, Op.tell_bind_run, Op.fail_run]
    refine Outcome.failed ?_ _
    exact Idle.refl c _

end Mirror

end SectorDisk
