import SectorDisk.Proofs.Outcome.Control
import SectorDisk.Proofs.Outcome.Handle

/-!
# The outcome of every operation

Everything that can be asked of a device either fails and has done nothing, or succeeds and has
done its deeds.
-/

namespace SectorDisk

variable {α : Type}

namespace Device

variable (c : Circumstance) (h : Host)

theorem check_run :
    check c h = (if h.device.isClosed = true then .error .deviceClosed else .ok (), h) := by
  unfold check
  rw [Op.device_bind_run]
  split <;> rfl

theorem open_run :
    Device.open c h =
      if h.device.isClosed = true then (.error .deviceClosed, h)
      else
        (.ok h.device.handles.length,
          (h.updateDevice fun d => { d with handles := d.handles ++ [{}] }).tell
            (.handleOpened h.device.handles.length)) := by
  have hrun := check_run c h
  unfold Device.open
  split at hrun
  · rename_i hclosed
    rw [Op.bind_of_error (congrArg Prod.fst hrun), hrun, if_pos hclosed]
  · rename_i hopen
    rw [Op.bind_of_ok (congrArg Prod.fst hrun), hrun, if_neg hopen]
    rfl

theorem check_outcome {next : Unit → Op α} {deeds : α → List Deed}
    (hrest : Outcome c h.device.status deeds (next () c h)) :
    Outcome c h.device.status deeds ((check >>= next) c h) := by
  have hfirst : Outcome c h.device.status (fun _ => []) (check c h) := by
    rw [check_run]
    split
    · exact Outcome.failed (Idle.refl c _) _
    · exact Outcome.quiet (Idle.refl c _) rfl
  have hhost : (check c h).2 = h := by rw [check_run]
  apply hfirst.next
  intro _ _
  rw [hhost]
  exact hrest

theorem open_outcome : Outcome c h.device.status (fun _ => [.opened]) (Device.open c h) := by
  unfold Device.open
  apply check_outcome
  refine ⟨_, Idle.refl c _, ?_⟩
  exact ⟨rfl, trivial, trivial⟩

theorem close_outcome : Outcome c h.device.status (fun _ => [.closed]) (close c h) :=
  ⟨_, Idle.refl c _, h.closed_status, trivial, trivial⟩

end Device

/-- **Every operation** either fails and has done nothing, or succeeds and has done its deeds. -/
theorem Operation.perform_outcome (c : Circumstance) (h : Host) (op : Operation) :
    Outcome c h.device.status (op.deeds h.device) (op.perform c h) := by
  -- what only tells something is quiet; the rest was said of each part of the device
  cases op with
  | openHandle => exact (Device.open_outcome c h).giving
  | control command payload =>
    exact Device.check_outcome c h (Control.dispatch_outcome c h command payload)
  | dispatch command payload => exact Control.dispatch_outcome c h command payload
  | close => exact (Device.close_outcome c h).giving
  | isClosed => exact Outcome.quiet (Idle.refl c _) rfl
  | keys => exact Outcome.quiet (Idle.refl c _) rfl
  | metrics => exact Outcome.quiet (Idle.refl c _) rfl
  | useOnce =>
    refine ⟨_, Idle.refl c _, ?_⟩
    exact ⟨h.closed_status, trivial, trivial⟩
  | handle index op => exact op.perform_outcome c h index
  | read offset length => exact (Storage.read_outcome c h offset length).giving
  | write offset data => exact (Storage.write_outcome c h offset data).giving
  | lock sector => exact (Storage.lock_outcome c h sector).giving
  | unlock sector key => exact (Storage.unlock_outcome c h sector key).giving
  | protections => exact (Storage.protections_outcome c h).giving
  | erase sector => exact (Storage.erase_outcome c h sector).giving
  | capture sector => exact (Mirror.capture_outcome c h sector).giving
  | primarySnapshot => exact (Storage.snapshot_outcome c h).giving
  | store sector data =>
    apply Outcome.giving
    exact Mirror.store_outcome c h sector data
  | mirrorSnapshot => exact (Mirror.snapshot_outcome c h).giving
  | backup path => exact (Mirror.backup_outcome c h path).giving

end SectorDisk
