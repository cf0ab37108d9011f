import SectorDisk.Proofs.Outcome.Operation

/-!
# Failure atomicity

An operation that fails has done nothing: not to the buffers, the protection, the keys and the
handles with their cursors, and not to the locks, which it lets go on every way out.  What may have
changed is what other threads did while it waited, and that is the same as if they had done it
without the operation.
-/

namespace SectorDisk

variable {c : Circumstance} {h : Host} {op : Operation} {e : Failure}

theorem Operation.idle_of_failed (hfail : (op.perform c h).1 = .error e) :
    Idle c h.device.status (op.perform c h).2.device.status := by
  obtain ⟨k, hidle, hexact⟩ := op.perform_outcome c h
  simp only [Exactly, hfail] at hexact
  rw [hexact]
  exact hidle

/-- **A failed operation does nothing.**  Both buffers, the protection, the keys and all handles are
as before; the device is closed or open and its locks are owned as before, or as what another thread
did during a wait left them; and once that has happened, the status is what it would be without the
operation. -/
theorem Operation.failed_does_nothing (hfail : (op.perform c h).1 = .error e) :
    (op.perform c h).2.device.store = h.device.store ∧
      ((op.perform c h).2.device.status = h.device.status ∨
        ∃ w b, c.wake = some w ∧ (h.device.lockOf b).owner = some .rival ∧
          (op.perform c h).2.device.status = (h.woken w).device.status) ∧
      (h.operate c op).2.device.status = (h.settled c.wake).device.status := by
  have hidle := op.idle_of_failed hfail
  refine ⟨hidle.toStore, ?waited, hidle.settled_status⟩
  case waited =>
    rcases hidle with hsame | ⟨w, hwake, ⟨b, howner⟩, hwoken⟩
    · exact Or.inl hsame
    · refine Or.inr ⟨w, b, hwake, ?_, ?_⟩
      · rw [Device.lockOf_owner, howner]
      · rw [hwoken, Host.woken_status]

/-- A device with a protected sector, a handle in it, and its mirror in other hands. -/
def busyHost : Host where
  device :=
    { keys := Keyring.standard
      protection := Flags.setBit (Vector.replicate 8 false) 1 true
      mirrorLock := { owner := some .rival }
      handles := [{ cursor := .int 700 }] }
  files := Files.empty

/-- Copying a sector takes and lets go the lock of the primary buffer before its wait for the mirror
is ended by closing the device. -/
theorem closed_capture_does_nothing :
    ((Operation.capture (.int 2)).perform { wake := some .close } busyHost).1 =
        .error (.interrupted .interrupted "mirror lock" (some "mirror_sector")) ∧
      ((Operation.capture (.int 2)).perform { wake := some .close } busyHost).2.device.store =
        busyHost.device.store ∧
      (((Operation.capture (.int 2)).perform { wake := some .close } busyHost).2.device.status =
          busyHost.device.status ∨
        ∃ w b, some Wake.close = some w ∧ (busyHost.device.lockOf b).owner = some .rival ∧
          ((Operation.capture (.int 2)).perform { wake := some .close } busyHost).2.device.status =
            (busyHost.woken w).device.status) ∧
      (busyHost.operate { wake := some .close } (.capture (.int 2))).2.device.status =
        (busyHost.settled (some .close)).device.status :=
  ⟨rfl, Operation.failed_does_nothing rfl⟩

end SectorDisk
