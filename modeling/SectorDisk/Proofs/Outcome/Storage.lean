import SectorDisk.Proofs.Argument
import SectorDisk.Proofs.Extent
import SectorDisk.Proofs.Outcome

/-!
# Outcomes on the primary buffer

Reading does nothing.  Writing and erasing are one deed each, which spares the protected sectors, or
are refused; protection is lifted only with a key.
-/

namespace SectorDisk

/-! ## §1 Spans and deeds -/

/-- No sector of a span without protected sectors is protected. -/
theorem Device.protection_of_firstProtected?_none {d : Device} {r : Span}
    (hnone : d.firstProtected? r = none) {s : Sector} (hs : r.holds s.val = true) :
    d.protection.bit s = false := by
  have hfree := List.find?_eq_none.mp hnone s (List.mem_finRange s)
  simpa only [hs, Bool.true_and, Bool.not_eq_true] using hfree

theorem Deed.onSector_of_ok {sector : Value} {s : Sector} (hs : Sector.ofValue sector = .ok s)
    (deed : Sector → Deed) : onSector sector deed = [deed s] := by
  simp only [onSector, hs]

theorem Deed.ofWrite_of_ok {offset data : Value} {start : Nat} {bytes : Bytes}
    (hstart : natural "offset" offset = .ok start)
    (hbytes : Storage.bytesToWrite data = .ok bytes) (count : Nat) :
    ofWrite offset data count = [.wrote start (bytes.take count)] := by
  have hdata := Storage.bytes?_of_bytesToWrite hbytes
  simp only [eq_int_of_natural hstart, ofWrite, hdata, Int.toNat_natCast]

/-! ## §2 Outcomes -/

namespace Storage

variable (c : Circumstance) (h : Host)

theorem read_outcome (offset length : Value) :
    Outcome c h.device.status (fun _ => []) (read offset length c h) := by
  unfold read
  apply Outcome.judge
  intro start _
  apply Outcome.judge
  intro count _
  by_cases hnone : (fittingLength start count).toNat = 0
  · rw [if_pos hnone]
    exact Outcome.quiet (Idle.refl c _) rfl
  · rw [if_neg hnone]
    exact Outcome.inspect _ _ _ fun _ => rfl

/-- Laying bytes over the buffer is one deed, or the first protected sector refuses it. -/
theorem overwrite_exactly (offset : Nat) (data : Bytes) (held : Host) :
    Exactly held.device.status (fun _ => [.wrote offset data])
      (overwrite offset data c held) := by
  unfold overwrite
  rw [Op.device_bind_run]
  cases hfirst : held.device.firstProtected? (span offset data.length) with
  | some s =>
    -- refused: the operator is told, and no byte is laid
    simp only [Op.tell_bind_run, Op.fail_run, Exactly, Host.tell_device]
  | none =>
    refine ⟨rfl, ?_, trivial⟩
    intro s i hlow hhigh hs
    exact Device.protection_of_firstProtected?_none hfirst (span_holds_iff.mpr ⟨i, hlow, hhigh, hs⟩)

/-- A write that returns a count laid that many bytes over the buffer. -/
theorem write_outcome (offset data : Value) :
    Outcome c h.device.status (fun n : Nat => Deed.ofWrite offset data n)
      (write offset data c h) := by
  unfold write
  apply Outcome.judge
  intro start hstart
  by_cases hpast : diskSize ≤ start
  · rw [if_pos hpast]
    exact Outcome.failed (Idle.refl c _) _
  rw [if_neg hpast]
  apply Outcome.judge
  intro bytes hbytes
  by_cases hnone : (fittingLength start bytes.length).toNat = 0
  · -- no byte fits: the lock is not asked for, and the deed is one of no bytes
    rw [if_pos hnone]
    refine ⟨_, Idle.refl c _, ?_⟩
    simp only [Op.pure_run, Exactly, Deed.ofWrite_of_ok hstart hbytes, List.take_zero]
    refine ⟨?_, fun s i hlow hhigh _ => ?_, trivial⟩
    · exact (h.device.status.after_wrote_nil start).symm
    · rw [List.length_nil] at hhigh
      omega
  · rw [if_neg hnone]
    apply Outcome.last_quiet
      (Outcome.exclusively .primary "write" fun held _ => overwrite_exactly c _ _ held)
    intro _ h' _
    exact ⟨_, rfl, rfl, Deed.ofWrite_of_ok hstart hbytes _⟩

theorem protect_exactly {s : Sector} {on : Bool} {deed : Deed} {held : Host}
    (hdeed : ∀ k : Status, k.did deed = { k with protection := k.protection.setBit s on })
    (hallowed : held.device.store.Allows deed) :
    Exactly held.device.status (fun _ => [deed]) (protect s on c held) := by
  simp only [protect, Op.updateDevice_run, Exactly, Status.after_cons, Status.after_nil, hdeed]
  exact ⟨rfl, hallowed, trivial⟩

theorem lock_outcome (sector : Value) :
    Outcome c h.device.status (fun _ => Deed.onSector sector .locked) (lock sector c h) := by
  unfold lock
  apply Outcome.judge
  intro s hs
  have hdeed (k : Status) :
      k.did (.locked s) = { k with protection := k.protection.setBit s true } := rfl
  apply Outcome.last_quiet
    (Outcome.exclusively .primary "lock" fun held _ => protect_exactly c hdeed trivial)
  intro _ h' _
  exact ⟨(), rfl, rfl, Deed.onSector_of_ok hs _⟩

theorem unlock_outcome (sector key : Value) :
    Outcome c h.device.status (fun _ => Deed.onSector sector fun s => .unlocked s key)
      (unlock sector key c h) := by
  unfold unlock
  apply Outcome.judge
  intro s hs
  rw [Op.device_bind_run]
  by_cases hkey : h.device.keys.accepts key = true
  · -- the keys were asked before the wait, and a wait leaves them as they are
    rw [if_pos hkey]
    have hdeed (k : Status) :
        k.did (.unlocked s key) = { k with protection := k.protection.setBit s false } := rfl
    have hallowed (held : Host) (hstore : held.device.store = h.device.store) :
        held.device.store.Allows (.unlocked s key) := by
      rw [hstore]
      exact hkey
    apply Outcome.last_quiet (Outcome.exclusively .primary "unlock"
      fun held hstore => protect_exactly c hdeed (hallowed held hstore))
    intro _ h' _
    exact ⟨(), rfl, rfl, Deed.onSector_of_ok hs _⟩
  · rw [if_neg hkey, Op.tell_bind_run, Op.fail_run]
    refine Outcome.failed ?_ _
    exact Idle.refl c _

theorem protections_outcome :
    Outcome c h.device.status (fun _ => []) (protections c h) :=
  Outcome.inspect _ _ _ fun _ => rfl

theorem clear_exactly (s : Sector) (held : Host) :
    Exactly held.device.status (fun _ => [.erased s]) (clear s c held) := by
  unfold clear
  rw [Op.device_bind_run]
  by_cases hprotected : held.device.protection.bit s = true
  · rw [if_pos hprotected]
    -- refused
    rfl
  · rw [if_neg hprotected]
    have hopen : held.device.protection.bit s = false := Bool.eq_false_iff.mpr hprotected
    exact ⟨rfl, hopen, trivial⟩

theorem erase_outcome (sector : Value) :
    Outcome c h.device.status (fun _ => Deed.onSector sector .erased) (erase sector c h) := by
  unfold erase
  apply Outcome.judge
  intro s hs
  apply Outcome.last_quiet
    (Outcome.exclusively .primary "erase" fun held _ => clear_exactly c s held)
  intro _ h' _
  exact ⟨(), rfl, rfl, Deed.onSector_of_ok hs _⟩

theorem snapshot_outcome : Outcome c h.device.status (fun _ => []) (snapshot c h) :=
  Outcome.inspect _ _ _ fun _ => rfl

theorem copyOut_outcome (s : Sector) :
    Outcome c h.device.status (fun _ => []) (copyOut s c h) :=
  Outcome.inspect _ _ _ fun _ => rfl

variable {c h}

theorem eq_sector_of_copyOut {s : Sector} {content : Bytes}
    (hcopy : (copyOut s c h).1 = .ok content) : content = h.device.primary.sector s :=
  Op.inspect_ok (fun k => k.primary.sector s) hcopy

end Storage

end SectorDisk
