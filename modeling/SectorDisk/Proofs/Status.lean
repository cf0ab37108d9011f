import SectorDisk.Proofs.Execution

/-!
# Store and status of a device

`Store` is what a device keeps: both buffers, the protection, the keys and the handles.  `Status`
adds whether the device is closed and who owns its locks.  Metrics and the counts of interruptions
belong to neither.

While an operation waits, other threads may close the device or let locks go; `Idle` says that
nothing else has happened to a status.
-/

namespace SectorDisk

/-! ## §1 Views of a device -/

/-- What a device keeps. -/
structure Store where
  /-- The primary buffer. -/
  primary : Image
  /-- The mirror. -/
  mirror : Image
  /-- Which sectors are protected. -/
  protection : Flags
  /-- The keys that lift protection. -/
  keys : Keyring
  /-- The handles with their cursors. -/
  handles : List Handle

/-- What a device keeps, whether it is closed and who owns its locks. -/
structure Status extends Store where
  /-- Whether the device was closed. -/
  isClosed : Bool
  /-- Who owns the lock of the primary buffer. -/
  primaryOwner : Option Party
  /-- Who owns the lock of the mirror. -/
  mirrorOwner : Option Party

namespace Device

/-- The store of a device. -/
def store (d : Device) : Store :=
  ⟨d.primary, d.mirror, d.protection, d.keys, d.handles⟩

/-- The status of a device. -/
def status (d : Device) : Status :=
  { d.store with
    isClosed := d.isClosed
    primaryOwner := d.primaryLock.owner
    mirrorOwner := d.mirrorLock.owner }

@[simp] theorem status_toStore (d : Device) : d.status.toStore = d.store := rfl

end Device

namespace Status

/-- Who owns the lock of a buffer. -/
def owner (k : Status) : Buffer → Option Party
  | .primary => k.primaryOwner
  | .mirror => k.mirrorOwner

/-- The status with another owner of the lock of a buffer. -/
def owned (k : Status) (b : Buffer) (party : Option Party) : Status :=
  match b with
  | .primary => { k with primaryOwner := party }
  | .mirror => { k with mirrorOwner := party }

@[simp] theorem owned_toStore (k : Status) (b : Buffer) (party : Option Party) :
    (k.owned b party).toStore = k.toStore := by
  cases b <;> rfl

theorem owned_owned (k : Status) (b : Buffer) (p q : Option Party) :
    (k.owned b p).owned b q = k.owned b q := by
  cases b <;> rfl

theorem owned_self {k : Status} {b : Buffer} {p : Option Party} (hp : k.owner b = p) :
    k.owned b p = k := by
  subst hp
  cases b <;> rfl

/-! ## §2 What other threads do meanwhile -/

/-- The status after another thread let the lock of a buffer go, if it owned it. -/
def letGo (k : Status) (b : Buffer) : Status :=
  if k.owner b = some .rival then k.owned b none else k

/-- The status after what happens when an operation waits. -/
def woken (k : Status) : Wake → Status
  | .cancel => k
  | .interrupt _ => k
  | .close => { k with isClosed := true }
  | .release => (k.letGo .primary).letGo .mirror

@[simp] theorem letGo_toStore (k : Status) (b : Buffer) : (k.letGo b).toStore = k.toStore := by
  unfold letGo
  split
  · exact k.owned_toStore b none
  · rfl

@[simp] theorem woken_toStore (k : Status) (w : Wake) : (k.woken w).toStore = k.toStore := by
  cases w with
  | release => simp only [woken, letGo_toStore]
  | cancel => rfl
  | interrupt b => rfl
  | close => rfl

theorem owner_released {k : Status} {b : Buffer} (hrival : k.owner b = some .rival) :
    (k.woken .release).owner b = none := by
  -- letting go of the other lock does not show in the owner of this one
  cases b with
  | primary =>
    simp only [woken, letGo, hrival, if_true]
    split <;> rfl
  | mirror =>
    have hkept : (k.letGo .primary).owner .mirror = some .rival := by
      unfold letGo
      split
      · exact hrival
      · exact hrival
    simp only [woken, letGo.eq_1 (k.letGo .primary), hkept, if_true]
    rfl

/-- What happens when an operation waits is over when it has happened once. -/
theorem woken_woken (k : Status) (w : Wake) : (k.woken w).woken w = k.woken w := by
  cases w with
  | release =>
    -- a lock that was let go has no owner, so that letting it go again finds nothing to do
    obtain ⟨store, isClosed, p, m⟩ := k
    cases p with
    | none => cases m with
      | none => rfl
      | some q => cases q <;> rfl
    | some r => cases m with
      | none => cases r <;> rfl
      | some q => cases r <;> cases q <;> rfl
  | cancel => rfl
  | interrupt b => rfl
  | close => rfl

end Status

namespace Device

@[simp] theorem lockOf_owner (d : Device) (b : Buffer) : (d.lockOf b).owner = d.status.owner b := by
  cases b <;> rfl

@[simp] theorem setLock_status (d : Device) (b : Buffer) (lock : Lock Party) :
    (d.setLock b lock).status = d.status.owned b lock.owner := by
  cases b <;> rfl

@[simp] theorem interrupted_status (d : Device) (b : Buffer) :
    (d.interrupted b).status = d.status := by
  cases b <;> rfl

@[simp] theorem letGo_status (d : Device) (b : Buffer) : (d.letGo b).status = d.status.letGo b := by
  unfold letGo Status.letGo
  rw [lockOf_owner]
  split
  · exact d.setLock_status b _
  · rfl

end Device

theorem Host.closed_status (h : Host) :
    h.closed.device.status = { h.device.status with isClosed := true } := by
  unfold Host.closed
  split
  · -- it was closed before
    rename_i hclosed
    rw [← hclosed]
    rfl
  · simp only [tell_device, updateDevice_device, Device.interrupted_status]
    rfl

@[simp] theorem Host.woken_status (h : Host) (w : Wake) :
    (h.woken w).device.status = h.device.status.woken w := by
  cases w with
  | cancel => rfl
  | interrupt b => exact h.device.interrupted_status b
  | close => exact h.closed_status
  | release => simp only [Host.woken, updateDevice_device, Device.letGo_status, Status.woken]

/-! ## §3 Waiting -/

/-- Another thread owns the lock of a buffer, so that an operation may have to wait. -/
def Status.Contended (k : Status) : Prop :=
  ∃ b, k.owner b = some .rival

/-- From `k` to `k'` nothing has happened but, where a lock was contended, what was to happen on
waiting. -/
def Idle (c : Circumstance) (k k' : Status) : Prop :=
  k' = k ∨ ∃ w, c.wake = some w ∧ k.Contended ∧ k' = k.woken w

namespace Idle

variable {c : Circumstance} {k k' k'' : Status}

theorem refl (c : Circumstance) (k : Status) : Idle c k k := Or.inl rfl

/-- Waiting twice in one operation is waiting once: what happens then happens only once. -/
theorem trans (hfirst : Idle c k k') (hthen : Idle c k' k'') : Idle c k k'' := by
  rcases hfirst with rfl | ⟨w, hw, hcontended, rfl⟩
  · exact hthen
  · rcases hthen with rfl | ⟨w', hw', -, rfl⟩
    · exact Or.inr ⟨w, hw, hcontended, rfl⟩
    · -- the circumstances name one event only, so both waits met the same
      have hsame : w' = w := Option.some.inj (hw'.symm.trans hw)
      subst hsame
      exact Or.inr ⟨w', hw, hcontended, k.woken_woken w'⟩

theorem toStore (hidle : Idle c k k') : k'.toStore = k.toStore := by
  rcases hidle with rfl | ⟨w, -, -, rfl⟩
  · rfl
  · exact k.woken_toStore w

/-- Once what was to happen on waiting has happened, it makes no difference when. -/
theorem settled_status {h h' : Host} (hidle : Idle c h.device.status h'.device.status) :
    (h'.settled c.wake).device.status = (h.settled c.wake).device.status := by
  rcases hidle with hsame | ⟨w, hw, -, hwoken⟩
  · cases hw : c.wake with
    | none => exact hsame
    | some w => simp only [Host.settled, Host.woken_status, hsame]
  · simp only [Host.settled, hw, Host.woken_status, hwoken, Status.woken_woken]

end Idle

end SectorDisk
