import SectorDisk.Proofs.Status

/-!
# Exclusive sections

Asking for the lock of a buffer ends in one of two ways: the wait was given up and nothing has
happened, or the lock was free, perhaps after a wait, and the caller owns it now.  A section
that runs under the lock sees the store of the moment of asking, because no other thread changes
a store meanwhile.
-/

namespace SectorDisk

/-! ## §1 One look at a lock -/

namespace Lock

variable {τ : Type} {lock lock' : Lock τ} {party : τ} {ticket : Nat} {cancelled : Bool}

/-- Only a free lock is granted, and then it has a new owner. -/
theorem attempt_granted (hgranted : lock.attempt party ticket cancelled = .granted lock') :
    lock.owner = none ∧ lock'.owner = some party := by
  unfold attempt at hgranted
  cases howner : lock.owner with
  | none =>
    rw [howner] at hgranted
    cases hgranted
    exact ⟨rfl, rfl⟩
  | some p =>
    rw [howner] at hgranted
    simp only at hgranted
    split at hgranted
    · cases hgranted
    · split at hgranted <;> cases hgranted

theorem attempt_waits (hwaits : lock.attempt party ticket cancelled = .waits) :
    lock.owner ≠ none := by
  intro hfree
  simp only [attempt, hfree] at hwaits
  cases hwaits

end Lock

/-! ## §2 Asking for a lock -/

/-- The lock of a buffer is to be had: it is free, or another thread owns it and lets it go while
the operation waits. -/
def Device.Admits (d : Device) (b : Buffer) (c : Circumstance) : Prop :=
  (d.lockOf b).owner = none ∨
    (d.lockOf b).owner = some .rival ∧ c.cancelled = false ∧ c.wake = some .release

namespace Op

variable {α : Type} {b : Buffer} {purpose : String} {c : Circumstance} {h : Host}

/-- The host `held` is `h`, perhaps after a wait, with the lock of a buffer in the hands of the
caller; `k` is the status in between. -/
structure Admitted (b : Buffer) (c : Circumstance) (h held : Host) (k : Status) : Prop where
  idle : Idle c h.device.status k
  free : k.owner b = none
  taken : held.device.status = k.owned b (some .caller)
  files : held.files = h.files

/-- The caller gave up: nothing has happened but the wait. -/
structure GaveUp (c : Circumstance) (h h' : Host) : Prop where
  idle : Idle c h.device.status h'.device.status
  files : h'.files = h.files

/-- Inside the section the store is that of the moment of asking. -/
theorem Admitted.store {held : Host} {k : Status} (admitted : Admitted b c h held k) :
    held.device.store = h.device.store := by
  have htaken := congrArg Status.toStore admitted.taken
  rw [Status.owned_toStore, admitted.idle.toStore] at htaken
  exact htaken

private theorem admitted_of_granted {h' : Host} {ticket : Nat} {cancelled : Bool}
    {lock : Lock Party} (hidle : Idle c h.device.status h'.device.status)
    (hfiles : h'.files = h.files)
    (hgranted : (h'.device.lockOf b).attempt .caller ticket cancelled = .granted lock) :
    Admitted b c h (h'.updateDevice fun d => d.setLock b lock) h'.device.status := by
  obtain ⟨hfree, howner⟩ := Lock.attempt_granted hgranted
  -- the lock of the device is the one that was looked at, now with an owner
  refine ⟨hidle, ?free, ?taken, hfiles⟩
  case free => rw [← hfree, Device.lockOf_owner]
  case taken => simp only [Host.updateDevice_device, Device.setLock_status, howner]

/-- The second look: it leads to the lock, or the caller gives up. -/
theorem retry_cases {ticket : Nat} {h' : Host}
    (hidle : Idle c h.device.status h'.device.status) (hfiles : h'.files = h.files) :
    (∃ e h'', retry b purpose ticket c h' = (.error e, h'') ∧ GaveUp c h h'') ∨
      ∃ k held, retry b purpose ticket c h' = (.ok (), held) ∧ Admitted b c h held k := by
  unfold retry
  split
  · -- the lock is free
    rename_i lock hgranted
    exact Or.inr ⟨_, _, rfl, admitted_of_granted hidle hfiles hgranted⟩
  · exact Or.inl ⟨_, _, rfl, hidle, hfiles⟩
  · -- the wait is ended by an interruption, which no status shows
    refine Or.inl ⟨_, _, rfl, ?_, hfiles⟩
    simpa only [Host.updateDevice_device, Device.interrupted_status] using hidle

/-- Asking for a lock leads to it, or the caller gives up. -/
theorem acquire_cases (b : Buffer) (purpose : String) (c : Circumstance) (h : Host) :
    (∃ e h', acquire b purpose c h = (.error e, h') ∧ GaveUp c h h') ∨
      ∃ k held, acquire b purpose c h = (.ok (), held) ∧ Admitted b c h held k := by
  have hnow : Idle c h.device.status
      (h.enter (.request b (h.device.ownedBy .caller))).device.status := Idle.refl c _
  unfold acquire
  simp only
  split
  · exact Or.inl ⟨_, _, rfl, hnow, rfl⟩
  · rename_i hcaller
    split
    · rename_i lock hgranted
      exact Or.inr ⟨_, _, rfl, admitted_of_granted hnow rfl hgranted⟩
    · exact Or.inl ⟨_, _, rfl, hnow, rfl⟩
    · -- somebody else owns the lock: what was to happen on waiting happens now
      rename_i hwaits
      have hcontended : h.device.status.Contended := by
        refine ⟨b, ?_⟩
        have htaken := Lock.attempt_waits hwaits
        rw [Device.lockOf_owner] at htaken hcaller
        cases howner : h.device.status.owner b with
        | none => exact absurd howner htaken
        | some party =>
          cases party with
          | caller => exact absurd howner hcaller
          | rival => rfl
      split
      · rename_i w hwake
        refine retry_cases (Or.inr ⟨w, hwake, hcontended, ?_⟩) (Host.woken_files _ w)
        rw [Host.woken_status, Host.enter_device]
      · exact retry_cases hnow rfl

theorem acquire_of_admits (hadmits : h.device.Admits b c) :
    (acquire b purpose c h).1 = .ok () := by
  rcases hadmits with hfree | ⟨hrival, hcalm, hwake⟩
  · unfold acquire Lock.attempt
    simp only [hfree, reduceCtorEq, if_false]
  · -- the first look finds the lock taken, the second one finds it free
    have hagain : (((h.enter (.request b (h.device.ownedBy .caller))).woken .release).device.lockOf
        b).owner = none := by
      rw [Device.lockOf_owner] at hrival ⊢
      rw [Host.woken_status, Host.enter_device]
      exact Status.owner_released hrival
    unfold acquire retry Lock.attempt
    simp only [hrival, hcalm, hwake, hagain, Option.some.injEq, reduceCtorEq, Bool.false_eq_true,
      ne_eq, not_true_eq_false, if_false]

/-! ## §3 Sections -/

theorem release_status (b : Buffer) (h : Host) :
    (release b h).device.status = h.device.status.owned b none := by
  simp only [release, Host.updateDevice_device, Device.setLock_status, Lock.freed]

@[simp] theorem release_files (b : Buffer) (h : Host) : (release b h).files = h.files := rfl

/-- A section is not entered and nothing has happened, or it runs under the lock, which is let go
on every way out. -/
theorem exclusively_cases (b : Buffer) (purpose : String) (body : Op α) (c : Circumstance)
    (h : Host) :
    (∃ e h', exclusively b purpose body c h = (.error e, h') ∧ GaveUp c h h') ∨
      ∃ k held, Admitted b c h held k ∧
        exclusively b purpose body c h = ((body c held).1, release b (body c held).2) := by
  unfold exclusively
  rcases acquire_cases b purpose c h with ⟨e, h', hrun, hgave⟩ | ⟨k, held, hrun, hadmitted⟩
  · exact Or.inl ⟨e, h', by rw [hrun], hgave⟩
  · exact Or.inr ⟨k, held, hadmitted, by rw [hrun]⟩

/-- What a section that only looks tells is the store of the moment of asking. -/
theorem inspect_ok (look : Store → α) {a : α}
    (hok : (exclusively b purpose (do return look (← device).store) c h).1 = .ok a) :
    a = look h.device.store := by
  rcases exclusively_cases b purpose (do return look (← device).store) c h with
    ⟨e, h', hrun, -⟩ | ⟨k, held, hadmitted, hrun⟩
  · rw [hrun] at hok
    cases hok
  · rw [hrun, device_bind_run, pure_run, hadmitted.store] at hok
    exact (Except.ok.inj hok).symm

/-- Where the lock is to be had, a section runs. -/
theorem exclusively_of_admits {body : Op α} (hadmits : h.device.Admits b c) :
    ∃ k held, Admitted b c h held k ∧
      exclusively b purpose body c h = ((body c held).1, release b (body c held).2) := by
  rcases acquire_cases b purpose c h with ⟨e, h', hrun, -⟩ | ⟨k, held, hrun, hadmitted⟩
  · have htaken : (acquire b purpose c h).1 = .ok () := acquire_of_admits hadmits
    rw [hrun] at htaken
    cases htaken
  · exact ⟨k, held, hadmitted, by rw [exclusively, hrun]⟩

end Op

end SectorDisk
