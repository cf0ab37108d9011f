import SectorDisk.Proofs.History
import SectorDisk.Proofs.Key

/-!
# Protection

A protected sector stays as it is until its protection is lifted with one of the keys.  One step of
the argument is about a single deed: the store admits none that reaches into a protected sector.
-/

namespace SectorDisk

/-! ## §1 Protected sectors -/

/-- A sector of a store is as it was: protected and with the same content, under the same keys. -/
structure Store.Frozen (s : Sector) (k k' : Store) : Prop where
  protection : k'.protection.bit s = true
  content : k'.primary.sector s = k.primary.sector s
  keys : k'.keys = k.keys

namespace Store

variable {k k' k'' : Store} {s : Sector} {x : Deed} {ds : List Deed}

theorem Frozen.trans (hfirst : Frozen s k k') (hthen : Frozen s k' k'') : Frozen s k k'' where
  protection := hthen.protection
  content := hthen.content.trans hfirst.content
  keys := hthen.keys.trans hfirst.keys

/-- **One deed**: what the store admits leaves a protected sector as it is, unless it unlocks it. -/
theorem frozen_did (hallows : k.Allows x) (hprotected : k.protection.bit s = true)
    (hno : ∀ key, k.keys.IsKey key → x ≠ .unlocked s key) : Frozen s k (k.did x) := by
  refine ⟨?protection, ?content, rfl⟩
  case protection =>
    rw [did_protection]
    cases x with
    | locked t =>
      rw [Deed.onProtection, Flags.bit_setBit]
      split
      · rfl
      · exact hprotected
    | unlocked t key =>
      -- a deed with a key that is none was not admitted
      have hne : t ≠ s := by
        rintro rfl
        exact hno key (Keyring.accepts_iff.mp hallows) rfl
      rw [Deed.onProtection, Flags.bit_setBit, if_neg hne]
      exact hprotected
    | _ => exact hprotected
  case content =>
    rw [did_primary]
    cases x with
    | wrote offset data =>
      -- a byte of the sector among the written ones would be one of an open sector
      apply Image.sector_eq_of_bytes
      intro i hi hs
      apply Image.getElem_splice_of_outside
      rintro ⟨hlow, hhigh⟩
      have hfree : k.protection.bit s = false := hallows s i hlow hhigh hs
      rw [hprotected] at hfree
      cases hfree
    | erased t =>
      have hne : s ≠ t := by
        rintro rfl
        have hfree : k.protection.bit s = false := hallows
        rw [hprotected] at hfree
        cases hfree
      exact Image.sector_splice_of_ne _ List.length_replicate hne
    | _ => rfl

/-- **Many deeds**: the protection that the sector keeps holds off the next one. -/
theorem frozen_after (hpermits : k.Permits ds) (hprotected : k.protection.bit s = true)
    (hno : ∀ key, k.keys.IsKey key → .unlocked s key ∉ ds) : Frozen s k (k.after ds) := by
  induction ds generalizing k with
  | nil => exact ⟨hprotected, rfl, rfl⟩
  | cons x ds ih =>
    obtain ⟨hallows, hrest⟩ := hpermits
    have hfirst : Frozen s k (k.did x) := by
      apply frozen_did hallows hprotected
      rintro key hkey rfl
      exact hno key hkey List.mem_cons_self
    -- the sector is still protected, and the keys are the same, when the other deeds are done
    have hthen : Frozen s (k.did x) ((k.did x).after ds) := by
      apply ih hrest hfirst.protection
      intro key hkey hmem
      exact hno key (hfirst.keys ▸ hkey) (List.mem_cons_of_mem x hmem)
    exact hfirst.trans hthen

end Store

/-! ## §2 Runs -/

namespace Host

/-- **A protected sector is frozen until it is unlocked.**  In a run without an unlocking of the
sector with one of the keys it stays protected, its content stays the same, and so do the keys. -/
theorem frozen_until_unlocked (h : Host) (steps : List Step) (s : Sector)
    (hprotected : h.device.protection.bit s = true)
    (hno : ∀ key, h.device.keys.IsKey key → .unlocked s key ∉ h.history steps) :
    (h.run steps).device.protection.bit s = true ∧
      (h.run steps).device.primary.sector s = h.device.primary.sector s ∧
      (h.run steps).device.keys = h.device.keys := by
  have hfrozen : h.device.store.Frozen s (h.device.store.after (h.history steps)) :=
    Store.frozen_after (h.history_permitted steps) hprotected hno
  rw [← h.run_store steps] at hfrozen
  exact ⟨hfrozen.protection, hfrozen.content, hfrozen.keys⟩

/-- A device whose first sector ends in two bytes of a write and is protected. -/
def guarded : Host :=
  fresh.run
    [.operate {} (.write (.int 510) (.bytes .fixed [1, 2])),
      .operate {} (.lock (.int 0))]

/-- Attempts on the first sector, among them one that waits for the lock, and an unlocking of the
second. -/
def intrusion : List Step :=
  [.operate {} .openHandle,
    .operate {} (.handle 0 (.write (.bytes .fixed [9]))),
    .operate {} (.write (.int 510) (.bytes .fixed [9, 9, 9])),
    .operate {} (.erase (.int 0)),
    .operate {} (.dispatch (.command .eraseSector) (.bytes .fixed [0, 0, 0, 0])),
    .operate {} (.unlock (.int 0) (.string "Z")),
    .operate {} (.unlock (.int 1) (.bytes .fixed [66])),
    .hold .primary,
    .operate { wake := some .release } (.write (.int 511) (.bytes .fixed [9])),
    .operate {} (.write (.int 512) (.bytes .fixed [7])),
    .operate {} .close]

theorem intrusion_fails :
    (∀ key, guarded.device.keys.IsKey key → .unlocked 0 key ∉ guarded.history intrusion) ∧
      (guarded.run intrusion).device.protection.bit 0 = true ∧
      (guarded.run intrusion).device.primary.sector 0 = guarded.device.primary.sector 0 ∧
      (guarded.run intrusion).device.keys = guarded.device.keys := by
  have hhistory : guarded.history intrusion =
      [.opened, .unlocked 1 (.bytes .fixed [66]), .wrote 512 [7], .closed] := rfl
  have hno : ∀ key, guarded.device.keys.IsKey key →
      .unlocked 0 key ∉ guarded.history intrusion := by
    intro key _
    rw [hhistory]
    simp
  exact ⟨hno, frozen_until_unlocked guarded intrusion 0 rfl hno⟩

end Host

end SectorDisk
