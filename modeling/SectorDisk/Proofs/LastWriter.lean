import SectorDisk.Proofs.History

/-!
# The primary buffer as its history

On a new device every byte of the primary buffer is the one that the latest write or erasure gave
it, or zero if there was none, and a sector is protected exactly if it was locked after it was last
unlocked.  Writes of every kind line up here byte by byte: at an offset or at a cursor, across the
bounds of sectors, cut off at the end of the disk, or refused.
-/

namespace SectorDisk

/-! ## §1 What deeds give -/

namespace Deed

/-- The byte that a deed gave a place in the primary buffer, if it covered it. -/
def byteAt? (i : Nat) : Deed → Option UInt8
  | wrote offset data => if offset ≤ i then data[i - offset]? else none
  | erased s => if s.Covers i then some 0 else none
  | _ => none

/-- Whether a deed is a write or an erasure. -/
def writes : Deed → Bool
  | wrote _ _ => true
  | erased _ => true
  | _ => false

/-- Whether a deed locked or unlocked a sector. -/
def protection? (s : Sector) : Deed → Option Bool
  | locked t => if t = s then some true else none
  | unlocked t _ => if t = s then some false else none
  | _ => none

/-- A deed gives a byte of the primary buffer or leaves it alone. -/
theorem getElem_onPrimary (x : Deed) (image : Image) {i : Nat} (hi : i < 4096) :
    (x.onPrimary image)[i] = (x.byteAt? i).getD image[i] := by
  cases x with
  | wrote offset data =>
    simp only [onPrimary, byteAt?, Image.getElem_splice]
    split <;> rfl
  | erased s =>
    have hlength : Storage.zeros.length = sectorSize := List.length_replicate
    simp only [onPrimary, byteAt?]
    by_cases hs : s.Covers i
    · -- the byte is one of the zeros
      have hlow := hs.1
      have hhigh := hs.2
      rw [if_pos hs, Image.getElem_splice, if_pos hlow,
        List.getElem?_eq_getElem (by omega)]
      simp only [Storage.zeros, List.getElem_replicate, Option.getD_some]
    · rw [if_neg hs, Option.getD_none]
      apply Image.getElem_splice_of_outside
      rwa [hlength]
  | _ => rfl

theorem byteAt?_eq_none {x : Deed} (hquiet : x.writes = false) (i : Nat) : x.byteAt? i = none := by
  cases x with
  | wrote offset data => cases hquiet
  | erased s => cases hquiet
  | _ => rfl

/-- A deed sets the protection of a sector or leaves it alone. -/
theorem bit_onProtection (x : Deed) (flags : Flags) (s : Sector) :
    (x.onProtection flags).bit s = (x.protection? s).getD (flags.bit s) := by
  have hset (t : Sector) (on : Bool) :
      (flags.setBit t on).bit s = (if t = s then some on else none).getD (flags.bit s) := by
    rw [Flags.bit_setBit]
    split <;> rfl
  cases x with
  | locked t => exact hset t true
  | unlocked t key => exact hset t false
  | _ => rfl

end Deed

/-! ## §2 The primary buffer and its history -/

namespace Host

variable {h : Host}

theorem run_primary (h : Host) (steps : List Step) {i : Nat} (hi : i < 4096) :
    (h.run steps).device.primary[i] =
      (latest? (Deed.byteAt? i) (h.history steps)).getD h.device.primary[i] :=
  run_view (fun k => k.primary[i]) _ (fun k x => x.getElem_onPrimary k.primary hi) h steps

theorem run_protection (h : Host) (steps : List Step) (s : Sector) :
    (h.run steps).device.protection.bit s =
      (latest? (Deed.protection? s) (h.history steps)).getD (h.device.protection.bit s) :=
  run_view (fun k => k.protection.bit s) _ (fun k x => x.bit_onProtection k.protection s) h steps

/-- Only deeds that cover a byte of the primary buffer change it. -/
theorem run_primary_eq {steps : List Step}
    (hnone : ∀ x ∈ h.history steps, ∀ i < 4096, x.byteAt? i = none) :
    (h.run steps).device.primary = h.device.primary := by
  apply Vector.ext
  intro i hi
  rw [run_primary, latest?_eq_none fun x hx => hnone x hx i hi, Option.getD_none]

/-- Only locking and unlocking changes the protection. -/
theorem run_protection_eq {steps : List Step}
    (hnone : ∀ x ∈ h.history steps, ∀ s, x.protection? s = none) :
    (h.run steps).device.protection = h.device.protection := by
  apply Flags.ext_bit
  intro s
  rw [run_protection, latest?_eq_none fun x hx => hnone x hx s, Option.getD_none]

/-- **The primary buffer is its history.**  After every run of a new device a byte is the one that
the latest write or erasure covering it gave, or zero; a sector is protected exactly if the latest
deed on its protection locked it; steps that cover no byte and lock or unlock nothing change
nothing; and the sizes are kept. -/
theorem primary_of_history {keys : Value} {files : Files}
    (hstart : Host.start keys files = .ok h) (steps : List Step) :
    (∀ (i : Nat) (hi : i < 4096), (h.run steps).device.primary[i] =
        (latest? (Deed.byteAt? i) (h.history steps)).getD 0) ∧
      (∀ s : Sector, (h.run steps).device.protection.bit s = true ↔
        latest? (Deed.protection? s) (h.history steps) = some true) ∧
      (∀ step, (∀ x ∈ (h.run steps).deedsOf step, ∀ i < 4096, x.byteAt? i = none) →
        ((h.run steps).step step).device.primary = (h.run steps).device.primary) ∧
      (∀ step, (∀ x ∈ (h.run steps).deedsOf step, ∀ s, x.protection? s = none) →
        ((h.run steps).step step).device.protection = (h.run steps).device.protection) ∧
      (h.run steps).device.primary.toList.length = diskSize ∧
      (h.run steps).device.protection.toList.length = sectorCount := by
  obtain ⟨hprimary, -, hprotection⟩ := start_store hstart
  refine ⟨?bytes, ?flags, ?_, ?_, ?_, ?_⟩
  case bytes =>
    intro i hi
    rw [run_primary, hprimary, Image.blank, Vector.getElem_replicate]
  case flags =>
    intro s
    rw [run_protection, hprotection, Flags.bit_replicate]
    cases latest? (Deed.protection? s) (h.history steps) with
    | none => simp only [Option.getD_none, reduceCtorEq]
    | some on => rw [Option.getD_some, Option.some.injEq]
  · intro step hnone
    rw [← history_singleton] at hnone
    exact run_primary_eq hnone
  · intro step hnone
    rw [← history_singleton] at hnone
    exact run_protection_eq hnone
  · exact Vector.length_toList
  · exact Vector.length_toList

/-- A write at a cursor across the bound of two sectors, of which the second is then erased and the
first locked; a refused write; and a write at an offset that the end of the disk cuts off. -/
def busyRun : List Step :=
  [.operate {} .openHandle,
    .operate {} (.handle 0 (.seek (.int 510) (.int 0))),
    .operate {} (.handle 0 (.write (.bytes .fixed [1, 2, 3, 4]))),
    .operate {} (.erase (.int 1)),
    .operate {} (.lock (.int 0)),
    .operate {} (.write (.int 511) (.bytes .mutable [9, 9])),
    .operate {} (.handle 0 (.pwrite (.bytes .view [5, 6, 7]) (.int 4094)))]

theorem busyRun_bytes : start .none Files.empty = .ok fresh ∧
    (fresh.run busyRun).device.primary[510] = 1 ∧ (fresh.run busyRun).device.primary[511] = 2 ∧
      (fresh.run busyRun).device.primary[512] = 0 ∧
      (fresh.run busyRun).device.primary[4095] = 6 ∧
      (fresh.run busyRun).device.protection.bit 0 = true := by
  have hstart : start .none Files.empty = .ok fresh := rfl
  obtain ⟨hbytes, hflags, -⟩ := primary_of_history hstart busyRun
  refine ⟨hstart, ?_, ?_, ?_, ?_, ?_⟩
  · exact (hbytes 510 (by decide)).trans rfl
  · exact (hbytes 511 (by decide)).trans rfl
  · exact (hbytes 512 (by decide)).trans rfl
  · exact (hbytes 4095 (by decide)).trans rfl
  · exact (hflags 0).mpr rfl

end Host

end SectorDisk
