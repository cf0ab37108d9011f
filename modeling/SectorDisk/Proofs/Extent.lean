import SectorDisk.Proofs.Image

/-!
# Sectors and lengths of stretches

Which sectors hold a byte of a stretch, and how much of a stretch fits on the disk, over all
integers.  Cutting a stretch off at the end of the disk takes from its sectors those behind the end,
and no others (`span_fitting_holds_iff`).
-/

namespace SectorDisk

variable {offset length index : Int}

/-! ## §1 Spans -/

theorem Span.holds_iff {r : Span} : r.holds index = true ↔ r.first ≤ index ∧ index < r.past := by
  rw [holds, Bool.and_eq_true, decide_eq_true_eq, decide_eq_true_eq]

theorem span_of_empty (hnone : length ≤ 0) : span offset length = ⟨0, 0⟩ :=
  if_pos hnone

theorem span_of_some (hsome : 0 < length) :
    span offset length = ⟨offset / sectorSize, (offset + length - 1) / sectorSize + 1⟩ := by
  -- by a size that is not negative the division of integers rounds down
  have hsize : (0 : Int) ≤ sectorSize := Int.natCast_nonneg _
  rw [span, if_neg (Int.not_le.mpr hsome), Int.fdiv_eq_ediv_of_nonneg _ hsize,
    Int.fdiv_eq_ediv_of_nonneg _ hsize]

/-- The sectors of a span are those that a byte of the stretch falls into, on the disk and off
it. -/
theorem span_holds_iff_exists : (span offset length).holds index = true ↔
    ∃ i, offset ≤ i ∧ i < offset + length ∧ i / sectorSize = index := by
  by_cases hsome : 0 < length
  · simp only [span_of_some hsome, Span.holds_iff, sectorSize]
    constructor
    · rintro ⟨hlow, hhigh⟩
      -- the first byte of the sector lies in the stretch, unless the stretch begins behind it
      exact ⟨max offset (512 * index), by omega, by omega, by omega⟩
    · rintro ⟨i, hlow, hhigh, rfl⟩
      omega
  · simp only [span_of_empty (Int.not_lt.mp hsome), Span.holds_iff]
    constructor
    · rintro ⟨hlow, hhigh⟩
      omega
    · rintro ⟨i, hlow, hhigh, -⟩
      omega

/-- The sectors of the disk in a span are those that hold a byte of the stretch. -/
theorem span_holds_iff {start count : Nat} {s : Sector} :
    (span start count).holds s.val = true ↔ ∃ i, start ≤ i ∧ i < start + count ∧ s.Covers i := by
  rw [span_holds_iff_exists]
  constructor
  · rintro ⟨i, hlow, hhigh, hs⟩
    obtain ⟨k, rfl⟩ := Int.eq_ofNat_of_zero_le (Int.le_trans (Int.natCast_nonneg start) hlow)
    exact ⟨k, by omega, by omega, Sector.covers_iff_div.mpr hs⟩
  · rintro ⟨i, hlow, hhigh, hs⟩
    exact ⟨i, by omega, by omega, Sector.covers_iff_div.mp hs⟩

/-! ## §2 What fits on the disk -/

theorem fittingLength_of_past (hpast : diskSize ≤ offset) : fittingLength offset length = 0 :=
  if_pos hpast

theorem fittingLength_of_inside (hinside : offset < diskSize) :
    fittingLength offset length = min length (diskSize - offset) :=
  if_neg (Int.not_le.mpr hinside)

/-- How much of a stretch fits on the disk. -/
theorem toNat_fittingLength {start count : Nat} :
    (fittingLength start count).toNat = min count (diskSize - start) := by
  by_cases hinside : (start : Int) < diskSize
  · rw [fittingLength_of_inside hinside]
    omega
  · rw [fittingLength_of_past (Int.not_lt.mp hinside)]
    omega

/-- The bytes of what fits are those of the stretch that are in front of the end of the disk. -/
theorem lt_add_fittingLength_iff {i : Int} (hlow : offset ≤ i) :
    i < offset + fittingLength offset length ↔ i < offset + length ∧ i < diskSize := by
  by_cases hinside : offset < diskSize
  · rw [fittingLength_of_inside hinside]
    omega
  · rw [fittingLength_of_past (Int.not_lt.mp hinside)]
    omega

theorem div_sectorSize_lt_iff {i : Int} : i / sectorSize < sectorCount ↔ i < diskSize := by
  have hcount : sectorCount = 8 := rfl
  simp only [hcount, sectorSize, diskSize]
  omega

theorem span_fitting_holds_iff :
    (span offset (fittingLength offset length)).holds index = true ↔
      (span offset length).holds index = true ∧ index < sectorCount := by
  simp only [span_holds_iff_exists]
  constructor
  · rintro ⟨i, hlow, hhigh, rfl⟩
    obtain ⟨hlength, hroom⟩ := (lt_add_fittingLength_iff hlow).mp hhigh
    exact ⟨⟨i, hlow, hlength, rfl⟩, div_sectorSize_lt_iff.mpr hroom⟩
  · rintro ⟨⟨i, hlow, hlength, rfl⟩, hcount⟩
    have hroom := div_sectorSize_lt_iff.mp hcount
    exact ⟨i, hlow, (lt_add_fittingLength_iff hlow).mpr ⟨hlength, hroom⟩, rfl⟩

end SectorDisk
