import Mathlib.Data.Int.Range
import Mathlib.Data.List.Range
import Mathlib.Data.Rat.Floor
import Mathlib.Order.Bounds.Basic
import SectorDisk.Proofs.Argument
import SectorDisk.Proofs.Extent

/-!
# Exact extents

The arithmetic of stretches exactly, for offsets and lengths that are integers of any sign and size.
The sectors of a stretch are listed in order and without a gap: they are the positions of its bytes
divided by the size of a sector and rounded down (`TouchedSectors`).  What fits of a length is the
most with which the stretch does not pass the end of the disk (`isGreatest_fittingLength`).  Given
as arguments, integers have the same answers as inside the disk, where truth values count as 0 and 1
(`extent_exact`).
-/

namespace SectorDisk

variable {offset length index : Int} {o n : Number}

/-! ## §1 The sectors of a stretch -/

/-- The indices of a span, in order. -/
def Span.indices (r : Span) : List Int :=
  Int.range r.first r.past

namespace Span

theorem mem_indices {r : Span} : index ∈ r.indices ↔ r.holds index = true := by
  rw [indices, Int.mem_range_iff, holds_iff]

theorem indices_isChain (r : Span) : r.indices.IsChain fun index next => next = index + 1 := by
  rw [indices, Int.range, List.isChain_map, List.isChain_range]
  intro k hk
  push_cast
  omega

end Span

/-- The list has the sectors that hold a byte of the stretch, in order and without a gap, and is
empty for an empty stretch only.  Sectors are counted on past both ends of the disk. -/
structure TouchedSectors (offset length : Int) (indices : List Int) : Prop where
  mem_iff (index : Int) : index ∈ indices ↔
    ∃ i, offset ≤ i ∧ i < offset + length ∧ ⌊(i / sectorSize : ℚ)⌋ = index
  consecutive : indices.IsChain fun index next => next = index + 1
  eq_nil_iff : indices = [] ↔ length ≤ 0

theorem mem_indices_span : index ∈ (span offset length).indices ↔
    ∃ i, offset ≤ i ∧ i < offset + length ∧ ⌊(i / sectorSize : ℚ)⌋ = index := by
  simp only [Span.mem_indices, span_holds_iff_exists, Rat.floor_intCast_div_natCast]

theorem touchedSectors_span (offset length : Int) :
    TouchedSectors offset length (span offset length).indices where
  mem_iff _ := mem_indices_span
  consecutive := Span.indices_isChain _
  eq_nil_iff := by
    constructor
    · intro hnil
      by_contra hsome
      -- the sector of the first byte would be there
      have hfirst : ⌊(offset / sectorSize : ℚ)⌋ ∈ (span offset length).indices :=
        mem_indices_span.mpr ⟨offset, le_rfl, by omega, rfl⟩
      rw [hnil] at hfirst
      exact List.not_mem_nil hfirst
    · intro hnone
      rw [span_of_empty hnone]
      rfl

/-- A stretch of two bytes around the beginning of the disk. -/
example : (span (-1) 2).indices = [-1, 0] := by decide

theorem indices_span_sector (s : Sector) :
    (span s.start sectorSize).indices = [(s.val : Int)] := by
  have hspan : span s.start sectorSize = ⟨s.val, s.val + 1⟩ := by
    rw [span_of_some (by decide)]
    simp only [Sector.start, sectorSize, Span.mk.injEq]
    omega
  rw [hspan, Span.indices, Int.range, add_sub_cancel_left]
  simp

/-! ## §2 What fits on the disk -/

theorem isGreatest_fittingLength (hinside : offset < diskSize) :
    IsGreatest {k | k ≤ length ∧ offset + k ≤ diskSize} (fittingLength offset length) := by
  rw [fittingLength_of_inside hinside]
  refine ⟨⟨min_le_left _ _, ?_⟩, ?_⟩
  · exact add_le_of_le_sub_left (min_le_right _ _)
  · rintro k ⟨hlength, hroom⟩
    exact le_min hlength (le_sub_left_of_add_le hroom)

theorem mem_indices_fitting (hstart : 0 ≤ offset)
    (hindex : index ∈ (span offset (fittingLength offset length)).indices) :
    0 ≤ index ∧ index < sectorCount := by
  obtain ⟨hholds, hcount⟩ := span_fitting_holds_iff.mp (Span.mem_indices.mp hindex)
  obtain ⟨i, hlow, -, rfl⟩ := span_holds_iff_exists.mp hholds
  exact ⟨Int.ediv_nonneg (hstart.trans hlow) (Int.natCast_nonneg _), hcount⟩

/-! ## §3 Integers as arguments -/

namespace Number

theorem int_or_flag (hn : n.toInt? = some length) :
    n = .int length ∨ ∃ b : Bool, n = .flag b ∧ length = if b then 1 else 0 := by
  cases n with
  | int k =>
    cases hn
    exact .inl rfl
  | flag b =>
    cases hn
    exact .inr ⟨b, rfl, rfl⟩
  | real x => cases hn

theorem isAtMostZero_eq (hn : n.toInt? = some length) : n.isAtMostZero = decide (length ≤ 0) := by
  rcases int_or_flag hn with rfl | ⟨b, rfl, rfl⟩
  · rfl
  · cases b <;> rfl

theorem reaches_eq {size : Nat} (ho : o.toInt? = some offset) :
    o.reaches size = decide ((size : Int) ≤ offset) := by
  rcases int_or_flag ho with rfl | ⟨b, rfl, rfl⟩
  · rfl
  · cases b <;> simp [reaches]

theorem below_eq {size : Nat} (ho : o.toInt? = some offset) :
    o.below size = .int (size - offset) := by
  rcases int_or_flag ho with rfl | ⟨b, rfl, rfl⟩ <;> rfl

theorem fraction?_eq (hn : n.toInt? = some length) : n.fraction? = some (length, 1) := by
  rcases int_or_flag hn with rfl | ⟨b, rfl, rfl⟩ <;> rfl

theorem add_eq (ho : o.toInt? = some offset) (hn : n.toInt? = some length) :
    o.add n = .ok (.int (offset + length)) := by
  simp only [add, ho, hn]

theorem int_less_eq (room : Int) (hn : n.toInt? = some length) :
    (Number.int room).less n = decide (room < length) := by
  have hroom : (Number.int room).fraction? = some (room, 1) := rfl
  simp only [less, hroom, fraction?_eq hn, mul_one]

end Number

theorem Span.ofValues_eq (ho : o.toInt? = some offset) (hn : n.toInt? = some length) :
    ofValues (.number o) (.number n) = .ok (span offset length) := by
  by_cases hnone : length ≤ 0
  · simp [ofValues, Number.isAtMostZero_eq hn, hnone, span_of_empty hnone]
  · simp only [ofValues, Number.isAtMostZero_eq hn, hnone, decide_false, Number.add_eq ho hn, ho,
      hn]
    rfl

/-- The lesser of length and room is given as the kind of number that it was. -/
theorem fittingValue_eq (ho : o.toInt? = some offset) (hn : n.toInt? = some length) :
    ∃ m, fittingValue (.number o) (.number n) = .ok m ∧
      m.toInt? = some (fittingLength offset length) := by
  by_cases hinside : offset < diskSize
  · have hlesser : fittingValue (.number o) (.number n) =
        .ok (if (diskSize : Int) - offset < length then .int (diskSize - offset) else n) := by
      simp [fittingValue, Number.reaches_eq ho, Int.not_le.mpr hinside, Number.below_eq ho,
        Number.int_less_eq _ hn]
    refine ⟨_, hlesser, ?_⟩
    rw [fittingLength_of_inside hinside]
    split
    · rename_i hroom
      rw [min_eq_right hroom.le]
      rfl
    · rename_i hroom
      rw [min_eq_left (not_lt.mp hroom), hn]
  · have hpast := Int.not_lt.mp hinside
    refine ⟨.int 0, ?_, ?_⟩
    · simp [fittingValue, Number.reaches_eq ho, hpast]
    · rw [fittingLength_of_past hpast]
      rfl

/-! ## §4 The law -/

/-- **Extents.**  For an offset and a length that are integers of any sign and size, the sectors of
the stretch are those that hold one of its bytes, and what fits of the length is nothing where the
stretch begins past the end of the disk and otherwise the most with which it does not pass the end.
From an offset that is not negative, all sectors of what fits are sectors of the disk, and the
stretch of a whole sector has this one sector. -/
theorem extent_exact (ho : o.toInt? = some offset) (hn : n.toInt? = some length) :
    (Span.ofValues (.number o) (.number n) = .ok (span offset length) ∧
      TouchedSectors offset length (span offset length).indices) ∧
    (∃ m, fittingValue (.number o) (.number n) = .ok m ∧
      m.toInt? = some (fittingLength offset length) ∧
      (diskSize ≤ offset → fittingLength offset length = 0) ∧
      (offset < diskSize →
        IsGreatest {k | k ≤ length ∧ offset + k ≤ diskSize} (fittingLength offset length)) ∧
      Span.ofValues (.number o) (.number m) = .ok (span offset (fittingLength offset length)) ∧
      (0 ≤ offset → ∀ index ∈ (span offset (fittingLength offset length)).indices,
        0 ≤ index ∧ index < sectorCount)) ∧
    ∀ s : Sector, Sector.ofValue (.int s.val) = .ok s ∧
      Span.ofValues (.int s.start) (.int sectorSize) = .ok (span s.start sectorSize) ∧
      (span s.start sectorSize).indices = [(s.val : Int)] := by
  refine ⟨⟨Span.ofValues_eq ho hn, touchedSectors_span offset length⟩, ?fitting, ?sector⟩
  case fitting =>
    obtain ⟨m, hm, hfitting⟩ := fittingValue_eq ho hn
    exact ⟨m, hm, hfitting, fittingLength_of_past, isGreatest_fittingLength,
      Span.ofValues_eq ho hfitting, fun hstart _ => mem_indices_fitting hstart⟩
  case sector =>
    intro s
    exact ⟨Sector.ofValue_val s, Span.ofValues_eq rfl rfl, indices_span_sector s⟩

/-- Two hundred bytes of which ninety-six fit: the stretch touches a sector behind the disk, and
what fits of it does not. -/
theorem extent_exact_atEnd :
    TouchedSectors 4000 200 [7, 8] ∧ IsGreatest {k : Int | k ≤ 200 ∧ 4000 + k ≤ diskSize} 96 ∧
      (∃ m, fittingValue (.int 4000) (.int 200) = .ok m ∧ m.toInt? = some 96 ∧
        Span.ofValues (.int 4000) (.number m) = .ok ⟨7, 8⟩) ∧
      ∀ index ∈ [(7 : Int)], 0 ≤ index ∧ index < sectorCount := by
  obtain ⟨⟨-, htouched⟩, ⟨m, hm, hfitting, -, hgreatest, hspan, hinside⟩, -⟩ :=
    extent_exact (o := .int 4000) (n := .int 200) rfl rfl
  exact ⟨htouched, hgreatest (by decide), ⟨m, hm, hfitting, hspan⟩, hinside (by decide)⟩

end SectorDisk
