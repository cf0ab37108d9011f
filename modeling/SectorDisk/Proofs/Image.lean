import SectorDisk.Extent

/-!
# Bytes and sectors of a buffer

Where the bytes of a buffer come from after something was laid over it, and how a buffer is made up
of its sectors.  `Block` is the content of one sector, of the right size by its type.  The bits of
the sectors are looked up and replaced one at a time.
-/

namespace SectorDisk

/-! ## §1 Sectors -/

namespace Sector

/-- Whether a byte of the disk lies in a sector. -/
def Covers (s : Sector) (i : Nat) : Prop :=
  s.start ≤ i ∧ i < s.start + sectorSize

instance (s : Sector) (i : Nat) : Decidable (s.Covers i) :=
  inferInstanceAs (Decidable (_ ∧ _))

theorem start_add_le (s : Sector) : s.start + sectorSize ≤ diskSize := by
  have hs := s.isLt
  simp only [start, sectorSize, diskSize]
  omega

theorem add_lt (s : Sector) {j : Nat} (hj : j < sectorSize) : s.start + j < 4096 := by
  have hs := s.start_add_le
  simp only [diskSize] at hs
  omega

/-- Two sectors share no byte. -/
theorem eq_of_covers {s t : Sector} {i : Nat} (hs : s.Covers i) (ht : t.Covers i) : s = t := by
  simp only [Covers, start, sectorSize] at hs ht
  exact Fin.ext (by omega)

/-- The sector of a byte of the disk. -/
theorem exists_covers {i : Nat} (hi : i < diskSize) : ∃ s : Sector, s.Covers i := by
  simp only [diskSize] at hi
  refine ⟨⟨i / 512, by omega⟩, ?_⟩
  simp only [Covers, start, sectorSize]
  omega

/-- Rounded down, a byte divided by the size of a sector is the index of its sector. -/
theorem covers_iff_div {s : Sector} {i : Nat} : s.Covers i ↔ (i : Int) / sectorSize = s.val := by
  simp only [Covers, start, sectorSize]
  omega

end Sector

/-! ## §2 Laying bytes over a buffer -/

namespace Image

/-- A byte after a splice: the new one where there is one. -/
theorem getElem_splice (image : Image) (offset : Nat) (data : Bytes) {i : Nat} (hi : i < 4096) :
    (image.splice offset data)[i] =
      if offset ≤ i then (data[i - offset]?).getD image[i] else image[i] := by
  simp only [splice, Vector.getElem_ofFn, List.getElem?_toArray, Fin.getElem_fin]

theorem getElem_splice_of_outside (image : Image) {offset : Nat} {data : Bytes} {i : Nat}
    (hi : i < 4096) (houtside : ¬(offset ≤ i ∧ i < offset + data.length)) :
    (image.splice offset data)[i] = image[i] := by
  rw [getElem_splice]
  split
  · rw [List.getElem?_eq_none (by omega), Option.getD_none]
  · rfl

@[simp] theorem splice_nil (image : Image) (offset : Nat) : image.splice offset [] = image := by
  apply Vector.ext
  intro i hi
  apply getElem_splice_of_outside
  rw [List.length_nil]
  omega

/-! ## §3 The content of a sector -/

theorem length_slice (image : Image) (offset length : Nat) :
    (image.slice offset length).length = min length (diskSize - offset) := by
  simp only [slice, List.length_take, List.length_drop, Vector.length_toList, diskSize]

@[simp] theorem length_sector (image : Image) (s : Sector) :
    (image.sector s).length = sectorSize := by
  have hs := s.start_add_le
  rw [sector, length_slice]
  omega

theorem getElem?_sector (image : Image) (s : Sector) {j : Nat} (hj : j < sectorSize) :
    (image.sector s)[j]? = image[s.start + j]? := by
  simp only [sector, slice, List.getElem?_take_of_lt hj, List.getElem?_drop, Vector.getElem?_toList]

theorem blank_sector (s : Sector) : blank.sector s = List.replicate sectorSize 0 := by
  have hs := s.start_add_le
  rw [sector, slice, blank, Vector.toList_replicate, List.drop_replicate, List.take_replicate]
  rw [Nat.min_eq_left (by simp only [diskSize] at hs; omega)]

/-- Two buffers have the same content in a sector where they have the same bytes. -/
theorem sector_eq_of_bytes {image image' : Image} {s : Sector}
    (hsame : ∀ (i : Nat) (hi : i < 4096), s.Covers i → image[i] = image'[i]) :
    image.sector s = image'.sector s := by
  apply List.ext_getElem?
  intro j
  by_cases hj : j < sectorSize
  · have hi := s.add_lt hj
    rw [getElem?_sector image s hj, getElem?_sector image' s hj, Vector.getElem?_eq_getElem hi,
      Vector.getElem?_eq_getElem hi, hsame _ hi ⟨by omega, by omega⟩]
  · rw [List.getElem?_eq_none (by rw [length_sector]; omega),
      List.getElem?_eq_none (by rw [length_sector]; omega)]

/-- A buffer is made up of its sectors. -/
theorem ext_sector {image image' : Image}
    (hsame : ∀ s : Sector, image.sector s = image'.sector s) : image = image' := by
  apply Vector.ext
  intro i hi
  -- the byte is looked up in the sector that covers it
  obtain ⟨s, hlow, hhigh⟩ := Sector.exists_covers hi
  have hj : i - s.start < sectorSize := by omega
  have hbyte : image[i]? = image'[i]? := by
    rw [← Nat.add_sub_cancel' hlow, ← getElem?_sector image s hj, ← getElem?_sector image' s hj,
      hsame]
  rw [Vector.getElem?_eq_getElem hi, Vector.getElem?_eq_getElem hi] at hbyte
  exact Option.some.inj hbyte

theorem sector_splice_self (image : Image) (s : Sector) {content : Bytes}
    (hsize : content.length = sectorSize) : (image.splice s.start content).sector s = content := by
  apply List.ext_getElem?
  intro j
  by_cases hj : j < sectorSize
  · rw [getElem?_sector _ s hj, Vector.getElem?_eq_getElem (s.add_lt hj), getElem_splice,
      if_pos (by omega), Nat.add_sub_cancel_left, List.getElem?_eq_getElem (by omega),
      Option.getD_some]
  · rw [List.getElem?_eq_none (by rw [length_sector]; omega), List.getElem?_eq_none (by omega)]

theorem sector_splice_of_ne (image : Image) {s t : Sector} {content : Bytes}
    (hsize : content.length = sectorSize) (hne : s ≠ t) :
    (image.splice t.start content).sector s = image.sector s := by
  apply sector_eq_of_bytes
  intro i hi hs
  apply getElem_splice_of_outside
  -- a byte that both sectors covered would make them one
  intro ht
  rw [hsize] at ht
  exact hne (Sector.eq_of_covers hs ht)

end Image

/-! ## §4 Blocks -/

/-- The content of a whole sector. -/
abbrev Block := { content : Bytes // content.length = sectorSize }

/-- The first bytes of a byte string, if there are enough for a sector. -/
def Block.first? (bytes : Bytes) : Option Block :=
  if hsize : sectorSize ≤ bytes.length then
    some ⟨bytes.take sectorSize, by rw [List.length_take, Nat.min_eq_left hsize]⟩
  else none

/-- The content of a sector as a block. -/
def Image.block (image : Image) (s : Sector) : Block :=
  ⟨image.sector s, image.length_sector s⟩

/-! ## §5 Bits of sectors -/

namespace Flags

variable {flags flags' : Flags}

theorem bit_setBit (flags : Flags) (s t : Sector) (on : Bool) :
    (flags.setBit t on).bit s = if t = s then on else flags.bit s := by
  unfold setBit bit
  simp only [Fin.getElem_fin, Vector.getElem_set, Fin.ext_iff]

theorem bit_replicate (on : Bool) (s : Sector) : bit (Vector.replicate 8 on) s = on := by
  unfold bit
  rw [Fin.getElem_fin, Vector.getElem_replicate]

theorem ext_bit (hsame : ∀ s, flags.bit s = flags'.bit s) : flags = flags' := by
  apply Vector.ext
  intro i hi
  exact hsame ⟨i, hi⟩

end Flags

end SectorDisk
