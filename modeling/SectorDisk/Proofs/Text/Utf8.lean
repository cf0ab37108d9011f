import SectorDisk.Proofs.Result
import SectorDisk.Text.Utf8

/-!
# UTF-8 is read as it is written

Reading accepts exactly what writing produces, so that every text has one spelling.

A lead byte announces bits and the ranges of the bytes to follow, and the bytes in those ranges
continue exactly the characters that are written with that lead byte.  This is arithmetic, by the
number of bytes of the character; the rest is one induction in either direction.
-/

namespace SectorDisk

namespace Text.Utf8

variable {b x y z : UInt8} {n bits : Nat} {due : List ByteRange} {bytes rest : List UInt8}

/-! ## §1 Lead bytes and what follows them -/

/-- The bytes lie in the ranges, one by one. -/
def Fits : List ByteRange → List UInt8 → Prop
  | [], [] => True
  | r :: due, b :: bytes => r.holds b = true ∧ Fits due bytes
  | _, _ => False

/-- The bits of a code point, with those of continuation bytes added behind. -/
def gathered (bits : Nat) (bytes : List UInt8) : Nat :=
  bytes.foldl (fun n b => 64 * n + (b.toNat - 0x80)) bits

theorem fits_nil : Fits [] bytes ↔ bytes = [] := by
  cases bytes <;> simp [Fits]

theorem fits_cons {r : ByteRange} :
    Fits (r :: due) bytes ↔ ∃ b rest, bytes = b :: rest ∧ r.holds b = true ∧ Fits due rest := by
  constructor
  · intro hfits
    cases bytes with
    | nil => cases hfits
    | cons b rest => exact ⟨b, rest, rfl, hfits⟩
  · rintro ⟨b, rest, rfl, hfits⟩
    exact hfits

/-- The range of the byte after a lead byte that two or three bytes follow. -/
def second (b : UInt8) : ByteRange :=
  ⟨if b = 0xe0 then 0xa0 else if b = 0xf0 then 0x90 else 0x80,
    if b = 0xed then 0x9f else if b = 0xf4 then 0x8f else 0xbf⟩

theorem lead?_eq (b : UInt8) :
    lead? b =
      if b.toNat < 0x80 then some (b.toNat, [])
      else if b.toNat < 0xc2 then none
      else if b.toNat < 0xe0 then some (b.toNat - 0xc0, [tail])
      else if b.toNat < 0xf0 then some (b.toNat - 0xe0, [second b, tail])
      else if b.toNat ≤ 0xf4 then some (b.toNat - 0xf0, [second b, tail, tail])
      else none := by
  simp only [lead?, second, tail, UInt8.lt_iff_toNat_lt, ← UInt8.toNat_inj, UInt8.reduceToNat]
  grind

theorem tail_holds_iff : tail.holds x = true ↔ 0x80 ≤ x.toNat ∧ x.toNat ≤ 0xbf := by
  simp only [ByteRange.holds, tail, Bool.and_eq_true, decide_eq_true_eq, UInt8.le_iff_toNat_le,
    UInt8.reduceToNat]

/-- Overlong forms, surrogates and what lies past the last plane are left out by the second byte. -/
theorem second_holds_iff :
    (second b).holds x = true ↔
      0x80 ≤ x.toNat ∧ x.toNat ≤ 0xbf ∧ (b.toNat = 0xe0 → 0xa0 ≤ x.toNat) ∧
        (b.toNat = 0xed → x.toNat ≤ 0x9f) ∧ (b.toNat = 0xf0 → 0x90 ≤ x.toNat) ∧
        (b.toNat = 0xf4 → x.toNat ≤ 0x8f) := by
  simp only [second, ByteRange.holds, ← UInt8.toNat_inj, Bool.and_eq_true, decide_eq_true_eq,
    UInt8.le_iff_toNat_le, apply_ite UInt8.toNat, UInt8.reduceToNat]
  grind

/-! ## §2 One character -/

theorem toNat_ofNat (hvalid : n.isValidChar) : (Char.ofNat n).toNat = n := by
  rw [Char.ofNat, dif_pos hvalid]
  rfl

theorem toNat_lt (c : Char) : c.toNat < 0x110000 := by
  rcases c.valid with hlow | hhigh
  · exact Nat.lt_trans hlow (by decide)
  · exact hhigh.2

theorem toUInt8_eq (hn : n = b.toNat) : n.toUInt8 = b := by
  rw [hn]
  exact UInt8.ofNat_toNat

theorem encodeChar_one (hn : n < 0x80) (hb : n = b.toNat) : encodeChar (Char.ofNat n) = [b] := by
  have hvalid : n.isValidChar := Or.inl (by omega)
  simp only [encodeChar, toNat_ofNat hvalid]
  rw [if_pos hn, toUInt8_eq hb]

theorem encodeChar_two (hlow : 0x80 ≤ n) (hhigh : n < 0x800) (hb : 0xc0 + n / 64 = b.toNat)
    (hx : 0x80 + n % 64 = x.toNat) : encodeChar (Char.ofNat n) = [b, x] := by
  have hvalid : n.isValidChar := Or.inl (by omega)
  simp only [encodeChar, toNat_ofNat hvalid]
  rw [if_neg (by omega), if_pos hhigh, toUInt8_eq hb, toUInt8_eq hx]

theorem encodeChar_three (hvalid : n.isValidChar) (hlow : 0x800 ≤ n) (hhigh : n < 0x10000)
    (hb : 0xe0 + n / 4096 = b.toNat) (hx : 0x80 + n / 64 % 64 = x.toNat)
    (hy : 0x80 + n % 64 = y.toNat) : encodeChar (Char.ofNat n) = [b, x, y] := by
  simp only [encodeChar, toNat_ofNat hvalid]
  rw [if_neg (by omega), if_neg (by omega), if_pos hhigh, toUInt8_eq hb, toUInt8_eq hx,
    toUInt8_eq hy]

theorem encodeChar_four (hvalid : n.isValidChar) (hlow : 0x10000 ≤ n)
    (hb : 0xf0 + n / 262144 = b.toNat) (hx : 0x80 + n / 4096 % 64 = x.toNat)
    (hy : 0x80 + n / 64 % 64 = y.toNat) (hz : 0x80 + n % 64 = z.toNat) :
    encodeChar (Char.ofNat n) = [b, x, y, z] := by
  simp only [encodeChar, toNat_ofNat hvalid]
  rw [if_neg (by omega), if_neg (by omega), if_neg (by omega), toUInt8_eq hb, toUInt8_eq hx,
    toUInt8_eq hy, toUInt8_eq hz]

/-- What a lead byte announces is a character that is written with it. -/
theorem encodeChar_gathered (hlead : lead? b = some (bits, due)) (hfits : Fits due bytes) :
    encodeChar (Char.ofNat (gathered bits bytes)) = b :: bytes := by
  -- by the number of bytes that are to follow the lead byte
  rw [lead?_eq] at hlead
  split at hlead
  · obtain ⟨rfl, rfl⟩ := Prod.mk.inj (Option.some.inj hlead)
    obtain rfl := fits_nil.mp hfits
    exact encodeChar_one ‹_› rfl
  split at hlead
  · cases hlead
  split at hlead
  · obtain ⟨rfl, rfl⟩ := Prod.mk.inj (Option.some.inj hlead)
    simp only [fits_cons, fits_nil, tail_holds_iff] at hfits
    obtain ⟨x, _, rfl, hx, rfl⟩ := hfits
    simp only [gathered, List.foldl_cons, List.foldl_nil]
    apply encodeChar_two <;> omega
  split at hlead
  · obtain ⟨rfl, rfl⟩ := Prod.mk.inj (Option.some.inj hlead)
    simp only [fits_cons, fits_nil, tail_holds_iff, second_holds_iff] at hfits
    obtain ⟨x, _, rfl, hx, y, _, rfl, hy, rfl⟩ := hfits
    simp only [gathered, List.foldl_cons, List.foldl_nil]
    apply encodeChar_three <;> omega
  split at hlead
  · obtain ⟨rfl, rfl⟩ := Prod.mk.inj (Option.some.inj hlead)
    simp only [fits_cons, fits_nil, tail_holds_iff, second_holds_iff] at hfits
    obtain ⟨x, _, rfl, hx, y, _, rfl, hy, z, _, rfl, hz, rfl⟩ := hfits
    simp only [gathered, List.foldl_cons, List.foldl_nil]
    apply encodeChar_four <;> omega
  · cases hlead

theorem toNat_toUInt8 (hn : n < 256) : n.toUInt8.toNat = n :=
  Nat.mod_eq_of_lt hn

theorem toNat_continuation (n : Nat) : (0x80 + n % 64).toUInt8.toNat = 0x80 + n % 64 :=
  toNat_toUInt8 (by omega)

/-- Every character is written with a lead byte that announces it. -/
theorem exists_lead (c : Char) :
    ∃ b bits due bytes, encodeChar c = b :: bytes ∧ lead? b = some (bits, due) ∧ Fits due bytes ∧
      Char.ofNat (gathered bits bytes) = c := by
  have hvalid : c.toNat.isValidChar := c.valid
  have hself {n : Nat} (hn : n = c.toNat) : Char.ofNat n = c := hn ▸ c.ofNat_toNat
  unfold Nat.isValidChar at hvalid
  -- by the number of bytes that the character is written with
  simp only [encodeChar, lead?_eq]
  by_cases hone : c.toNat < 0x80
  · rw [if_pos hone]
    refine ⟨_, c.toNat, [], [], rfl, ?_, trivial, hself rfl⟩
    rw [toNat_toUInt8 (by omega), if_pos hone]
  by_cases htwo : c.toNat < 0x800
  · rw [if_neg hone, if_pos htwo]
    refine ⟨_, c.toNat / 64, [tail], _, rfl, ?_, ?_, hself ?_⟩
    · rw [toNat_toUInt8 (by omega), if_neg (by omega), if_neg (by omega), if_pos (by omega),
        Nat.add_sub_cancel_left]
    · simp only [Fits, tail_holds_iff, toNat_continuation, and_true]
      omega
    · simp only [gathered, List.foldl_cons, List.foldl_nil, toNat_continuation]
      omega
  by_cases hthree : c.toNat < 0x10000
  · have hlead : (0xe0 + c.toNat / 4096).toUInt8.toNat = 0xe0 + c.toNat / 4096 :=
      toNat_toUInt8 (by omega)
    rw [if_neg hone, if_neg htwo, if_pos hthree]
    refine ⟨_, c.toNat / 4096, [second (0xe0 + c.toNat / 4096).toUInt8, tail], _, rfl, ?_, ?_,
      hself ?_⟩
    · rw [hlead, if_neg (by omega), if_neg (by omega), if_neg (by omega), if_pos (by omega),
        Nat.add_sub_cancel_left]
    · simp only [Fits, tail_holds_iff, second_holds_iff, toNat_continuation, hlead, and_true]
      omega
    · simp only [gathered, List.foldl_cons, List.foldl_nil, toNat_continuation]
      omega
  · have hlead : (0xf0 + c.toNat / 262144).toUInt8.toNat = 0xf0 + c.toNat / 262144 :=
      toNat_toUInt8 (by omega)
    rw [if_neg hone, if_neg htwo, if_neg hthree]
    refine ⟨_, c.toNat / 262144, [second (0xf0 + c.toNat / 262144).toUInt8, tail, tail], _, rfl,
      ?_, ?_, hself ?_⟩
    · rw [hlead, if_neg (by omega), if_neg (by omega), if_neg (by omega), if_neg (by omega),
        if_pos (by omega), Nat.add_sub_cancel_left]
    · simp only [Fits, tail_holds_iff, second_holds_iff, toNat_continuation, hlead, and_true]
      omega
    · simp only [gathered, List.foldl_cons, List.foldl_nil, toNat_continuation]
      omega

/-! ## §3 Whole texts -/

/-- A character that was begun is read to its end. -/
theorem decodeFrom_of_fits {position : Nat} {p : Begun} (hfits : Fits (p.next :: p.due) bytes) :
    ∃ past, decodeFrom position (some p) (bytes ++ rest) =
      (decodeFrom past none rest).map (Char.ofNat (gathered p.bits bytes) :: ·) := by
  -- on the bytes to come, while the bits of the begun character grow
  induction bytes generalizing p position with
  | nil => cases hfits
  | cons b bytes ih =>
    obtain ⟨hb, hdue⟩ := hfits
    rw [List.cons_append, decodeFrom, if_pos hb]
    cases hrest : p.due with
    | nil =>
      rw [hrest] at hdue
      obtain rfl := fits_nil.mp hdue
      refine ⟨position + 1, ?_⟩
      simp only [List.nil_append, gathered, List.foldl_cons, List.foldl_nil]
    | cons next due =>
      rw [hrest] at hdue
      obtain ⟨past, hread⟩ := @ih (position + 1)
        { p with extent := p.extent + 1, bits := 64 * p.bits + (b.toNat - 0x80), next, due } hdue
      refine ⟨past, hread.trans ?_⟩
      simp only [gathered, List.foldl_cons]

theorem decodeFrom_encodeChar (position : Nat) (c : Char) (rest : List UInt8) :
    ∃ past, decodeFrom position none (encodeChar c ++ rest) =
      (decodeFrom past none rest).map (c :: ·) := by
  obtain ⟨b, bits, due, bytes, hwritten, hlead, hfits, hchar⟩ := exists_lead c
  rw [hwritten, List.cons_append, decodeFrom, hlead]
  cases due with
  | nil =>
    obtain rfl := fits_nil.mp hfits
    subst hchar
    exact ⟨position + 1, rfl⟩
  | cons next due =>
    rw [← hchar]
    exact decodeFrom_of_fits (p := ⟨position, b, 1, bits, next, due⟩) hfits

theorem decodeFrom_encode (position : Nat) (cs : List Char) :
    decodeFrom position none (cs.flatMap encodeChar) = .ok cs := by
  induction cs generalizing position with
  | nil => rfl
  | cons c cs ih =>
    obtain ⟨past, hread⟩ := decodeFrom_encodeChar position c (cs.flatMap encodeChar)
    rw [List.flatMap_cons, hread, ih]
    rfl

/-- The bytes spell the characters, the first of which may have been begun. -/
def Spells (cs : List Char) (bytes : List UInt8) : Option Begun → Prop
  | none => bytes = cs.flatMap encodeChar
  | some p => ∃ ending later, Fits (p.next :: p.due) ending ∧
      cs = Char.ofNat (gathered p.bits ending) :: later ∧
      bytes = ending ++ later.flatMap encodeChar

theorem spells_of_decodeFrom {position : Nat} {begun : Option Begun} {cs : List Char}
    (hread : decodeFrom position begun bytes = .ok cs) : Spells cs bytes begun := by
  -- one case for each row of the reader, and the bytes read so far stand in the begun character
  fun_induction decodeFrom position begun bytes generalizing cs with
  | case1 position =>
    cases hread
    rfl
  | case2 position p => cases hread
  | case3 position b rest hlead => cases hread
  | case4 position b rest bits hlead ih =>
    obtain ⟨later, hlater, rfl⟩ := exists_of_map_ok hread
    have hwritten : encodeChar (Char.ofNat bits) = [b] :=
      encodeChar_gathered hlead (fits_nil.mpr rfl)
    rw [Spells, ih hlater, List.flatMap_cons, hwritten]
    rfl
  | case5 position b rest bits next due hlead ih =>
    obtain ⟨ending, later, hfits, rfl, rfl⟩ := ih hread
    rw [Spells, List.flatMap_cons, encodeChar_gathered hlead hfits]
    rfl
  | case6 position p b rest hb bits hdue =>
    rename_i ih
    obtain ⟨later, hlater, rfl⟩ := exists_of_map_ok hread
    refine ⟨[b], later, ⟨hb, ?_⟩, ?_, ?_⟩
    · exact hdue ▸ trivial
    · simp only [gathered, List.foldl_cons, List.foldl_nil, bits]
    · rw [ih hlater]
      rfl
  | case7 position p b rest hb bits next due hdue =>
    rename_i ih
    obtain ⟨ending, later, hfits, rfl, rfl⟩ := ih hread
    refine ⟨b :: ending, later, ⟨hb, ?_⟩, ?_, rfl⟩
    · exact hdue ▸ hfits
    · simp only [gathered, List.foldl_cons, bits]
  | case8 position p b rest hb => cases hread

theorem decode_encode (s : String) : decode (encode s) = .ok s := by
  rw [decode, encode, decodeFrom_encode]
  exact congrArg Except.ok s.ofList_toList

theorem decode_eq_ok_iff {s : String} : decode bytes = .ok s ↔ bytes = encode s := by
  constructor
  · intro hread
    unfold decode at hread
    cases hcs : decodeFrom 0 none bytes with
    | error defect =>
      rw [hcs] at hread
      cases hread
    | ok cs =>
      rw [hcs] at hread
      cases hread
      rw [encode, String.toList_ofList]
      exact spells_of_decodeFrom hcs
  · rintro rfl
    exact decode_encode s

theorem zero_eq_toUInt8_iff (hn : n < 256) : 0 = n.toUInt8 ↔ n = 0 := by
  rw [← UInt8.toNat_inj, toNat_toUInt8 hn]
  exact eq_comm

/-- Only the zero character is written with a zero byte. -/
theorem zero_mem_encodeChar {c : Char} : 0 ∈ encodeChar c ↔ c.toNat = 0 := by
  have hvalid := toNat_lt c
  have hcontinued (m : Nat) : ¬ 0 = (0x80 + m % 64).toUInt8 := by
    rw [zero_eq_toUInt8_iff (by omega)]
    omega
  unfold encodeChar
  dsimp only
  split
  · rw [List.mem_singleton, zero_eq_toUInt8_iff (by omega)]
  -- a lead byte that others follow is not zero either
  split
  · simp only [List.mem_cons, List.not_mem_nil, hcontinued, or_false]
    rw [zero_eq_toUInt8_iff (by omega)]
    omega
  split
  · simp only [List.mem_cons, List.not_mem_nil, hcontinued, or_false]
    rw [zero_eq_toUInt8_iff (by omega)]
    omega
  · simp only [List.mem_cons, List.not_mem_nil, hcontinued, or_false]
    rw [zero_eq_toUInt8_iff (by omega)]
    omega

theorem zero_mem_encode {s : String} : 0 ∈ encode s ↔ ∃ c ∈ s.toList, c.toNat = 0 := by
  simp only [encode, List.mem_flatMap, zero_mem_encodeChar]

/-! ## §4 The bytes of strings -/

/-- Characters are written with the bytes that strings are made of. -/
theorem encodeChar_eq_utf8EncodeChar (c : Char) : encodeChar c = String.utf8EncodeChar c := by
  have hvalid : c.val.toNat < 0x110000 := toNat_lt c
  unfold encodeChar String.utf8EncodeChar Char.toNat
  dsimp only
  -- by the number of bytes: they differ in the order of sums, and in a remainder of the lead byte
  split
  · rw [if_pos (by omega)]
  split
  · rw [if_neg (by omega), if_pos (by omega), Nat.add_comm 0xc0, Nat.add_comm 0x80,
      Nat.mod_eq_of_lt (a := c.val.toNat / 64) (by omega)]
  split
  · rw [if_neg (by omega), if_neg (by omega), if_pos (by omega), Nat.add_comm 0xe0,
      Nat.add_comm 0x80, Nat.add_comm 0x80, Nat.mod_eq_of_lt (a := c.val.toNat / 4096) (by omega)]
  · rw [if_neg (by omega), if_neg (by omega), if_neg (by omega), Nat.add_comm 0xf0,
      Nat.add_comm 0x80, Nat.add_comm 0x80, Nat.add_comm 0x80,
      Nat.mod_eq_of_lt (a := c.val.toNat / 262144) (by omega)]

theorem toByteArray_encode (s : String) : (encode s).toByteArray = s.toByteArray := by
  have hchars : encodeChar = String.utf8EncodeChar := funext encodeChar_eq_utf8EncodeChar
  rw [encode, hchars]
  exact String.utf8Encode_toList

theorem length_encode (s : String) : (encode s).length = s.utf8ByteSize := by
  rw [← List.size_toByteArray, toByteArray_encode]
  rfl

theorem eq_encode_iff {s : String} : bytes = encode s ↔ s.toByteArray = bytes.toByteArray := by
  rw [← toByteArray_encode, List.toByteArray_inj]
  exact eq_comm

/-- What can be read is what is valid. -/
theorem exists_decode_iff : (∃ s, decode bytes = .ok s) ↔ bytes.toByteArray.IsValidUTF8 := by
  simp only [decode_eq_ok_iff, eq_encode_iff]
  constructor
  · rintro ⟨s, hs⟩
    exact hs ▸ s.isValidUTF8
  · exact fun hvalid => ⟨String.ofByteArray _ hvalid, rfl⟩

end Text.Utf8

end SectorDisk
