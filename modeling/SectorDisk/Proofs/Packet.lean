import SectorDisk.Packet.Payload
import SectorDisk.Proofs.Argument
import SectorDisk.Proofs.Key
import SectorDisk.Proofs.Text.Utf8
import SectorDisk.Proofs.View

/-!
# Control payloads are read as they are written

For each of the layouts: which values are payloads of it, that what was encoded is decoded to what
it was, whatever kind of byte string carries it, and that everything else is refused as an argument,
but for the views that pass for a payload by the number of their items (`Misleads`).
-/

namespace SectorDisk.Packet

variable {layout : Layout} {v : Value} {kind : BytesKind} {data : Bytes} {e : Failure}

/-! ## §1 Sizes -/

/-- The view has as many items as the layout has bytes, and so passes for a payload. -/
def Misleads (layout : Layout) (v : Value) : Prop :=
  ∃ w : View, v = .view w ∧ w.items.length = layout.size

/-- What comes of reading a record from such a view. -/
def misleadingEnd (layout : Layout) (w : View) : Failure :=
  if w.isSolid then .payloadWide layout else .payloadSpaced

theorem misleadingEnd_kind (layout : Layout) (w : View) :
    (misleadingEnd layout w).kind = .unsolid ∨ (misleadingEnd layout w).kind = .unfilled := by
  unfold misleadingEnd
  split
  · exact .inr rfl
  · exact .inl rfl

theorem payload_bytes (kind : BytesKind) (hsize : data.length = layout.size) :
    payload layout (.bytes kind data) = .ok data := by
  have hcheck : checkSize layout (.bytes kind data) = .ok () := if_pos hsize
  have hrecord : recordBytes layout (.bytes kind data) = .ok data := if_pos hsize
  rw [payload, hcheck]
  exact hrecord

/-- No record is read from a view: its bytes do not lie in one piece, or they are too many. -/
theorem payload_view {w : View} (hcount : w.items.length = layout.size) :
    payload layout (.view w) = .error (misleadingEnd layout w) := by
  have hcheck : checkSize layout (.view w) = .ok () := if_pos hcount
  have hrecord : recordBytes layout (.view w) = .error (misleadingEnd layout w) := by
    unfold recordBytes misleadingEnd Value.bytes?
    by_cases hsolid : w.isSolid = true
    · have hmany : 1 < w.items.length := by
        rw [hcount]
        cases layout <;> decide
      have hwide : w.content.length ≠ layout.size := by
        have hlength := View.length_items_lt hsolid hmany
        omega
      simp only [if_pos hsolid, if_neg hwide]
    · simp only [if_neg hsolid]
  rw [payload, hcheck]
  exact hrecord

theorem checkSize_kind (herror : checkSize layout v = .error e) : e.kind = .invalidArgument := by
  unfold checkSize at herror
  split at herror
  · cases herror
    rfl
  · split at herror
    · cases herror
    · cases herror
      rfl

/-- A value is a payload of the layout, misleads, or is refused for its type or its size. -/
theorem payload_cases (layout : Layout) (v : Value) :
    (∃ kind data, v = .bytes kind data ∧ data.length = layout.size) ∨ Misleads layout v ∨
      ∃ e, checkSize layout v = .error e := by
  cases hcheck : checkSize layout v with
  | error e => exact .inr (.inr ⟨e, rfl⟩)
  | ok _ =>
    unfold checkSize at hcheck
    split at hcheck
    · cases hcheck
    · rename_i count hcount
      split at hcheck
      · rename_i hsize
        subst hsize
        cases v with
        | bytes kind data => exact .inl ⟨kind, data, rfl, Option.some.inj hcount⟩
        | view w => exact .inr (.inl ⟨w, rfl, Option.some.inj hcount⟩)
        | _ => cases hcount
      · cases hcheck

theorem payload_of_refused (hrefused : checkSize layout v = .error e) :
    payload layout v = .error e := by
  rw [payload, hrefused]
  rfl

theorem payload_eq_ok_iff :
    payload layout v = .ok data ↔ ∃ kind, v = .bytes kind data ∧ data.length = layout.size := by
  constructor
  · intro hpayload
    rcases payload_cases layout v with ⟨kind, found, rfl, hsize⟩ | ⟨w, rfl, hcount⟩ | ⟨e, hrefused⟩
    · rw [payload_bytes kind hsize] at hpayload
      cases hpayload
      exact ⟨kind, rfl, hsize⟩
    · rw [payload_view hcount] at hpayload
      cases hpayload
    · rw [payload_of_refused hrefused] at hpayload
      cases hpayload
  · rintro ⟨kind, rfl, hsize⟩
    exact payload_bytes kind hsize

theorem payload_kind (herror : payload layout v = .error e) (hplain : ¬ Misleads layout v) :
    e.kind = .invalidArgument := by
  rcases payload_cases layout v with ⟨kind, data, rfl, hsize⟩ | hmisleads | ⟨e', hrefused⟩
  · rw [payload_bytes kind hsize] at herror
    cases herror
  · exact absurd hmisleads hplain
  · rw [payload_of_refused hrefused] at herror
    cases herror
    exact checkSize_kind hrefused

/-- A decoder of which every payload has a meaning accepts the payloads of its layout. -/
theorem payload_map_eq_ok_iff {α : Type} {f : Bytes → α} {a : α} :
    (payload layout v).map f = .ok a ↔
      ∃ kind data, v = .bytes kind data ∧ data.length = layout.size ∧ a = f data := by
  constructor
  · intro hdecode
    obtain ⟨data, hpayload, rfl⟩ := exists_of_map_ok hdecode
    obtain ⟨kind, rfl, hsize⟩ := payload_eq_ok_iff.mp hpayload
    exact ⟨kind, data, rfl, hsize, rfl⟩
  · rintro ⟨kind, data, rfl, hsize, rfl⟩
    rw [payload_eq_ok_iff.mpr ⟨kind, rfl, hsize⟩]
    rfl

theorem payload_map_kind {α : Type} {f : Bytes → α} (herror : (payload layout v).map f = .error e)
    (hplain : ¬ Misleads layout v) : e.kind = .invalidArgument := by
  cases hpayload : payload layout v with
  | error e' =>
    rw [hpayload] at herror
    cases herror
    exact payload_kind hpayload hplain
  | ok data =>
    rw [hpayload] at herror
    cases herror

theorem not_misleads_bytes : ¬ Misleads layout (.bytes kind data) := by
  rintro ⟨w, hw, -⟩
  cases hw

/-- What is no byte string is no payload.  It is refused as an argument, unless it misleads. -/
theorem payload_of_other (layout : Layout) (hother : ∀ kind data, v ≠ .bytes kind data) :
    ∃ e, payload layout v = .error e ∧ (e.kind = .invalidArgument ↔ ¬ Misleads layout v) := by
  rcases payload_cases layout v with ⟨kind, data, hv, -⟩ | hmisleads | ⟨e, hrefused⟩
  · exact absurd hv (hother kind data)
  · obtain ⟨w, rfl, hcount⟩ := id hmisleads
    refine ⟨_, payload_view hcount, iff_of_false ?_ fun hplain => hplain hmisleads⟩
    rcases misleadingEnd_kind layout w with hkind | hkind <;> rw [hkind] <;> exact Kind.noConfusion
  · refine ⟨e, payload_of_refused hrefused, iff_of_true (checkSize_kind hrefused) ?_⟩
    rintro ⟨w, rfl, hcount⟩
    have hcheck : checkSize layout (.view w) = .ok () := if_pos hcount
    cases hcheck.symm.trans hrefused

/-- A record depends on how many items there are and on their bytes only, unless a view misleads. -/
theorem payload_of_same {v' : Value} (hsame : v.SameItems v') (hplain : ¬ Misleads layout v)
    (hplain' : ¬ Misleads layout v') : payload layout v = payload layout v' := by
  obtain ⟨held, count, hheld, hheld', hcount, hcount'⟩ := hsame
  have hcheck : checkSize layout v = checkSize layout v' := by
    rw [checkSize, checkSize, hcount, hcount']
  rcases payload_cases layout v with ⟨kind, data, rfl, hsize⟩ | hmisleads | ⟨e, hrefused⟩
  · -- the other one passes as well, so that it is a byte string of the same bytes
    rcases payload_cases layout v' with ⟨kind', data', rfl, hsize'⟩ | hmisleads' | ⟨e, hrefused'⟩
    · cases hheld.trans hheld'.symm
      rw [payload_bytes kind hsize, payload_bytes kind' hsize']
    · exact absurd hmisleads' hplain'
    · have hpass : checkSize layout (.bytes kind data) = .ok () := if_pos hsize
      cases hpass.symm.trans (hcheck.trans hrefused')
  · exact absurd hmisleads hplain
  · rw [payload_of_refused hrefused, payload_of_refused (hcheck.symm.trans hrefused)]

/-! ## §2 Sector index -/

theorem int32OfBytes_int32Bytes {n : Int} (hlow : -2147483648 ≤ n) (hhigh : n ≤ 2147483647) :
    int32OfBytes (int32Bytes n) = n := by
  simp only [int32OfBytes, int32Bytes, List.foldr_cons, List.foldr_nil, Nat.toUInt8,
    UInt8.toNat_ofNat', Int.ofNat_eq_natCast]
  -- the word is put together again, and its sign is that of the upper half
  split <;> omega

namespace Index

theorem encodeInt_eq {n : Int} (hlow : -2147483648 ≤ n) (hhigh : n ≤ 2147483647) :
    encodeInt n = .ok (int32Bytes n) := by
  rw [encodeInt, if_neg (by omega), if_neg (by omega)]

/-- What is encoded has room in its payload. -/
theorem encodeInt_ok {n : Int} {data : Bytes} (hencode : encodeInt n = .ok data) :
    -2147483648 ≤ n ∧ n ≤ 2147483647 ∧ data = int32Bytes n := by
  unfold encodeInt at hencode
  split at hencode
  · cases hencode
  · split at hencode
    · cases hencode
    · cases hencode
      exact ⟨by omega, by omega, rfl⟩

theorem decode_eq_ok_iff {n : Int} :
    decode v = .ok n ↔ ∃ kind data, v = .bytes kind data ∧ data.length = 4 ∧
      n = int32OfBytes data :=
  payload_map_eq_ok_iff

theorem decode_int32Bytes (kind : BytesKind) {n : Int} (hlow : -2147483648 ≤ n)
    (hhigh : n ≤ 2147483647) : decode (.bytes kind (int32Bytes n)) = .ok n :=
  decode_eq_ok_iff.mpr ⟨kind, _, rfl, rfl, (int32OfBytes_int32Bytes hlow hhigh).symm⟩

theorem decode_kind (herror : decode v = .error e) (hplain : ¬ Misleads .sector v) :
    e.kind = .invalidArgument :=
  payload_map_kind herror hplain

end Index

/-! ## §3 Unlock request -/

namespace Unlock

variable {r : Unlock}

/-- A request is made of every sector and every character of a byte. -/
theorem make_char (n : Nat) (k : Key) :
    make (.int n) (.string (String.singleton k.char)) =
      if hn : n < 8 then .ok ⟨⟨n, hn⟩, k⟩ else .error (.unlockSectorRange n) := by
  have hkey : readKey (.string (String.singleton k.char)) = .ok k := by
    simp only [readKey, Value.onlyPoint?_eq_char.mpr rfl, Key.ofPoint?_eq_some.mpr rfl]
  by_cases hn : n < 8
  · have hrange : 0 ≤ (n : Int) ∧ (n : Int) < 8 := by omega
    simp only [make, Sector.ofIndex?, dif_pos hrange, hkey, dif_pos hn, Int.toNat_natCast,
      Except.map]
  · have hrange : ¬(0 ≤ (n : Int) ∧ (n : Int) < 8) := by omega
    simp only [make, Sector.ofIndex?, dif_neg hrange, dif_neg hn]

/-- A request is made of nothing else. -/
theorem eq_of_make {sector key : Value} (hmake : make sector key = .ok r) :
    sector = .int r.sector.val ∧ key = .string (String.singleton r.key.char) := by
  unfold make at hmake
  split at hmake
  · split at hmake
    · rename_i s hs
      obtain ⟨k, hkey, rfl⟩ := exists_of_map_ok hmake
      refine ⟨by rw [Sector.eq_of_ofIndex? hs], ?_⟩
      unfold readKey at hkey
      split at hkey
      · cases hkey
      · rename_i p honly
        split at hkey
        · cases hkey
        · rename_i found hfound
          cases hkey
          rw [Key.ofPoint?_eq_some.mp hfound] at honly
          exact Value.onlyPoint?_eq_char.mp honly
    · cases hmake
  · cases hmake

/-- What four bytes are a request for, the last two of which may hold anything. -/
theorem decode_four (kind : BytesKind) (s k p q : UInt8) :
    decode (.bytes kind [s, k, p, q]) =
      if hs : s.toNat < 8 then .ok ⟨⟨s.toNat, hs⟩, Key.ofByte k⟩
      else .error (.unlockSectorRange s.toNat) := by
  have hpayload : payload .unlock (.bytes kind [s, k, p, q]) = .ok [s, k, p, q] :=
    payload_eq_ok_iff.mpr ⟨kind, rfl, rfl⟩
  unfold decode
  rw [hpayload]
  exact make_char s.toNat (Key.ofByte k)

theorem exists_four (hsize : data.length = 4) : ∃ s k p q, data = [s, k, p, q] := by
  -- all lists but those of four bytes are too short or too long
  rcases data with _ | ⟨s, _ | ⟨k, _ | ⟨p, _ | ⟨q, _ | ⟨_, _⟩⟩⟩⟩⟩
  case cons.cons.cons.cons.nil => exact ⟨s, k, p, q, rfl⟩
  all_goals
    simp only [List.length_cons, List.length_nil] at hsize
    omega

theorem toUInt8_val {b : UInt8} (hb : b.toNat < 8) :
    (⟨b.toNat, hb⟩ : Sector).val.toUInt8 = b :=
  UInt8.ofNat_toNat

theorem toNat_toUInt8_val (s : Sector) : s.val.toUInt8.toNat = s.val := by
  have hs := s.isLt
  exact Nat.mod_eq_of_lt (by omega)

theorem ofByte_byte (k : Key) : Key.ofByte k.byte = k := by
  have hchar := k.char_ofByte_byte
  cases k with
  | mk c hc =>
    unfold Key.ofByte at hchar ⊢
    simp only at hchar
    simp only [hchar]

/-- The payloads of a request are its spellings, whatever the two idle bytes hold. -/
theorem decode_eq_ok_iff :
    decode v = .ok r ↔ ∃ kind p q, v = .bytes kind [r.sector.val.toUInt8, r.key.byte, p, q] := by
  constructor
  · intro hdecode
    obtain ⟨data, hpayload, -⟩ := exists_of_bind_ok hdecode
    obtain ⟨kind, rfl, hsize⟩ := payload_eq_ok_iff.mp hpayload
    obtain ⟨s, k, p, q, rfl⟩ := exists_four hsize
    rw [decode_four] at hdecode
    split at hdecode
    · rename_i hs
      cases hdecode
      exact ⟨kind, p, q, by rw [toUInt8_val hs, Key.byte_ofByte]⟩
    · cases hdecode
  · rintro ⟨kind, p, q, rfl⟩
    have hs : r.sector.val.toUInt8.toNat < 8 := by
      rw [toNat_toUInt8_val]
      exact r.sector.isLt
    have hsector : (⟨r.sector.val.toUInt8.toNat, hs⟩ : Sector) = r.sector :=
      Fin.ext (toNat_toUInt8_val r.sector)
    rw [decode_four, dif_pos hs, hsector, ofByte_byte]

theorem decode_encode (kind : BytesKind) (r : Unlock) : decode (.bytes kind r.encode) = .ok r :=
  decode_eq_ok_iff.mpr ⟨kind, 0, 0, rfl⟩

/-- Without the bytes of a payload there is no request. -/
theorem decode_of_error (hpayload : payload .unlock v = .error e) : decode v = .error e := by
  rw [decode, hpayload]
  rfl

theorem decode_kind (herror : decode v = .error e) (hplain : ¬ Misleads .unlock v) :
    e.kind = .invalidArgument := by
  cases hpayload : payload .unlock v with
  | error e' =>
    rw [decode_of_error hpayload] at herror
    cases herror
    exact payload_kind hpayload hplain
  | ok data =>
    obtain ⟨kind, rfl, hsize⟩ := payload_eq_ok_iff.mp hpayload
    obtain ⟨s, k, p, q, rfl⟩ := exists_four hsize
    rw [decode_four] at herror
    split at herror
    · cases herror
    · cases herror
      rfl

end Unlock

/-! ## §4 Protection of all sectors -/

namespace Protection

theorem decode_eq_ok_iff {flags : List Bool} :
    decode v = .ok flags ↔ ∃ kind data, v = .bytes kind data ∧ data.length = 8 ∧
      flags = data.map (· != 0) :=
  payload_map_eq_ok_iff

theorem decode_flagBytes {flags : List Bool} (hsize : flags.length = 8) :
    decode (.bytes kind (flagBytes flags)) = .ok flags := by
  have hlength : (flagBytes flags).length = 8 := by rw [flagBytes, List.length_map, hsize]
  have hflag (b : Bool) : ((if b then 1 else 0 : UInt8) != 0) = b := by cases b <;> rfl
  refine decode_eq_ok_iff.mpr ⟨kind, _, rfl, hlength, ?_⟩
  simp only [flagBytes, List.map_map, Function.comp_def, hflag, List.map_id']

theorem decode_kind (herror : decode v = .error e) (hplain : ¬ Misleads .lockInfo v) :
    e.kind = .invalidArgument :=
  payload_map_kind herror hplain

end Protection

/-! ## §5 Path of a backup file -/

namespace Path

variable {p : String} {raw : Bytes}

/-- Bytes, and zeros behind them up to the size of a payload. -/
def filled (raw : Bytes) : Bytes :=
  raw ++ List.replicate (Layout.backupPath.size - raw.length) 0

/-- The payload of a path. -/
def padded (p : String) : Bytes :=
  Text.Utf8.encode p ++ List.replicate (Layout.backupPath.size - (Text.Utf8.encode p).length) 0

/-- Only bytes that their payload has room for are encoded. -/
theorem encodeBytes_eq_ok_iff :
    encodeBytes raw = .ok data ↔ (0 ∉ raw ∧ raw.length < 256) ∧ data = filled raw := by
  have hcontains : raw.contains 0 = true ↔ 0 ∈ raw := by simp
  have hsize : Layout.backupPath.size ≤ raw.length ↔ ¬ raw.length < 256 := Nat.not_lt.symm
  unfold encodeBytes
  rw [ite_cond_congr (propext hcontains), ite_cond_congr (propext hsize)]
  by_cases hnul : 0 ∈ raw
  · simp [hnul]
  · by_cases hshort : raw.length < 256 <;> simp [hnul, hshort, filled, eq_comm]

theorem encodeBytes_kind (herror : encodeBytes raw = .error e) : e.kind = .invalidArgument := by
  unfold encodeBytes at herror
  split at herror
  · cases herror
    rfl
  · split at herror
    · cases herror
      rfl
    · cases herror

/-- Only a path that its payload has room for is encoded. -/
theorem encode_ok {data : Bytes} (hencode : encode (.string p) = .ok data) :
    0 ∉ Text.Utf8.encode p ∧ (Text.Utf8.encode p).length < 256 ∧ data = padded p :=
  and_assoc.mp (encodeBytes_eq_ok_iff.mp hencode)

theorem encode_eq (hnul : 0 ∉ Text.Utf8.encode p) (hshort : (Text.Utf8.encode p).length < 256) :
    encode (.string p) = .ok (padded p) :=
  encodeBytes_eq_ok_iff.mpr ⟨⟨hnul, hshort⟩, rfl⟩

theorem text_eq (data : Bytes) :
    text data =
      if 0 ∈ data then
        (Text.Utf8.decode (data.takeWhile (· ≠ 0))).mapError Failure.pathMalformed
      else .error .pathUnterminated := by
  have hcontains : data.contains 0 = true ↔ 0 ∈ data := by simp
  unfold text
  rw [ite_cond_congr (propext hcontains)]
  cases Text.Utf8.decode (data.takeWhile (· ≠ 0)) <;> rfl

/-- What a payload of the right size is read as.  The size counts items, and the text is spelled by
the bytes. -/
theorem decode_of_held (hcount : v.itemCount? = some 256) (hheld : v.held? = some data) :
    decode v = text data := by
  have hcheck : checkSize .backupPath v = .ok () := by
    rw [checkSize, hcount]
    rfl
  rw [decode, hcheck, hheld]
  rfl

/-- A value has the size of the payload of a path, or is refused for want of it. -/
theorem sized_or_refused (v : Value) :
    (∃ data, v.itemCount? = some 256 ∧ v.held? = some data) ∨
      ∃ e, decode v = .error e ∧ e.kind = .invalidArgument := by
  cases hcheck : checkSize .backupPath v with
  | error e => exact .inr ⟨e, by rw [decode, hcheck]; rfl, checkSize_kind hcheck⟩
  | ok _ =>
    unfold checkSize at hcheck
    split at hcheck
    · cases hcheck
    · rename_i count hcount
      split at hcheck
      · rename_i hsize
        have hheld : v.held?.isSome = true := by
          rw [v.held?_isSome, hcount]
          rfl
        obtain ⟨data, hdata⟩ := Option.isSome_iff_exists.mp hheld
        exact .inl ⟨data, by rw [hcount, hsize]; rfl, hdata⟩
      · cases hcheck

theorem decode_eq_ok_iff :
    decode v = .ok p ↔ ∃ data, v.itemCount? = some 256 ∧ v.held? = some data ∧ 0 ∈ data ∧
      data.takeWhile (· ≠ 0) = Text.Utf8.encode p := by
  constructor
  · intro hdecode
    rcases sized_or_refused v with ⟨data, hcount, hheld⟩ | ⟨e, hrefused, -⟩
    · rw [decode_of_held hcount hheld, text_eq] at hdecode
      split at hdecode
      · rename_i hnul
        cases hread : Text.Utf8.decode (data.takeWhile (· ≠ 0)) with
        | error defect =>
          rw [hread] at hdecode
          cases hdecode
        | ok text =>
          rw [hread] at hdecode
          cases hdecode
          exact ⟨data, hcount, hheld, hnul, Text.Utf8.decode_eq_ok_iff.mp hread⟩
      · cases hdecode
    · rw [hrefused] at hdecode
      cases hdecode
  · rintro ⟨data, hcount, hheld, hnul, htext⟩
    rw [decode_of_held hcount hheld, text_eq, if_pos hnul, Text.Utf8.decode_eq_ok_iff.mpr htext]
    rfl

/-- A path depends on how many items there are and on their bytes only. -/
theorem decode_of_same {v' : Value} (hsame : v.SameItems v') : decode v = decode v' := by
  obtain ⟨held, count, hheld, hheld', hcount, hcount'⟩ := hsame
  rw [decode, decode, checkSize, checkSize, hheld, hheld', hcount, hcount']

/-- A byte string of the right size is read by its bytes. -/
theorem decode_bytes (kind : BytesKind) (hsize : data.length = 256) :
    decode (.bytes kind data) =
      if 0 ∈ data then
        (Text.Utf8.decode (data.takeWhile (· ≠ 0))).mapError Failure.pathMalformed
      else .error .pathUnterminated := by
  have hcount : (Value.bytes kind data).itemCount? = some 256 := congrArg some hsize
  rw [decode_of_held hcount rfl, text_eq]

theorem length_filled (hshort : raw.length < 256) : (filled raw).length = 256 := by
  rw [filled, List.length_append, List.length_replicate, Layout.size]
  omega

theorem exists_filled_eq (hshort : raw.length < 256) :
    ∃ m, filled raw = raw ++ 0 :: List.replicate m 0 := by
  obtain ⟨m, hm⟩ := Nat.exists_eq_add_of_lt hshort
  have hzeros : Layout.backupPath.size - raw.length = m + 1 := by
    rw [Layout.size, hm]
    omega
  exact ⟨m, by rw [filled, hzeros, List.replicate_succ]⟩

theorem zero_mem_filled (hshort : raw.length < 256) : 0 ∈ filled raw := by
  obtain ⟨m, hfilled⟩ := exists_filled_eq hshort
  rw [hfilled]
  exact List.mem_append_right _ List.mem_cons_self

/-- What stands before the first of several bytes that is zero. -/
theorem takeWhile_append_zero (hnul : 0 ∉ raw) (rest : Bytes) :
    (raw ++ 0 :: rest).takeWhile (· ≠ 0) = raw := by
  have hraw : ∀ b ∈ raw, decide (b ≠ 0) = true := by
    intro b hb
    rw [decide_eq_true_eq]
    rintro rfl
    exact hnul hb
  rw [List.takeWhile_append_of_pos hraw]
  simp only [ne_eq, not_true_eq_false, decide_false, List.takeWhile_cons, Bool.false_eq_true,
    if_false, List.append_nil]

theorem takeWhile_filled (hnul : 0 ∉ raw) (hshort : raw.length < 256) :
    (filled raw).takeWhile (· ≠ 0) = raw := by
  obtain ⟨m, hfilled⟩ := exists_filled_eq hshort
  rw [hfilled, takeWhile_append_zero hnul]

/-- Encoded bytes are read as the text that they spell, if they spell one. -/
theorem decode_filled (kind : BytesKind) (hnul : 0 ∉ raw) (hshort : raw.length < 256) :
    decode (.bytes kind (filled raw)) = (Text.Utf8.decode raw).mapError Failure.pathMalformed := by
  rw [decode_bytes kind (length_filled hshort), if_pos (zero_mem_filled hshort),
    takeWhile_filled hnul hshort]

theorem decode_padded (kind : BytesKind) (hnul : 0 ∉ Text.Utf8.encode p)
    (hshort : (Text.Utf8.encode p).length < 256) : decode (.bytes kind (padded p)) = .ok p := by
  have hread := decode_filled kind hnul hshort
  rw [Text.Utf8.decode_encode] at hread
  exact hread

theorem decode_kind (herror : decode v = .error e) : e.kind = .invalidArgument := by
  rcases sized_or_refused v with ⟨data, hcount, hheld⟩ | ⟨e', hrefused, hkind⟩
  · rw [decode_of_held hcount hheld, text_eq] at herror
    split at herror
    · cases hread : Text.Utf8.decode (data.takeWhile (· ≠ 0)) with
      | error defect =>
        rw [hread] at herror
        cases herror
        rfl
      | ok text =>
        rw [hread] at herror
        cases herror
    · cases herror
      rfl
  · rw [hrefused] at herror
    cases herror
    exact hkind

end Path

end SectorDisk.Packet
