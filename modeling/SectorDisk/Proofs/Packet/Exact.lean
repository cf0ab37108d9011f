import Mathlib.Data.Nat.Digits.Lemmas
import SectorDisk.Proofs.Packet

/-!
# Payloads, exactly

A payload is made just of what it has room for, and read just if it could have been made but for
bytes that do not count: the idle bytes of an unlock request, and what stands behind the first zero
of a path.  Writing what was read puts zeros there.  Everything else is refused as an argument, with
two exceptions that fail raw: a text with a lone half as a path, and a view that misleads as a
record.

Texts have the bytes that strings are made of, and are read where these are valid UTF-8.

The payloads of sector indices are all words of 32 bits, in two's complement with the least
significant byte first, and those of the protection are all bytes for eight sectors, where any byte
but zero is a protected sector.
-/

namespace SectorDisk.Packet

/-! ## §1 Unlock requests -/

namespace Unlock

variable {sector key : Value} {e : Failure}

/-- A sector and a key that a request can be made of, among values of any type. -/
def Askable (sector key : Value) : Prop :=
  (∃ n : Int, sector = .int n ∧ 0 ≤ n ∧ n < 8) ∧
    ∃ c : Char, key = .string (String.singleton c) ∧ c.toNat ≤ 255

theorem readKey_kind (herror : readKey key = .error e) : e.kind = .invalidArgument := by
  unfold readKey at herror
  split at herror
  · cases herror
    rfl
  · split at herror
    · cases herror
      rfl
    · cases herror

theorem make_kind (herror : make sector key = .error e) : e.kind = .invalidArgument := by
  unfold make at herror
  split at herror
  · split at herror
    · -- the sector is fine, so it is the key that is refused
      cases hkey : readKey key with
      | ok k =>
        rw [hkey] at herror
        cases herror
      | error why =>
        rw [hkey] at herror
        cases herror
        exact readKey_kind hkey
    · cases herror
      rfl
  · cases herror
    rfl

theorem make_exact (sector key : Value) :
    Exact (make sector key) (Askable sector key) fun r =>
      sector = .int r.sector.val ∧ key = .string (String.singleton r.key.char) := by
  apply Exact.intro
  · intro r hmake
    obtain ⟨rfl, rfl⟩ := eq_of_make hmake
    have hsector := r.sector.isLt
    have hkey := r.key.narrow
    exact ⟨⟨⟨_, rfl, by omega, by omega⟩, _, rfl, by omega⟩, rfl, rfl⟩
  · intro e herror
    refine ⟨?_, make_kind herror⟩
    rintro ⟨⟨n, rfl, hlow, hhigh⟩, c, rfl, hc⟩
    -- such a sector and such a key make a request, which is the one of `make_char`
    have hmake := make_char n.toNat ⟨c, by omega⟩
    rw [Int.toNat_of_nonneg hlow, dif_pos (by omega)] at hmake
    cases hmake.symm.trans herror

theorem decode_exact (kind : BytesKind) (q : Bytes) :
    Exact (decode (.bytes kind q)) (q.length = 4 ∧ ∃ s, q.head? = some s ∧ s.toNat < 8) fun r =>
      q.head? = some r.sector.val.toUInt8 ∧ r.encode = q.take 2 ++ [0, 0] := by
  apply Exact.intro
  · intro r hdecode
    obtain ⟨kind', x, y, hq⟩ := decode_eq_ok_iff.mp hdecode
    cases hq
    have hsector : r.sector.val.toUInt8.toNat < 8 := by
      rw [toNat_toUInt8_val]
      exact r.sector.isLt
    exact ⟨⟨rfl, _, rfl, hsector⟩, rfl, rfl⟩
  · intro e herror
    refine ⟨?_, decode_kind herror not_misleads_bytes⟩
    rintro ⟨hsize, s, hhead, hs⟩
    -- the sector is in the first byte, and any byte is a key
    obtain ⟨first, k, x, y, rfl⟩ := exists_four hsize
    cases hhead
    rw [decode_four, dif_pos hs] at herror
    cases herror

/-- **Unlock requests.**  A request is made just of an integer from 0 to 7, which is no truth value,
and a text of one character that fits a byte, and keeps both.  Its payload has four bytes, the last
two of them zero, and is read as the same request.  A byte string is read as a request just if it
has four bytes and the first is below 8; that byte is the sector as it is, with no bit cut off, and
writing the request gives the same bytes with zeros for the last two.  Nothing else is read, and all
that is not read is refused as an argument but for the views that mislead by having four items. -/
theorem request_exact (sector key v : Value) (r : Unlock) (kind : BytesKind) (q : Bytes) :
    (Exact (make sector key) (Askable sector key) fun r =>
        sector = .int r.sector.val ∧ key = .string (String.singleton r.key.char)) ∧
      (r.encode.length = 4 ∧ r.encode.drop 2 = [0, 0] ∧ decode (.bytes kind r.encode) = .ok r) ∧
      (Exact (decode (.bytes kind q)) (q.length = 4 ∧ ∃ s, q.head? = some s ∧ s.toNat < 8) fun r =>
          (∀ s, q.head? = some s → r.sector.val = s.toNat) ∧ r.encode = q.take 2 ++ [0, 0]) ∧
      ((∀ kind q, v ≠ .bytes kind q) →
        ∃ e, decode v = .error e ∧ (e.kind = .invalidArgument ↔ ¬ Misleads .unlock v)) := by
  refine ⟨make_exact sector key, ⟨rfl, rfl, decode_encode kind r⟩, ?payload, fun hother => ?other⟩
  case payload =>
    have hexact := decode_exact kind q
    refine ⟨fun haccepted => ?_, hexact.refused⟩
    obtain ⟨r, hr, hhead, hencode⟩ := hexact.given haccepted
    refine ⟨r, hr, fun s hs => ?_, hencode⟩
    cases hhead.symm.trans hs
    exact (toNat_toUInt8_val r.sector).symm
  case other =>
    obtain ⟨e, hrefused, hkind⟩ := payload_of_other .unlock hother
    exact ⟨e, decode_of_error hrefused, hkind⟩

/-- The idle bytes of a request are not kept. -/
example : (decode (.octets [7, 233, 1, 2])).toOption.map encode = some [7, 233, 0, 0] := by decide

/-- That whatever is not read is refused as an argument is too much to say. -/
theorem not_request_refused :
    ¬ ∀ (v : Value) (e : Failure), decode v = .error e → e.kind = .invalidArgument := by
  intro hrefused
  have hpayload : payload .unlock (.view (.spacedZeros 4)) = .error .payloadSpaced :=
    payload_view rfl
  exact absurd (hrefused _ _ (decode_of_error hpayload)) (by decide)

end Unlock

/-! ## §2 Paths of backup files -/

namespace Path

variable {kind : BytesKind} {p s : String} {q raw rest data : Bytes}

/-- The bytes are those before a first zero, that zero, and the rest. -/
structure Splits (q raw rest : Bytes) : Prop where
  eq : q = raw ++ 0 :: rest
  first : 0 ∉ raw

theorem exists_splits (hnul : 0 ∈ q) : ∃ raw rest, Splits q raw rest := by
  obtain ⟨raw, rest, rfl, hfirst⟩ := List.eq_append_cons_of_mem hnul
  exact ⟨raw, rest, rfl, hfirst⟩

theorem Splits.takeWhile_eq (hsplits : Splits q raw rest) : q.takeWhile (· ≠ 0) = raw := by
  rw [hsplits.eq, takeWhile_append_zero hsplits.first]

theorem Splits.length_lt (hsplits : Splits q raw rest) (hsize : q.length = 256) :
    raw.length < 256 := by
  rw [hsplits.eq, List.length_append, List.length_cons] at hsize
  omega

/-- A payload is the one of the bytes before its first zero just if only zeros follow. -/
theorem Splits.eq_filled_iff (hsplits : Splits q raw rest) (hsize : q.length = 256) :
    q = filled raw ↔ ∀ b ∈ rest, b = 0 := by
  obtain ⟨m, hfilled⟩ := exists_filled_eq (hsplits.length_lt hsize)
  -- both are as long as a payload, so that there are as many zeros as bytes to follow
  have hlength : rest.length = m := by
    have hfull := length_filled (hsplits.length_lt hsize)
    rw [hsplits.eq] at hsize
    rw [hfilled] at hfull
    simp only [List.length_append, List.length_cons, List.length_replicate] at hsize hfull
    omega
  rw [hsplits.eq, hfilled, List.append_cancel_left_eq, List.cons.injEq, List.eq_replicate_iff]
  simp [hlength]

theorem zero_mem_encode_iff : 0 ∈ Text.Utf8.encode p ↔ '\x00' ∈ p.toList := by
  have hzero (c : Char) : c.toNat = 0 ↔ c = '\x00' := by
    rw [← Char.toNat_inj]
    rfl
  simp only [Text.Utf8.zero_mem_encode, hzero, exists_eq_right]

/-- What is encoded is what there is room for. -/
theorem encodeBytes_exact (raw : Bytes) :
    Exact (encodeBytes raw) (0 ∉ raw ∧ raw.length ≤ 255) fun data => data = filled raw := by
  apply Exact.intro
  · intro data hdata
    obtain ⟨⟨hnul, hshort⟩, rfl⟩ := encodeBytes_eq_ok_iff.mp hdata
    exact ⟨⟨hnul, by omega⟩, rfl⟩
  · intro e herror
    refine ⟨?_, encodeBytes_kind herror⟩
    rintro ⟨hnul, hshort⟩
    cases (encodeBytes_eq_ok_iff.mpr ⟨⟨hnul, by omega⟩, rfl⟩).symm.trans herror

/-- What is decoded is what begins with valid UTF-8 and a zero behind it. -/
theorem decode_exact (kind : BytesKind) (q : Bytes) :
    Exact (decode (.bytes kind q))
      (q.length = 256 ∧ ∃ raw rest, Splits q raw rest ∧ raw.toByteArray.IsValidUTF8) fun s =>
        ∀ raw rest, Splits q raw rest → raw = Text.Utf8.encode s := by
  apply Exact.intro
  · intro s hdecode
    obtain ⟨q', hcount, hheld, hnul, htext⟩ := decode_eq_ok_iff.mp hdecode
    cases hheld
    have hsize : q.length = 256 := Option.some.inj hcount
    have hraw {raw rest} (hsplits : Splits q raw rest) : raw = Text.Utf8.encode s :=
      hsplits.takeWhile_eq.symm.trans htext
    obtain ⟨raw, rest, hsplits⟩ := exists_splits hnul
    have hvalid : raw.toByteArray.IsValidUTF8 :=
      Text.Utf8.exists_decode_iff.mp ⟨s, Text.Utf8.decode_eq_ok_iff.mpr (hraw hsplits)⟩
    exact ⟨⟨hsize, raw, rest, hsplits, hvalid⟩, fun _ _ => hraw⟩
  · intro e herror
    refine ⟨?_, decode_kind herror⟩
    rintro ⟨hsize, raw, rest, hsplits, hvalid⟩
    obtain ⟨s, hs⟩ := Text.Utf8.exists_decode_iff.mpr hvalid
    have hnul : 0 ∈ q := by
      rw [hsplits.eq]
      exact List.mem_append_right _ List.mem_cons_self
    rw [decode_bytes kind hsize, if_pos hnul, hsplits.takeWhile_eq, hs] at herror
    cases herror

/-- **Paths of backup files.**  A text is encoded just if it has no zero character and at most 255
bytes; its payload has 256 and is read as that text again, so that no two texts share one.  A torn
text has no bytes and fails for that, in a way of its own and not as an argument.  A byte
string is encoded under the same conditions, and what is encoded is read just if it is valid UTF-8,
as the text with these bytes.  In general a byte string is read just if it has 256 bytes, a zero
among them, and valid UTF-8 before the first.  Writing the text that was read puts zeros behind
those bytes, which gives the same payload just if there were zeros only. -/
theorem path_exact (p p' : String) (t : Text.Torn) (kind : BytesKind) (raw q : Bytes) :
    (Exact (encode (.string p)) ('\x00' ∉ p.toList ∧ p.utf8ByteSize ≤ 255) fun data =>
        data.length = 256 ∧ ∀ kind, decode (.bytes kind data) = .ok p) ∧
      encode (.torn t) = .error (.unwritable t.unwritable) ∧
      (Exact (encode (.bytes kind raw)) (0 ∉ raw ∧ raw.length ≤ 255) fun data =>
        data.length = 256 ∧
          ∀ kind', Exact (decode (.bytes kind' data)) raw.toByteArray.IsValidUTF8 fun s =>
            s.toByteArray = raw.toByteArray) ∧
      (Exact (decode (.bytes kind q))
        (q.length = 256 ∧ ∃ raw rest, Splits q raw rest ∧ raw.toByteArray.IsValidUTF8) fun s =>
          ∀ raw rest, Splits q raw rest →
            s.toByteArray = raw.toByteArray ∧ encode (.string s) = .ok (filled raw) ∧
              (encode (.string s) = .ok q ↔ ∀ b ∈ rest, b = 0)) ∧
      ∀ data, encode (.string p) = .ok data → encode (.string p') = .ok data → p = p' := by
  refine ⟨?text, rfl, ?bytes, ?payload, ?distinct⟩
  case text =>
    have hexact := encodeBytes_exact (Text.Utf8.encode p)
    rw [zero_mem_encode_iff, Text.Utf8.length_encode] at hexact
    refine ⟨fun haccepted => ?_, hexact.refused⟩
    obtain ⟨data, hdata, -⟩ := hexact.given haccepted
    obtain ⟨hnul, hshort, rfl⟩ := encode_ok hdata
    exact ⟨_, hdata, length_filled hshort, fun kind => decode_padded kind hnul hshort⟩
  case bytes =>
    have hexact := encodeBytes_exact raw
    refine ⟨fun haccepted => ?_, hexact.refused⟩
    obtain ⟨data, hdata, rfl⟩ := hexact.given haccepted
    obtain ⟨hnul, hroom⟩ := haccepted
    have hshort : raw.length < 256 := by omega
    have hlength := length_filled hshort
    refine ⟨_, hdata, hlength, fun kind' => ?_⟩
    -- the payload splits behind the given bytes, and nowhere else
    obtain ⟨m, hfilled⟩ := exists_filled_eq hshort
    have hsplits : Splits (filled raw) raw (List.replicate m 0) := ⟨hfilled, hnul⟩
    have hread := decode_exact kind' (filled raw)
    refine ⟨fun hvalid => ?_, fun hinvalid => hread.refused ?_⟩
    · obtain ⟨s, hs, hraw⟩ := hread.given ⟨hlength, raw, _, hsplits, hvalid⟩
      exact ⟨s, hs, Text.Utf8.eq_encode_iff.mp (hraw raw _ hsplits)⟩
    · rintro ⟨-, raw', rest', hsplits', hvalid⟩
      rw [← hsplits'.takeWhile_eq, hsplits.takeWhile_eq] at hvalid
      exact hinvalid hvalid
  case payload =>
    have hexact := decode_exact kind q
    refine ⟨fun haccepted => ?_, hexact.refused⟩
    obtain ⟨s, hs, hraw⟩ := hexact.given haccepted
    refine ⟨s, hs, fun raw rest hsplits => ?_⟩
    obtain rfl := hraw raw rest hsplits
    have hencode := encode_eq hsplits.first (hsplits.length_lt haccepted.1)
    refine ⟨Text.Utf8.eq_encode_iff.mp rfl, hencode, ?_⟩
    rw [hencode, Except.ok.injEq, eq_comm]
    exact hsplits.eq_filled_iff haccepted.1
  case distinct =>
    intro data hp hp'
    obtain ⟨hnul, hshort, rfl⟩ := encode_ok hp
    obtain ⟨hnul', hshort', hsame⟩ := encode_ok hp'
    have hread := decode_padded .fixed hnul hshort
    rw [hsame, decode_padded .fixed hnul' hshort'] at hread
    exact (Except.ok.inj hread).symm

/-- That every text that is not encoded is refused as an argument is too much to say. -/
theorem not_path_refused :
    ¬ ∀ (v : Value) (e : Failure), v.points?.isSome = true → encode v = .error e →
      e.kind = .invalidArgument := by
  intro hrefused
  have hencode : encode (.torn ⟨[], ⟨0⟩, []⟩) = .error (.unwritable ⟨0, ⟨0⟩, 0⟩) := rfl
  exact absurd (hrefused _ _ rfl hencode) (by decide)

end Path

/-! ## §3 Sector indices -/

namespace Index

variable {v : Value} {n : Int} {q q' data : Bytes} {e : Failure}

/-- The number that bytes spell to the base 256, least significant byte first. -/
def spelled (data : Bytes) : Nat :=
  Nat.ofDigits 256 (data.map UInt8.toNat)

/-- The word of 32 bits that bytes spell. -/
def word (data : Bytes) : BitVec 32 :=
  BitVec.ofNat 32 (spelled data)

theorem spelled_cons (b : UInt8) (data : Bytes) :
    spelled (b :: data) = b.toNat + 256 * spelled data := by
  rw [spelled, List.map_cons, Nat.ofDigits_cons]
  rfl

theorem foldr_eq_spelled (data : Bytes) :
    data.foldr (fun b n => b.toNat + 256 * n) 0 = spelled data := by
  induction data with
  | nil => rfl
  | cons b rest ih => rw [List.foldr_cons, ih, spelled_cons]

theorem digits_lt (data : Bytes) : ∀ d ∈ data.map UInt8.toNat, d < 256 := by
  intro d hd
  obtain ⟨b, -, rfl⟩ := List.mem_map.mp hd
  exact b.toNat_lt

theorem toNat_word (hsize : q.length = 4) : (word q).toNat = spelled q := by
  have hlt : spelled q < 256 ^ (q.map UInt8.toNat).length :=
    Nat.ofDigits_lt_base_pow_length (by decide) (digits_lt q)
  rw [List.length_map, hsize] at hlt
  exact Nat.mod_eq_of_lt hlt

/-- Four bytes are all that a word has. -/
theorem eq_of_word_eq (hsize : q.length = 4) (hsize' : q'.length = 4) (hword : word q = word q') :
    q = q' := by
  have hspelled : spelled q = spelled q' := by
    rw [← toNat_word hsize, hword, toNat_word hsize']
  have hlength : (q.map UInt8.toNat).length = (q'.map UInt8.toNat).length := by
    rw [List.length_map, List.length_map, hsize, hsize']
  have hdigits : q.map UInt8.toNat = q'.map UInt8.toNat :=
    Nat.ofDigits_inj_of_len_eq (by decide) hlength (digits_lt q) (digits_lt q') hspelled
  exact List.map_injective_iff.mpr (fun _ _ => UInt8.toNat_inj.mp) hdigits

theorem word_int32Bytes (n : Int) : word (int32Bytes n) = BitVec.ofInt 32 n := by
  have hnone : spelled [] = 0 := rfl
  apply BitVec.eq_of_toNat_eq
  rw [toNat_word rfl, BitVec.toNat_ofInt]
  simp only [int32Bytes, spelled_cons, hnone, Nat.toUInt8, UInt8.toNat_ofNat']
  omega

theorem int32OfBytes_eq (hsize : q.length = 4) : int32OfBytes q = (word q).toInt := by
  rw [BitVec.toInt_eq_toNat_cond, toNat_word hsize]
  unfold int32OfBytes
  rw [foldr_eq_spelled]
  dsimp only
  -- the sign is that of the upper half
  by_cases hsign : spelled q < 2147483648
  · rw [if_pos hsign, if_pos (by omega)]
    rfl
  · rw [if_neg hsign, if_neg (by omega)]
    rfl

theorem int32Bytes_int32OfBytes (hsize : q.length = 4) : int32Bytes (int32OfBytes q) = q := by
  apply eq_of_word_eq rfl hsize
  rw [word_int32Bytes, int32OfBytes_eq hsize, BitVec.ofInt_toInt]

/-- The argument is the integer; truth values are the integers 0 and 1. -/
def IsInteger (v : Value) (n : Int) : Prop :=
  ∃ m : Number, v = .number m ∧ m.toInt? = some n

theorem IsInteger.encode_eq (hinteger : IsInteger v n) : encode v = encodeInt n := by
  obtain ⟨m, rfl, hm⟩ := hinteger
  cases m with
  | int i =>
    cases hm
    rfl
  | flag b =>
    cases hm
    rfl
  | real x => cases hm

theorem IsInteger.unique {m : Int} (hn : IsInteger v n) (hm : IsInteger v m) : n = m := by
  obtain ⟨i, rfl, hi⟩ := hn
  obtain ⟨j, hj, hjm⟩ := hm
  cases hj
  exact Option.some.inj (hi.symm.trans hjm)

theorem isInteger_or (v : Value) :
    (∃ n, IsInteger v n) ∨ encode v = .error (.sectorUnencodable .notInteger) := by
  cases v with
  | number m =>
    cases m with
    | int i => exact .inl ⟨i, _, rfl, rfl⟩
    | flag b => exact .inl ⟨_, _, rfl, rfl⟩
    | real x => exact .inr rfl
  | _ => exact .inr rfl

theorem encodeInt_kind (herror : encodeInt n = .error e) : e.kind = .invalidArgument := by
  unfold encodeInt at herror
  split at herror
  · cases herror
    rfl
  · split at herror
    · cases herror
      rfl
    · cases herror

theorem encode_exact (v : Value) :
    Exact (encode v) (∃ n, IsInteger v n ∧ -2147483648 ≤ n ∧ n < 2147483648) fun data =>
      ∀ n, IsInteger v n → -2147483648 ≤ n ∧ n ≤ 2147483647 ∧ data = int32Bytes n := by
  apply Exact.intro
  · intro data hdata
    have hroom : ∀ n, IsInteger v n → -2147483648 ≤ n ∧ n ≤ 2147483647 ∧ data = int32Bytes n :=
      fun n hn => encodeInt_ok (hn.encode_eq.symm.trans hdata)
    rcases isInteger_or v with ⟨n, hn⟩ | hnone
    · obtain ⟨hlow, hhigh, -⟩ := hroom n hn
      exact ⟨⟨n, hn, hlow, by omega⟩, hroom⟩
    · cases hnone.symm.trans hdata
  · intro e herror
    constructor
    · rintro ⟨n, hn, hlow, hhigh⟩
      rw [hn.encode_eq, encodeInt_eq hlow (by omega)] at herror
      cases herror
    · rcases isInteger_or v with ⟨n, hn⟩ | hnone
      · exact encodeInt_kind (hn.encode_eq.symm.trans herror)
      · cases hnone.symm.trans herror
        rfl

/-- Every word is the payload of its value. -/
theorem decode_exact (kind : BytesKind) (q : Bytes) :
    Exact (decode (.bytes kind q)) (q.length = 4) fun n =>
      n = (word q).toInt ∧ encode (.int n) = .ok q := by
  apply Exact.intro
  · intro n hdecode
    obtain ⟨kind', q', hq, hsize, rfl⟩ := decode_eq_ok_iff.mp hdecode
    cases hq
    have hword := int32OfBytes_eq hsize
    have hlow : -2147483648 ≤ int32OfBytes q := hword ▸ (word q).le_toInt
    have hhigh : int32OfBytes q < 2147483648 := hword ▸ (word q).toInt_lt
    refine ⟨hsize, hword, ?_⟩
    rw [encode, encodeInt_eq hlow (by omega), int32Bytes_int32OfBytes hsize]
  · intro e herror
    refine ⟨fun hsize => ?_, decode_kind herror not_misleads_bytes⟩
    cases (decode_eq_ok_iff.mpr ⟨kind, q, rfl, hsize, rfl⟩).symm.trans herror

end Index

/-! ## §4 Protection of all sectors -/

namespace Protection

theorem encode_exact (items : List Value) :
    Exact (encode (.list items)) (items.length = 8) fun data =>
      data = flagBytes (items.map Value.isTrue) := by
  by_cases hsize : items.length = 8
  · have hencode : encode (.list items) = .ok (flagBytes (items.map Value.isTrue)) := if_pos hsize
    exact ⟨fun _ => ⟨_, hencode, rfl⟩, fun hno => absurd hsize hno⟩
  · have hencode : encode (.list items) = .error (.bitmapSize items.length) := if_neg hsize
    exact ⟨fun hyes => absurd hyes hsize, fun _ => ⟨_, hencode, rfl⟩⟩

/-- Reading a payload and writing it again leaves nothing of a byte but whether it is zero. -/
theorem decode_exact (kind : BytesKind) (q : Bytes) :
    Exact (decode (.bytes kind q)) (q.length = 8) fun flags =>
      encode (.list (flags.map Value.bool)) = .ok (q.map fun b => if b = 0 then 0 else 1) := by
  apply Exact.intro
  · intro flags hdecode
    obtain ⟨kind', q', hq, hsize, rfl⟩ := decode_eq_ok_iff.mp hdecode
    cases hq
    have hlength : ((q.map (· != 0)).map Value.bool).length = 8 := by
      rw [List.length_map, List.length_map, hsize]
    obtain ⟨data, hdata, rfl⟩ := (encode_exact _).given hlength
    refine ⟨hsize, hdata.trans (congrArg Except.ok ?_)⟩
    rw [flagBytes, List.map_map, List.map_map, List.map_map]
    refine List.map_congr_left fun b _ => ?_
    by_cases hb : b = 0 <;> simp [Value.isTrue, Number.isTrue, hb]
  · intro e herror
    refine ⟨fun hsize => ?_, decode_kind herror not_misleads_bytes⟩
    cases (decode_eq_ok_iff.mpr ⟨kind, q, rfl, hsize, rfl⟩).symm.trans herror

end Protection

/-- **Sector indices and the protection.**  An integer is encoded as a sector index just if it lies
in the range of 32 bits with sign; its payload has four bytes, which are its word in two's
complement with the least significant byte first, and is read as that integer.  Nothing else is
encoded.  A byte string is read as an index just if it has four bytes, and writing the index gives
the same bytes.  A list of values of any types is encoded as the protection of all sectors just if
it has eight of them, and its payload is read as their truth values.  A byte string is read as the
protection just if it has eight bytes, and writing it puts a one for every byte but zero.  Nothing
else is read, and all that is not read is refused as an argument but for the views that mislead by
the number of their items. -/
theorem index_and_protection_exact (v : Value) (items : List Value) (kind : BytesKind)
    (q : Bytes) :
    (Exact (Index.encode v)
        (∃ n, Index.IsInteger v n ∧ -2147483648 ≤ n ∧ n < 2147483648) fun data =>
          data.length = 4 ∧ ∀ n, Index.IsInteger v n →
            Index.word data = BitVec.ofInt 32 n ∧
              ∀ kind, Index.decode (.bytes kind data) = .ok n) ∧
      (Exact (Index.decode (.bytes kind q)) (q.length = 4) fun n =>
          n = (Index.word q).toInt ∧ Index.encode (.int n) = .ok q) ∧
      ((∀ kind q, v ≠ .bytes kind q) →
        ∃ e, Index.decode v = .error e ∧ (e.kind = .invalidArgument ↔ ¬ Misleads .sector v)) ∧
      (Exact (Protection.encode (.list items)) (items.length = 8) fun data =>
          data.length = 8 ∧
            ∀ kind, Protection.decode (.bytes kind data) = .ok (items.map Value.isTrue)) ∧
      (Exact (Protection.decode (.bytes kind q)) (q.length = 8) fun flags =>
          Protection.encode (.list (flags.map Value.bool)) =
            .ok (q.map fun b => if b = 0 then 0 else 1)) ∧
      ((∀ kind q, v ≠ .bytes kind q) →
        ∃ e, Protection.decode v = .error e ∧
          (e.kind = .invalidArgument ↔ ¬ Misleads .lockInfo v)) := by
  refine ⟨?index, Index.decode_exact kind q, fun hother => ?other, ?flags,
    Protection.decode_exact kind q, fun hother => ?other'⟩
  case index =>
    have hexact := Index.encode_exact v
    refine ⟨fun haccepted => ?_, hexact.refused⟩
    obtain ⟨data, hdata, hroom⟩ := hexact.given haccepted
    obtain ⟨n, hn, -⟩ := haccepted
    obtain ⟨hlow, hhigh, rfl⟩ := hroom n hn
    refine ⟨_, hdata, rfl, fun m hm => ?_⟩
    obtain rfl := hn.unique hm
    exact ⟨Index.word_int32Bytes n, fun kind => Index.decode_int32Bytes kind hlow hhigh⟩
  case flags =>
    have hexact := Protection.encode_exact items
    refine ⟨fun hsize => ?_, hexact.refused⟩
    obtain ⟨data, hdata, rfl⟩ := hexact.given hsize
    have hlength : (items.map Value.isTrue).length = 8 := by rw [List.length_map, hsize]
    refine ⟨_, hdata, ?_, fun kind => Protection.decode_flagBytes hlength⟩
    rw [flagBytes, List.length_map, hlength]
  case other =>
    obtain ⟨e, hrefused, hkind⟩ := payload_of_other .sector hother
    exact ⟨e, congrArg (Except.map _) hrefused, hkind⟩
  case other' =>
    obtain ⟨e, hrefused, hkind⟩ := payload_of_other .lockInfo hother
    exact ⟨e, congrArg (Except.map _) hrefused, hkind⟩

/-- The least index has its sign in the last byte. -/
example : Index.encode (.int (-2147483648)) = .ok [0, 0, 0, 128] := rfl

/-- That whatever is not read is refused as an argument is too much to say of both. -/
theorem not_index_and_protection_refused :
    ¬ (∀ (v : Value) (e : Failure), Index.decode v = .error e → e.kind = .invalidArgument) ∧
      ¬ ∀ (v : Value) (e : Failure), Protection.decode v = .error e →
        e.kind = .invalidArgument := by
  have hindex : payload .sector (.view (.spacedZeros 4)) = .error .payloadSpaced := payload_view rfl
  have hflags : payload .lockInfo (.view (.spacedZeros 8)) = .error .payloadSpaced :=
    payload_view rfl
  constructor
  · intro hrefused
    exact absurd (hrefused _ _ (congrArg (Except.map _) hindex)) (by decide)
  · intro hrefused
    exact absurd (hrefused _ _ (congrArg (Except.map _) hflags)) (by decide)

end SectorDisk.Packet
