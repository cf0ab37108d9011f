import SectorDisk.Key
import SectorDisk.Proofs.Result

/-!
# Keys and keyrings

A key has one byte and one character, and what a keyring accepts are its keys, spelled as text or as
a byte.  The keys that are configured become its keys, all of them in their order, or are refused.
-/

namespace SectorDisk

/-! ## §1 Keys -/

namespace Key

theorem ofPoint?_eq_some {p : Text.Point} {k : Key} : ofPoint? p = some k ↔ p = .char k.char := by
  cases p with
  | char c =>
    rw [Text.Point.char.injEq]
    change ofChar? c = some k ↔ _
    unfold ofChar?
    constructor
    · intro hk
      split at hk
      · cases hk
        rfl
      · cases hk
    · rintro rfl
      rw [dif_pos k.narrow]
  | half s => exact iff_of_false (fun hk => by cases hk) fun hp => by cases hp

theorem byte_ofByte (b : UInt8) : (ofByte b).byte = b := by
  rw [byte, ofByte, toNat_ofNat_byte, Nat.toUInt8, UInt8.ofNat_toNat]

theorem char_ofByte_byte (k : Key) : (ofByte k.byte).char = k.char := by
  have hbyte : k.byte.toNat = k.char.toNat := by
    simp only [byte, Nat.toUInt8, UInt8.toNat_ofNat']
    exact Nat.mod_eq_of_lt k.narrow
  simp only [ofByte, hbyte, Char.ofNat_toNat]

end Key

/-- A text of one character, and no other value, has that character as its only code point. -/
theorem Value.onlyPoint?_eq_char {v : Value} {c : Char} :
    v.onlyPoint? = some (.char c) ↔ v = .string (String.singleton c) := by
  constructor
  · intro honly
    unfold onlyPoint? at honly
    split at honly
    · rename_i p hpoints
      cases honly
      unfold points? at hpoints
      split at hpoints
      · rename_i s
        obtain ⟨c', hc', hchar⟩ := List.map_eq_singleton_iff.mp (Option.some.inj hpoints)
        cases hchar
        exact congrArg string (String.toList_inj.mp (hc'.trans (String.toList_singleton c).symm))
      · rename_i t
        -- a torn text has a half among its code points, and here it would be the only one
        have hhalf : Text.Point.half t.first ∈ t.points :=
          List.mem_append_right _ List.mem_cons_self
        rw [Option.some.inj hpoints, List.mem_singleton] at hhalf
        cases hhalf
      · cases hpoints
    · cases honly
  · rintro rfl
    simp only [onlyPoint?, points?, String.toList_singleton, List.map_cons, List.map_nil]

/-! ## §2 Accepted keys -/

namespace Keyring

/-- A value is one of the keys: as a text, or as a byte string of that one byte. -/
def IsKey (r : Keyring) (v : Value) : Prop :=
  ∃ k ∈ r.keys, v = .string (String.singleton k.char) ∨ v = .bytes .fixed [k.byte] ∨
    v = .bytes .mutable [k.byte]

theorem holds_iff {r : Keyring} {c : Char} : r.holds c = true ↔ ∃ k ∈ r.keys, k.char = c := by
  simp only [holds, List.any_eq_true, decide_eq_true_eq]

/-- What lifts protection are the keys and nothing else. -/
theorem accepts_iff {r : Keyring} {v : Value} : r.accepts v = true ↔ r.IsKey v := by
  constructor
  · intro haccepts
    unfold accepts at haccepts
    split at haccepts
    · -- a text
      rename_i s
      split at haccepts
      · rename_i c hchars
        obtain ⟨k, hk, rfl⟩ := holds_iff.mp haccepts
        have hs : s = String.singleton k.char :=
          String.toList_inj.mp (hchars.trans (String.toList_singleton k.char).symm)
        exact ⟨k, hk, Or.inl (congrArg Value.string hs)⟩
      · cases haccepts
    · cases haccepts
    · -- a byte string of one byte
      rename_i kind b hview
      obtain ⟨k, hk, hchar⟩ := holds_iff.mp haccepts
      have hbyte : k.byte = b := by
        rw [← Key.byte_ofByte b, Key.byte, hchar, Key.byte]
      cases kind with
      | fixed => exact ⟨k, hk, Or.inr (Or.inl (by rw [hbyte]))⟩
      | mutable => exact ⟨k, hk, Or.inr (Or.inr (by rw [hbyte]))⟩
      | view => exact absurd rfl hview
    · cases haccepts
  · rintro ⟨k, hk, rfl | rfl | rfl⟩
    · simp only [accepts, String.toList_singleton]
      exact holds_iff.mpr ⟨k, hk, rfl⟩
    · exact holds_iff.mpr ⟨k, hk, k.char_ofByte_byte.symm⟩
    · exact holds_iff.mpr ⟨k, hk, k.char_ofByte_byte.symm⟩

theorem accepts_string_iff {r : Keyring} {s : String} :
    r.accepts (.string s) = true ↔ s ∈ r.texts := by
  rw [accepts_iff, texts, List.mem_map]
  constructor
  · rintro ⟨k, hk, hstring | hfixed | hmutable⟩
    · cases hstring
      exact ⟨k, hk, rfl⟩
    · cases hfixed
    · cases hmutable
  · rintro ⟨k, hk, rfl⟩
    exact ⟨k, hk, .inl rfl⟩

/-! ## §3 Configured keys -/

theorem eq_string_of_readKey {v : Value} {k : Key} (hread : readKey v = .ok k) :
    v = .string (String.singleton k.char) := by
  unfold readKey at hread
  split at hread
  · cases hread
  · rename_i p honly
    split at hread
    · cases hread
    · rename_i found hfound
      cases hread
      rw [Key.ofPoint?_eq_some.mp hfound] at honly
      exact Value.onlyPoint?_eq_char.mp honly

/-- A text of one character that fits a byte is read as the key that it is. -/
theorem readKey_singleton (k : Key) : readKey (.string (String.singleton k.char)) = .ok k := by
  simp only [readKey, Value.onlyPoint?_eq_char.mpr rfl, Key.ofPoint?_eq_some.mpr rfl]

/-- Reading keys leaves nothing out. -/
theorem eq_map_of_readKeys {vs : List Value} {ks : List Key} (hread : readKeys vs = .ok ks) :
    vs = ks.map fun k => .string (String.singleton k.char) := by
  induction vs generalizing ks with
  | nil =>
    cases hread
    rfl
  | cons v rest ih =>
    obtain ⟨k, hk, hrest⟩ := exists_of_bind_ok hread
    obtain ⟨ks', hks, hmade⟩ := exists_of_bind_ok hrest
    cases hmade
    rw [eq_string_of_readKey hk, ih hks, List.map_cons]

theorem readKeys_of_ofList {vs : List Value} {ring : Keyring} (hring : ofList vs = .ok ring) :
    readKeys vs = .ok ring.keys := by
  unfold ofList at hring
  split at hring
  · split at hring
    · cases hring
    · rename_i ks hread
      cases hring
      exact hread
  · cases hring

theorem readKey_kind {v : Value} {e : Failure} (herror : readKey v = .error e) :
    e.kind = .invalidArgument := by
  unfold readKey at herror
  split at herror
  · cases herror
    rfl
  · split at herror
    · cases herror
      rfl
    · cases herror

theorem readKeys_kind {vs : List Value} {e : Failure} (herror : readKeys vs = .error e) :
    e.kind = .invalidArgument := by
  induction vs with
  | nil => cases herror
  | cons v rest ih =>
    rw [readKeys] at herror
    -- the first key that is none is the one that is refused
    cases hkey : readKey v with
    | error why =>
      rw [hkey] at herror
      cases herror
      exact readKey_kind hkey
    | ok k =>
      cases hrest : readKeys rest with
      | error why =>
        rw [hkey, hrest] at herror
        cases herror
        exact ih hrest
      | ok ks =>
        rw [hkey, hrest] at herror
        cases herror

theorem ofList_kind {vs : List Value} {e : Failure} (herror : ofList vs = .error e) :
    e.kind = .invalidArgument := by
  unfold ofList at herror
  split at herror
  · split at herror
    · rename_i why hread
      cases herror
      exact readKeys_kind hread
    · cases herror
  · cases herror
    rfl

end Keyring

end SectorDisk
