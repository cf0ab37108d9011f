import SectorDisk.Failure

/-!
# Unlock keys

A key is one character that fits a byte.  `Keyring` is the list of at most eight keys that unlock
the sectors of a disk; where none are configured they are the letters A to H.
-/

namespace SectorDisk

/-! ## §1 Keys -/

/-- A single-byte character. -/
structure Key where
  /-- The character. -/
  char : Char
  /-- It fits a byte. -/
  narrow : char.toNat < 256
  deriving DecidableEq

namespace Key

/-- The key of a character, if it fits a byte. -/
def ofChar? (c : Char) : Option Key :=
  if h : c.toNat < 256 then some ⟨c, h⟩ else none

/-- The byte of a key. -/
def byte (k : Key) : UInt8 :=
  k.char.toNat.toUInt8

theorem toNat_ofNat_byte (b : UInt8) : (Char.ofNat b.toNat).toNat = b.toNat := by
  have hb := b.toNat_lt
  have hvalid : b.toNat.isValidChar := Or.inl (by omega)
  rw [Char.ofNat, dif_pos hvalid]
  rfl

/-- The key with a byte. -/
def ofByte (b : UInt8) : Key :=
  ⟨Char.ofNat b.toNat, by
    rw [toNat_ofNat_byte]
    exact b.toNat_lt⟩

/-- The key of a code point, if it is a character that fits a byte. -/
def ofPoint? (p : Text.Point) : Option Key :=
  p.char?.bind ofChar?

end Key

/-! ## §2 Keyrings -/

/-- The keys that unlock the sectors of a disk. -/
structure Keyring where
  /-- The keys, in the order in which they were configured. -/
  keys : List Key
  /-- There are not too many. -/
  size_le : keys.length ≤ keyLimit
  deriving DecidableEq

namespace Keyring

/-- The keys where none are configured: A to H. -/
def standard : Keyring where
  keys :=
    [⟨'A', by decide⟩, ⟨'B', by decide⟩, ⟨'C', by decide⟩, ⟨'D', by decide⟩,
      ⟨'E', by decide⟩, ⟨'F', by decide⟩, ⟨'G', by decide⟩, ⟨'H', by decide⟩]
  size_le := by decide

/-- Reads one configured key. -/
def readKey (v : Value) : Except Failure Key :=
  match v.onlyPoint? with
  | none => .error (.keyShape v)
  | some p =>
    match Key.ofPoint? p with
    | none => .error (.keyWide p)
    | some k => .ok k

/-- Reads the configured keys in order, up to the first that is none. -/
def readKeys : List Value → Except Failure (List Key)
  | [] => .ok []
  | v :: rest => do
    let k ← readKey v
    return k :: (← readKeys rest)

/-- Every value read gives one key. -/
theorem length_readKeys {vs : List Value} {ks : List Key} (h : readKeys vs = .ok ks) :
    ks.length = vs.length := by
  induction vs generalizing ks with
  | nil => cases h; rfl
  | cons v rest ih =>
    rw [readKeys] at h
    cases hk : readKey v with
    | error e => rw [hk] at h; cases h
    | ok k =>
      cases hr : readKeys rest with
      | error e => rw [hk, hr] at h; cases h
      | ok ks' =>
        rw [hk, hr] at h
        cases h
        simp [ih hr]

/-- The keyring of listed values. -/
def ofList (vs : List Value) : Except Failure Keyring :=
  if hn : vs.length ≤ keyLimit then
    match h : readKeys vs with
    | .error e => .error e
    | .ok ks => .ok ⟨ks, length_readKeys h ▸ hn⟩
  else .error (.keyCount vs.length)

/-- The keyring that a configured value of any type stands for: a value that counts as false is the
standard keyring, and any other is taken apart into its elements. -/
def ofValue (v : Value) : Except Failure Keyring :=
  if v.isTrue then
    match v.elements? with
    | none => .error (.notIterable v.typeName)
    | some vs => ofList vs
  else .ok standard

/-- Whether a character is one of the keys. -/
def holds (r : Keyring) (c : Char) : Bool :=
  r.keys.any fun k => decide (k.char = c)

/-- Whether a value of any type is one of the keys: a text of one character, or a byte string of one
byte that is not a view. -/
def accepts (r : Keyring) : Value → Bool
  | .string s =>
    match s.toList with
    | [c] => r.holds c
    | _ => false
  | .bytes .view _ => false
  | .bytes _ [b] => r.holds (Key.ofByte b).char
  | _ => false

/-- The keys as texts. -/
def texts (r : Keyring) : List String :=
  r.keys.map fun k => String.singleton k.char

end Keyring

end SectorDisk
