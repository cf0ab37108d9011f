import SectorDisk.Proofs.Control.Wire
import SectorDisk.Proofs.Prompt

/-!
# Who may unlock

The keys that were configured unlock every sector, on the wire and directly, and nothing else does.
Three readings of a key have to agree for that: the configured text, the byte of an unlock request,
and the text or byte string that is given directly (`Device.unlock_exact`).
-/

namespace SectorDisk

variable {c : Circumstance} {h : Host} {s : Sector} {key given : Value} {k : String}

/-! ## §1 Configured keys -/

/-- The text of a byte, one character for each of them. -/
def Key.textOfByte (b : UInt8) : String :=
  String.singleton (Char.ofNat b.toNat)

namespace Keyring

/-- The text is one of the keys that a value configures: one of its elements, or one of the letters
A to H where it counts as false. -/
def Configures (given : Value) (k : String) : Prop :=
  if given.isTrue then ∃ vs, given.elements? = some vs ∧ Value.string k ∈ vs
  else k ∈ ["A", "B", "C", "D", "E", "F", "G", "H"]

/-- The configured keys are the keys of the keyring. -/
theorem configures_iff {ring : Keyring} (hring : ofValue given = .ok ring) :
    Configures given k ↔ ∃ x ∈ ring.keys, k = String.singleton x.char := by
  unfold ofValue at hring
  unfold Configures
  split at hring
  · rename_i htrue
    rw [if_pos htrue]
    split at hring
    · cases hring
    · rename_i vs hvs
      rw [hvs, eq_map_of_readKeys (readKeys_of_ofList hring)]
      simp only [Option.some.injEq, exists_eq_left', List.mem_map, Value.string.injEq]
      simp only [eq_comm]
  · rename_i hfalse
    cases hring
    have htexts : ["A", "B", "C", "D", "E", "F", "G", "H"] =
        standard.keys.map fun x => String.singleton x.char := rfl
    rw [if_neg hfalse, htexts]
    simp only [List.mem_map, eq_comm]

/-- What lifts protection directly: a configured key as a text, or a byte string that is no view, of
the one byte that the key is the text of. -/
def Grants (given key : Value) : Prop :=
  (∃ k, Configures given k ∧ key = .string k) ∨
    ∃ b, Configures given (Key.textOfByte b) ∧ (key = .bytes .fixed [b] ∨ key = .bytes .mutable [b])

/-- The text of a byte is configured if the byte is that of a key. -/
theorem configures_textOfByte_iff {ring : Keyring} (hring : ofValue given = .ok ring) (b : UInt8) :
    Configures given (Key.textOfByte b) ↔ ∃ x ∈ ring.keys, x.byte = b := by
  rw [configures_iff hring]
  constructor
  · rintro ⟨x, hx, htext⟩
    have hchar := congrArg String.toList htext
    simp only [Key.textOfByte, String.toList_singleton, List.cons.injEq, and_true] at hchar
    refine ⟨x, hx, ?_⟩
    rw [← Key.byte_ofByte b, Key.byte, ← hchar, Key.byte, Key.ofByte]
  · rintro ⟨x, hx, rfl⟩
    exact ⟨x, hx, congrArg String.singleton x.char_ofByte_byte⟩

theorem accepts_iff_grants {ring : Keyring} (hring : ofValue given = .ok ring) :
    ring.accepts key = true ↔ Grants given key := by
  rw [accepts_iff]
  constructor
  · rintro ⟨x, hx, rfl | rfl | rfl⟩
    · exact .inl ⟨_, (configures_iff hring).mpr ⟨x, hx, rfl⟩, rfl⟩
    · exact .inr ⟨_, (configures_textOfByte_iff hring _).mpr ⟨x, hx, rfl⟩, .inl rfl⟩
    · exact .inr ⟨_, (configures_textOfByte_iff hring _).mpr ⟨x, hx, rfl⟩, .inr rfl⟩
  · rintro (⟨k, hk, rfl⟩ | ⟨b, hb, rfl | rfl⟩)
    · obtain ⟨x, hx, rfl⟩ := (configures_iff hring).mp hk
      exact ⟨x, hx, .inl rfl⟩
    · obtain ⟨x, hx, rfl⟩ := (configures_textOfByte_iff hring b).mp hb
      exact ⟨x, hx, .inr (.inl rfl)⟩
    · obtain ⟨x, hx, rfl⟩ := (configures_textOfByte_iff hring b).mp hb
      exact ⟨x, hx, .inr (.inr rfl)⟩

theorem grants_string : Grants given (.string k) ↔ Configures given k := by
  constructor
  · rintro (⟨k', hk, hsame⟩ | ⟨b, -, hsame | hsame⟩)
    · cases hsame
      exact hk
    · cases hsame
    · cases hsame
  · exact fun hk => .inl ⟨k, hk, rfl⟩

end Keyring

/-! ## §2 Unlocking -/

/-- An attempt to unlock a sector succeeds just if it is `authorised`.  If so, the sector is
unprotected afterwards; if not, the key is refused and the protection is as before.  Neither touches
anything else. -/
structure Device.Unlocks (h : Host) (s : Sector) (authorised : Prop)
    (out : Except Failure Value × Host) : Prop where
  succeeds_iff : (∃ v, out.1 = .ok v) ↔ authorised
  lifted : authorised → ∀ t,
    out.2.device.protection.bit t = if t = s then false else h.device.protection.bit t
  denied : ¬ authorised → out.1 = .error (.keyRefused s) ∧
    out.2.device.protection = h.device.protection
  kept : out.2.device.status = { h.device.status with protection := out.2.device.protection }

namespace Device.Unlocks

variable {p q : Prop} {out direct : Except Failure Value × Host}

theorem congr (hunlocks : Unlocks h s p out) (hiff : p ↔ q) : Unlocks h s q out := by
  rw [← propext hiff]
  exact hunlocks

/-- A command unlocks as the operation does that it follows. -/
theorem follows (hunlocks : Unlocks h s p direct) (hfollows : Control.Follows direct out) :
    Unlocks h s p out := by
  obtain ⟨hresult, ⟨m, hdevice⟩, -, -⟩ := hfollows
  have hprotection : out.2.device.protection = direct.2.device.protection := by
    rw [hdevice]
    rfl
  have hstatus : out.2.device.status = direct.2.device.status := by
    rw [hdevice]
    rfl
  constructor
  · rw [hresult]
    exact hunlocks.succeeds_iff
  · rw [hprotection]
    exact hunlocks.lifted
  · rw [hresult, hprotection]
    exact hunlocks.denied
  · rw [hstatus, hprotection]
    exact hunlocks.kept

end Device.Unlocks

/-- Directly, a sector is unlocked with what the keyring accepts. -/
theorem Operation.unlock_unlocks (hfree : (h.device.lockOf .primary).owner = none) (s : Sector)
    (key : Value) (c : Circumstance) :
    Device.Unlocks h s (h.device.keys.accepts key = true)
      ((Operation.unlock (.int s.val) key).perform c h) := by
  have hs := Sector.ofValue_val s
  simp only [perform, Op.giving_run]
  cases hkey : h.device.keys.accepts key with
  | true =>
    have hdone := Storage.unlock_prompt (c := c) hfree hs hkey
    have hstatus : (Storage.unlock (.int s.val) key c h).2.device.status =
        { h.device.status with protection := h.device.protection.setBit s false } := hdone.status
    have hprotection : (Storage.unlock (.int s.val) key c h).2.device.protection =
        h.device.protection.setBit s false := congrArg (fun k => k.protection) hstatus
    refine ⟨iff_of_true ⟨.none, by rw [hdone.result]; rfl⟩ rfl, fun _ t => ?_, fun hno => ?_, ?_⟩
    · rw [hprotection, Flags.bit_setBit]
      simp only [eq_comm]
    · exact absurd rfl hno
    · rw [hprotection]
      exact hstatus
  | false =>
    have hdone := Storage.unlock_prompt_refused (c := c) hs hkey
    have hstatus : (Storage.unlock (.int s.val) key c h).2.device.status = h.device.status :=
      hdone.status
    have hprotection : (Storage.unlock (.int s.val) key c h).2.device.protection =
        h.device.protection := congrArg (fun k => k.protection) hstatus
    rw [hdone.result]
    refine ⟨iff_of_false ?_ Bool.false_ne_true, fun hno => ?_, fun _ => ⟨rfl, hprotection⟩, ?_⟩
    · intro hsucceeds
      obtain ⟨v, hv⟩ := hsucceeds
      cases hv
    · cases hno
    · rw [hprotection]
      exact hstatus

/-! ## §3 The wire and the device -/

/-- **Who may unlock.**  On an open device with the keys that a value configures, and with the lock
of the primary buffer free, every configured key makes an unlock request for every sector, which
unlocks it; of all payloads for a sector just those unlock it whose second byte is a configured key,
whatever the idle bytes hold; and directly a sector is unlocked just by what `Keyring.Grants` lists,
among values of any type. -/
theorem Device.unlock_exact (hkeys : Keyring.ofValue given = .ok h.device.keys)
    (hopen : h.device.isClosed = false) (hfree : (h.device.lockOf .primary).owner = none)
    (c : Circumstance) :
    (∀ (s : Sector) (k : String) (command : Value) (kind : BytesKind),
      Keyring.Configures given k → Command.Named .unlockSector command →
        ∃ r, Packet.Unlock.make (.int s.val) (.string k) = .ok r ∧
          Unlocks h s True ((Operation.control command (.bytes kind r.encode)).perform c h)) ∧
    (∀ (s : Sector) (b x y : UInt8) (command : Value) (kind : BytesKind),
      Command.Named .unlockSector command →
        Unlocks h s (Keyring.Configures given (Key.textOfByte b))
          ((Operation.control command (.bytes kind [s.val.toUInt8, b, x, y])).perform c h)) ∧
    ∀ (s : Sector) (key : Value),
      Unlocks h s (Keyring.Grants given key) ((Operation.unlock (.int s.val) key).perform c h) := by
  have hdirect (s : Sector) (key : Value) := Operation.unlock_unlocks hfree s key c
  refine ⟨?request, ?payload, ?direct⟩
  case request =>
    intro s k command kind hk hname
    obtain ⟨x, hx, rfl⟩ := (Keyring.configures_iff hkeys).mp hk
    -- the request is that of the key itself: its encoding is read back with the same byte
    refine ⟨⟨s, x⟩, by rw [Packet.Unlock.make_char, dif_pos s.isLt], ?_⟩
    have haccepts := Keyring.accepts_iff.mpr ⟨x, hx, .inl rfl⟩
    exact ((hdirect s _).congr (iff_true_intro haccepts)).follows
      (Control.follows_of_orders hname (.unlock kind ⟨s, x⟩) (by decide) hopen)
  case payload =>
    intro s b x y command kind hname
    have hs : s.val.toUInt8.toNat < 8 := by
      rw [Packet.Unlock.toNat_toUInt8_val]
      exact s.isLt
    have horders := @Command.Orders.unlockSector kind _ b x y hs
    rw [Packet.Unlock.toNat_toUInt8_val] at horders
    -- the command orders an unlock with the text of the second byte
    exact ((hdirect s _).congr
      ((Keyring.accepts_iff_grants hkeys).trans Keyring.grants_string)).follows
        (Control.follows_of_orders hname horders (by decide) hopen)
  case direct =>
    intro s key
    exact (hdirect s key).congr (Keyring.accepts_iff_grants hkeys)

/-- A device with two keys, the first of which is no letter of the English alphabet, after its
second sector was protected. -/
def Host.barred : Host :=
  run
    { device := { keys := ⟨[Key.ofByte 233, Key.ofByte 65], by decide⟩ }
      files := Files.empty }
    [.operate {} (.lock (.int 1))]

/-- The first key unlocks on the wire in spite of its idle bytes, another letter does not, and the
second key unlocks as the one byte of a byte string. -/
theorem Device.unlock_barred :
    Keyring.ofValue (textList ["é", "A"]) = .ok Host.barred.device.keys ∧
      ((Operation.control (.command .unlockSector) (.octets [1, 233, 7, 7])).perform {}
        Host.barred).2.device.protection.bit 1 = false ∧
      ((Operation.control (.command .unlockSector) (.octets [1, 66, 0, 0])).perform {}
        Host.barred).1 = .error (.keyRefused 1) ∧
      ∃ v, ((Operation.unlock (.int 1) (.bytes .mutable [65])).perform {} Host.barred).1 =
        .ok v := by
  have hkeys : Keyring.ofValue (textList ["é", "A"]) = .ok Host.barred.device.keys := rfl
  have htexts (k : String) :
      Keyring.Configures (textList ["é", "A"]) k ↔ k = "é" ∨ k = "A" := by
    have hring : Host.barred.device.keys.keys = [Key.ofByte 233, Key.ofByte 65] := rfl
    have hfirst : String.singleton (Key.ofByte 233).char = "é" := rfl
    have hsecond : String.singleton (Key.ofByte 65).char = "A" := rfl
    rw [Keyring.configures_iff hkeys, hring]
    simp [hfirst, hsecond]
  obtain ⟨-, hpayload, hdirect⟩ := unlock_exact hkeys rfl rfl {}
  refine ⟨hkeys, ?_, ?_, ?_⟩
  · exact (hpayload 1 233 7 7 _ _ .command).lifted ((htexts _).mpr (.inl rfl)) 1
  · have hno : ¬ Keyring.Configures (textList ["é", "A"]) (Key.textOfByte 66) := by
      rw [htexts]
      decide
    exact ((hpayload 1 66 0 0 _ _ .command).denied hno).1
  · exact (hdirect 1 (.bytes .mutable [65])).succeeds_iff.mpr
      (.inr ⟨65, (htexts _).mpr (.inr rfl), .inr rfl⟩)

end SectorDisk
