import SectorDisk.Device.Run
import SectorDisk.Proofs.Key
import SectorDisk.Proofs.Result
import SectorDisk.Settings

/-!
# Settings and devices

The settings judge a list of keys before a device makes its keyring of it, each by rules of its own.
No keys that pass the first are refused by the second: whatever settings load, a device can be made
with their keys.
-/

namespace SectorDisk

/-! ## §1 Keys that pass -/

theorem Keyring.readKey_of_rule {key : String} (hrule : keyRule? key = none) :
    ∃ k, readKey (.string key) = .ok k := by
  unfold keyRule? at hrule
  split at hrule
  · rename_i c hchars
    split at hrule
    · -- one character that fits a byte
      rename_i hnarrow
      obtain rfl : key = String.singleton c :=
        String.toList_inj.mp (hchars.trans (String.toList_singleton c).symm)
      exact ⟨_, readKey_singleton ⟨c, hnarrow⟩⟩
    · cases hrule
  · cases hrule

theorem Keyring.readKeys_of_rule {keys : List String} (hrule : ∀ key ∈ keys, keyRule? key = none) :
    ∃ ks, readKeys (keys.map Value.string) = .ok ks := by
  induction keys with
  | nil => exact ⟨[], rfl⟩
  | cons key rest ih =>
    obtain ⟨hkey, hrest⟩ := List.forall_mem_cons.mp hrule
    obtain ⟨k, hk⟩ := readKey_of_rule hkey
    obtain ⟨ks, hks⟩ := ih hrest
    refine ⟨k :: ks, ?_⟩
    rw [List.map_cons, readKeys, hk, hks]
    rfl

/-- What passes as keys of the settings is a keyring. -/
theorem Keyring.ofValue_of_rule {keys : List String} (hrule : keysRule? keys = none) :
    ∃ ring, ofValue (textList keys) = .ok ring := by
  unfold keysRule? at hrule
  split at hrule
  · cases hrule
  · rename_i hcount
    obtain ⟨ks, hks⟩ := readKeys_of_rule (List.findSome?_eq_none_iff.mp hrule)
    have hlength : (keys.map Value.string).length ≤ keyLimit := by
      rw [List.length_map]
      omega
    have hlist : ∃ ring, ofList (keys.map Value.string) = .ok ring := by
      unfold ofList
      rw [dif_pos hlength]
      split
      · rename_i e hfail
        rw [hks] at hfail
        cases hfail
      · exact ⟨_, rfl⟩
    -- the empty list counts as false and gives the standard keyring
    unfold ofValue
    split
    · exact hlist
    · exact ⟨_, rfl⟩

/-! ## §2 Settings that load -/

theorem readKeysSetting_ok {v : Value} {keys : List String} (hread : readKeysSetting v = .ok keys) :
    keysRule? keys = none := by
  unfold readKeysSetting at hread
  split at hread
  · cases hread
  · split at hread
    · split at hread
      · cases hread
        assumption
      · cases hread
    · cases hread

theorem Settings.load_keys {given : List (String × Value)} {env : List (String × String)}
    {settings : Settings} (hload : Settings.load given env = .ok settings) :
    keysRule? settings.keys = none := by
  unfold Settings.load at hload
  obtain ⟨fromEnv, -, hfields⟩ := exists_of_bind_ok hload
  dsimp only at hfields
  split at hfields
  · rename_i keys path level hkeys _ _ _
    cases hfields
    -- the keys are the default, which is empty, or were judged
    cases hsource : givenValue? given .keys <|> fromEnv with
    | none =>
      rw [hsource] at hkeys
      cases hkeys
      rfl
    | some v =>
      rw [hsource] at hkeys
      exact readKeysSetting_ok hkeys
  · cases hfields

/-- Of the keys of settings that load a keyring can be made. -/
theorem Settings.keyring_of_load {given : List (String × Value)} {env : List (String × String)}
    {settings : Settings} (hload : Settings.load given env = .ok settings) :
    ∃ ring, Keyring.ofValue (textList settings.keys) = .ok ring :=
  Keyring.ofValue_of_rule (load_keys hload)

theorem Host.start_ok {keys : Value} {ring : Keyring} (hring : Keyring.ofValue keys = .ok ring)
    (files : Files) : ∃ host, Host.start keys files = .ok host := by
  rw [Host.start, hring]
  exact ⟨_, rfl⟩

theorem Host.start_error {keys : Value} {why : Failure} (hring : Keyring.ofValue keys = .error why)
    (files : Files) : Host.start keys files = .error why := by
  rw [Host.start, hring]
  rfl

end SectorDisk
