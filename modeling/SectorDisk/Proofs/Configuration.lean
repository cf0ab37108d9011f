import SectorDisk.Proofs.History
import SectorDisk.Proofs.Key
import SectorDisk.Proofs.Settings

/-!
# Configured keys

The settings and the keyring each have rules of their own for the texts that are given as keys, and
they are the same rules (`Keyring.Configurable`).  So what the settings accept are the keys of the
device, as long as there is one.
-/

namespace SectorDisk

variable {texts : List String} {env : List (String × String)}

/-! ## §1 Rules for keys -/

namespace Keyring

/-- The texts are at most eight, each of them one character that fits a byte. -/
def Configurable (texts : List String) : Prop :=
  texts.length ≤ 8 ∧ ∀ text ∈ texts, ∃ c : Char, text = String.singleton c ∧ c.toNat ≤ 255

/-- The keys of a device for which the texts are configured: these texts, or the letters A to H
where there are none. -/
def configured (texts : List String) : List String :=
  if texts = [] then ["A", "B", "C", "D", "E", "F", "G", "H"] else texts

end Keyring

theorem keyRule?_eq_none_iff {text : String} :
    keyRule? text = none ↔ ∃ c : Char, text = String.singleton c ∧ c.toNat ≤ 255 := by
  constructor
  · intro hrule
    obtain ⟨k, hk⟩ := Keyring.readKey_of_rule hrule
    have hnarrow := k.narrow
    exact ⟨k.char, Value.string.inj (Keyring.eq_string_of_readKey hk), by omega⟩
  · rintro ⟨c, rfl, hc⟩
    simp only [keyRule?, String.toList_singleton]
    rw [if_pos (by omega)]

/-- The rules of the settings. -/
theorem keysRule?_eq_none_iff : keysRule? texts = none ↔ Keyring.Configurable texts := by
  unfold keysRule? Keyring.Configurable
  split
  · rename_i hmany
    exact iff_of_false (fun hnone => by cases hnone) fun hfew => Nat.not_le.mpr hmany hfew.1
  · rename_i hfew
    have hlength : texts.length ≤ 8 := Nat.not_lt.mp hfew
    rw [List.findSome?_eq_none_iff, and_iff_right hlength]
    simp only [keyRule?_eq_none_iff]

namespace Keyring

theorem texts_standard : standard.texts = configured [] := rfl

/-- A keyring of texts has them as its keys, in their order. -/
theorem texts_of_ofValue {ring : Keyring} (hring : ofValue (textList texts) = .ok ring) :
    ring.texts = configured texts := by
  unfold ofValue at hring
  split at hring
  · -- some texts are given, and each key goes back to its own
    rename_i htrue
    have hsome : texts ≠ [] := by
      rintro rfl
      cases htrue
    have hkeys := eq_map_of_readKeys (readKeys_of_ofList hring)
    have hstrings : texts.map Value.string = ring.texts.map Value.string := by
      rw [hkeys, Keyring.texts, List.map_map]
      rfl
    rw [configured, if_neg hsome]
    exact ((List.map_inj_right fun _ _ => Value.string.inj).mp hstrings).symm
  · -- an empty list counts as false
    rename_i hfalse
    cases hring
    have hnone : texts = [] := by
      cases texts with
      | nil => rfl
      | cons text rest => exact absurd rfl hfalse
    rw [hnone, texts_standard]

/-- The rules of the keyring. -/
theorem ofValue_exact (texts : List String) :
    Exact (ofValue (textList texts)) (Configurable texts) fun ring =>
      ring.texts = configured texts := by
  apply Exact.intro
  · intro ring hring
    have htexts := texts_of_ofValue hring
    refine ⟨?_, htexts⟩
    by_cases hnone : texts = []
    · subst hnone
      exact ⟨by decide, by simp⟩
    · -- the texts are those of a keyring, which is well-formed
      rw [configured, if_neg hnone, Keyring.texts] at htexts
      subst htexts
      refine ⟨?_, ?_⟩
      · rw [List.length_map]
        exact ring.size_le
      · intro text htext
        obtain ⟨k, -, rfl⟩ := List.mem_map.mp htext
        have hnarrow := k.narrow
        exact ⟨k.char, rfl, by omega⟩
  · intro e herror
    refine ⟨fun hconfigurable => ?_, ?_⟩
    · obtain ⟨ring, hring⟩ := ofValue_of_rule (keysRule?_eq_none_iff.mpr hconfigurable)
      cases hring.symm.trans herror
    · unfold ofValue at herror
      split at herror
      · exact ofList_kind herror
      · cases herror

end Keyring

/-! ## §2 Settings without an environment -/

/-- No variable of the environment stands for a field of the settings. -/
def Settings.Unset (env : List (String × String)) : Prop :=
  ∀ entry ∈ env, ∀ field : SettingsField, Text.lowerAscii entry.1 ≠ field.environmentName

theorem environment?_of_unset (hunset : Settings.Unset env) (field : SettingsField) :
    environment? env field = none := by
  unfold environment?
  rw [Option.map_eq_none_iff, List.find?_eq_none]
  intro entry hentry
  simpa using hunset entry (List.mem_reverse.mp hentry) field

theorem environmentKeys_of_unset (hunset : Settings.Unset env) :
    environmentKeys env = .ok none := by
  rw [environmentKeys, environment?_of_unset hunset]

theorem Settings.load_of_unset (hunset : Unset env) : load [] env = .ok {} := by
  unfold load
  rw [environmentKeys_of_unset hunset]
  simp only [environment?_of_unset hunset, bind, Except.bind]
  rfl

theorem itemProblems_strings (index : Nat) (texts : List String) :
    itemProblems index (texts.map Value.string) = [] := by
  induction texts generalizing index with
  | nil => rfl
  | cons text rest ih => exact ih (index + 1)

theorem itemTexts_strings (texts : List String) : itemTexts (texts.map Value.string) = texts := by
  induction texts with
  | nil => rfl
  | cons text rest ih => exact congrArg (text :: ·) ih

theorem readKeysSetting_of_rule (hrule : keysRule? texts = none) :
    readKeysSetting (textList texts) = .ok texts := by
  simp only [readKeysSetting, textList, settingsItems?, itemProblems_strings, itemTexts_strings,
    hrule]

theorem readKeysSetting_of_broken_rule {text : String} (hrule : keysRule? texts = some text) :
    readKeysSetting (textList texts) = .error [⟨"keys", none, .rule text⟩] := by
  simp only [readKeysSetting, textList, settingsItems?, itemProblems_strings, itemTexts_strings,
    hrule]

/-- Only the keys are called by their name. -/
theorem SettingsField.isCalled_keys (f : SettingsField) :
    f.isCalled "keys" = decide (f = .keys) := by
  cases f <;> decide

theorem givenValue?_keys (v : Value) (f : SettingsField) :
    givenValue? [("keys", v)] f = if f = .keys then some v else none := by
  unfold givenValue?
  cases f <;> simp [SettingsField.isCalled_keys]

/-- Where only keys are given, they decide. -/
theorem Settings.load_keys_alone (hunset : Unset env) (v : Value) :
    load [("keys", v)] env =
      ((readKeysSetting v).mapError .invalid).map fun keys => { keys := keys } := by
  have hextra : extraNames [("keys", v)] = [] := by
    simp [extraNames, settingsFields, SettingsField.isCalled_keys]
  unfold load
  rw [environmentKeys_of_unset hunset]
  -- the other fields have their defaults, so only the keys can be at fault
  simp only [bind, Except.bind, givenValue?_keys, if_true, reduceCtorEq, if_false, hextra,
    environment?_of_unset hunset, Option.map_none, Option.orElse_eq_orElse, Option.orElse_some,
    Option.orElse_none, orDefault, List.map_nil]
  cases readKeysSetting v with
  | ok keys => rfl
  | error problems =>
    simp only [problemsOf, List.append_nil]
    rfl

/-! ## §3 From settings to devices -/

/-- A device of usable keys has them for its whole life. -/
theorem Host.exists_start (hconfigurable : Keyring.Configurable texts) (files : Files) :
    ∃ host, Host.start (textList texts) files = .ok host ∧
      ∀ steps, (host.run steps).device.keys.texts = Keyring.configured texts := by
  obtain ⟨ring, hring, -⟩ := (Keyring.ofValue_exact texts).given hconfigurable
  obtain ⟨host, hstart⟩ := Host.start_ok hring files
  refine ⟨host, hstart, fun steps => ?_⟩
  rw [host.run_keys]
  exact Keyring.texts_of_ofValue (Host.start_keys hstart)

namespace Settings

/-- **The settings accept the keys that make a keyring.**  Where the environment has no settings,
texts that are given as keys load just if there are at most eight, each of one character that fits a
byte, and otherwise are refused as wrong values.  A keyring is made of the same texts and no others.
So there is a device for all keys that load, and for its whole life it has these keys, in order and
with repetitions, or the letters A to H where none are given. -/
theorem loaded_keys_make_keyring (hunset : Unset env) (texts : List String) :
    ((∃ settings, load [("keys", textList texts)] env = .ok settings) ↔
        Keyring.Configurable texts) ∧
      (¬ Keyring.Configurable texts →
        ∃ problems, load [("keys", textList texts)] env = .error (.invalid problems)) ∧
      Exact (Keyring.ofValue (textList texts)) (Keyring.Configurable texts) (fun ring =>
        ring.texts = Keyring.configured texts) ∧
      ∀ settings, load [("keys", textList texts)] env = .ok settings →
        settings.keys = texts ∧
          ∀ files, ∃ host, Host.start (textList settings.keys) files = .ok host ∧
            ∀ steps, (host.run steps).device.keys.texts = Keyring.configured texts := by
  rw [load_keys_alone hunset]
  cases hrule : keysRule? texts with
  | none =>
    have hconfigurable := keysRule?_eq_none_iff.mp hrule
    rw [readKeysSetting_of_rule hrule]
    refine ⟨iff_of_true ⟨_, rfl⟩ hconfigurable, fun hno => absurd hconfigurable hno,
      Keyring.ofValue_exact texts, ?_⟩
    intro settings hload
    cases hload
    exact ⟨rfl, Host.exists_start hconfigurable⟩
  | some text =>
    have hbroken : ¬ Keyring.Configurable texts := by
      rw [← keysRule?_eq_none_iff, hrule]
      exact Option.some_ne_none text
    rw [readKeysSetting_of_broken_rule hrule]
    refine ⟨iff_of_false ?_ hbroken, fun _ => ⟨_, rfl⟩, Keyring.ofValue_exact texts, ?_⟩
    · rintro ⟨settings, hload⟩
      cases hload
    · intro settings hload
      cases hload

/-- Two keys, one of them twice, are three keys, and stay so when the device is closed. -/
theorem loaded_keys_repeated :
    Unset [("PATH", "/bin")] ∧ ∃ settings host,
      load [("keys", textList ["é", "A", "é"])] [("PATH", "/bin")] = .ok settings ∧
        Host.start (textList settings.keys) Files.empty = .ok host ∧
          (host.run [.operate {} .close]).device.keys.texts = ["é", "A", "é"] := by
  have hunset : Unset [("PATH", "/bin")] := by
    intro entry hentry field
    obtain rfl := List.mem_singleton.mp hentry
    cases field <;> decide
  have hconfigurable : Keyring.Configurable ["é", "A", "é"] := keysRule?_eq_none_iff.mp rfl
  obtain ⟨hloads, -, -, hmake⟩ := loaded_keys_make_keyring hunset ["é", "A", "é"]
  obtain ⟨settings, hload⟩ := hloads.mpr hconfigurable
  obtain ⟨-, hstart⟩ := hmake settings hload
  obtain ⟨host, hhost, hkeys⟩ := hstart Files.empty
  exact ⟨hunset, settings, host, hload, hhost, hkeys _⟩

end Settings

end SectorDisk
