import SectorDisk.Proofs.Configuration
import SectorDisk.Proofs.Console.KeyPieces
import SectorDisk.Proofs.Console.Launch

/-!
# The option for keys

Keys that are given on the command line are judged twice: when the option is read, and when the
device is made.  The first judgement asks for single characters and no more.  So more than eight
keys, or a key that fits no byte, are accepted at first, and fail the program later on.
-/

namespace SectorDisk.Console

variable {text : String} {keys : List String} {inv inv' : Invocation} {ts : List Token}

/-! ## §1 Lists of keys -/

/-- The keys that a text lists: what stands between commas, without blanks around it, unless nothing
is left of it. -/
def listed (text : String) : List String :=
  ((text.toList.splitOn ',').map fun piece => String.ofList (Text.strip piece)).filter (· ≠ "")

/-- The keys that the text of the option stands for: those that it lists, but none for `--`. -/
def optionKeys (text : String) : List String :=
  if text = dividerWord then [] else listed text

theorem splitOn_comma (cs : List Char) : cs.splitOn ',' = cs.splitOnP isComma :=
  List.splitOn_eq_splitOnP ..

/-- What is listed is what is left of the pieces. -/
theorem listed_eq_cores (text : String) :
    listed text =
      ((cores isComma Text.isBlank text.toList).filter (!·.isEmpty)).map String.ofList := by
  have hempty : (fun key => decide (key ≠ "")) ∘ String.ofList =
      fun piece : List Char => !piece.isEmpty := by
    funext piece
    cases piece <;> simp
  rw [listed, splitOn_comma, ← hempty, ← List.filter_map, cores, List.map_map]
  rfl

/-- A list is judged by its first key that is no single character. -/
theorem readKeyList_eq (text : String) :
    readKeyList text = ((listed text).find? fun key => decide (key.length ≠ 1)).elim
      (.ok (listed text)) fun key => .error (.optionKey (.string key)) := by
  have hlength : (fun key : String => decide (key.length ≠ 1)) ∘ String.ofList =
      fun piece => decide (piece.length ≠ 1) := by
    funext piece
    rw [Function.comp, String.length_ofList]
  rw [listed_eq_cores, List.find?_map, hlength, readKeyList, keyPieces_eq]
  cases ((cores isComma Text.isBlank text.toList).filter (!·.isEmpty)).find?
    fun piece => decide (piece.length ≠ 1) <;> rfl

theorem readKeyList_of_single (hsingle : ∀ key ∈ listed text, key.length = 1) :
    readKeyList text = .ok (listed text) := by
  have hnone : (listed text).find? (fun key => decide (key.length ≠ 1)) = none := by
    rw [List.find?_eq_none]
    intro key hkey
    simpa using hsingle key hkey
  rw [readKeyList_eq, hnone]
  rfl

theorem single_of_readKeyList (hread : readKeyList text = .ok keys) :
    ∀ key ∈ keys, key.length = 1 := by
  rw [readKeyList_eq] at hread
  cases hfind : (listed text).find? fun key => decide (key.length ≠ 1) with
  | some key =>
    rw [hfind] at hread
    cases hread
  | none =>
    rw [hfind] at hread
    cases hread
    intro key hkey
    simpa using List.find?_eq_none.mp hfind key hkey

/-! ## §2 Giving the option -/

/-- The command line begins with the option for keys, in full or shortened, and gives it the text,
in the same word or in the next if that one looks like no option.  Behind it stand the tokens. -/
inductive GivesKeys : List String → String → List Token → Prop
  | attached {word spelling text rest ts}
      (hoption : judge programForm word = .option (.valued keysOption) spelling (some text))
      (hrest : tokens programForm rest = .ok ts) : GivesKeys (word :: rest) text ts
  | following {word spelling text rest ts}
      (hoption : judge programForm word = .option (.valued keysOption) spelling none)
      (hplain : judge programForm text = .argument)
      (hrest : tokens programForm rest = .ok ts) : GivesKeys (word :: text :: rest) text ts

theorem toList_equals (text : String) :
    ("--keys=" ++ text).toList = ['-', '-', 'k', 'e', 'y', 's', '='] ++ text.toList := by
  rw [String.toList_append]
  rfl

theorem splitEquals_equals (text : String) :
    splitEquals ("--keys=" ++ text) = (keysOption, some text) := by
  unfold splitEquals
  rw [toList_equals]
  simp [keysOption]

theorem length_equals (text : String) : ("--keys=" ++ text).length = 7 + text.length :=
  String.length_append _ _

/-- No spelling is as long as that. -/
theorem lookup_equals (text : String) :
    programForm.spellings.lookup ("--keys=" ++ text) = none := by
  have hshort : ∀ entry ∈ programForm.spellings, entry.1.length < 7 := by decide
  rw [List.lookup_eq_none_iff]
  intro entry hentry
  have hlength := hshort entry hentry
  rw [bne_iff_ne]
  intro hsame
  rw [← hsame, length_equals] at hlength
  omega

theorem judge_equals (text : String) :
    judge programForm ("--keys=" ++ text) =
      .option (.valued keysOption) keysOption (some text) := by
  have hdash : ("--keys=" ++ text).toList.head? = some '-' := by
    rw [toList_equals]
    rfl
  have hlong : ("--keys=" ++ text).length ≠ 1 := by
    rw [length_equals]
    omega
  have hknown : programForm.spellings.lookup keysOption = some (.valued keysOption) := rfl
  -- it is no spelling itself, so it is taken apart at the equals sign
  rw [judge, if_neg (not_not_intro hdash), lookup_equals]
  dsimp only
  rw [if_neg hlong, judgeDashed, splitEquals_equals]
  dsimp only
  rw [hknown]

/-- Any text can be given behind an equals sign. -/
theorem GivesKeys.of_equals (text : String) : GivesKeys ["--keys=" ++ text] text [] :=
  .attached (judge_equals text) rfl

/-- The word `--` could be short for every option of two dashes. -/
theorem judge_dividerWord :
    judge programForm dividerWord = .ambiguous ["--help", "--keys"] := rfl

theorem tokens_of_option {word spelling : String} {switch : Switch} {value : Option String}
    {rest : List String} (hoption : judge programForm word = .option switch spelling value) :
    tokens programForm (word :: rest) =
      (tokens programForm rest).map (Token.option word switch spelling value :: ·) := by
  have hword : word ≠ dividerWord := by
    rintro rfl
    cases judge_dividerWord.symm.trans hoption
  rw [tokens, if_neg hword, hoption]

theorem tokens_of_argument {word : String} {rest : List String}
    (hplain : judge programForm word = .argument) :
    tokens programForm (word :: rest) =
      (tokens programForm rest).map (Token.argument word :: ·) := by
  have hword : word ≠ dividerWord := by
    rintro rfl
    cases judge_dividerWord.symm.trans hplain
  rw [tokens, if_neg hword, hplain]

/-- The option is read first, and the tokens behind it are read with its keys. -/
theorem GivesKeys.read {words : List String} (hgives : GivesKeys words text ts) :
    Invocation.read words =
      ({} : Invocation).withKeys text >>= fun inv => inv.readTokens [] ts := by
  cases hgives with
  | attached hoption hrest =>
    rw [Invocation.read, tokens_of_option hoption, hrest]
    rfl
  | following hoption hplain hrest =>
    rw [Invocation.read, tokens_of_option hoption, tokens_of_argument hplain, hrest]
    rfl

/-! ## §3 Accepted keys -/

/-- The complaint on a key that is no single character. -/
def keyComplaint (key : String) : Stop :=
  .misuse programForm (.misread keysOption (.refused (.optionKey (.string key))))

namespace Invocation

theorem withKeys_of_single (hsingle : ∀ key ∈ optionKeys text, key.length = 1) :
    inv.withKeys text = .ok { inv with keys := some (optionKeys text) } := by
  by_cases hword : text = dividerWord
  · rw [withKeys, optionKeys, if_pos hword, if_pos hword]
  · rw [optionKeys, if_neg hword] at hsingle
    rw [withKeys, optionKeys, if_neg hword, if_neg hword, readKeyList_of_single hsingle]

theorem withKeys_of_first {key : String}
    (hfirst : (optionKeys text).find? (fun key => decide (key.length ≠ 1)) = some key) :
    inv.withKeys text = .error (keyComplaint key) := by
  by_cases hword : text = dividerWord
  · rw [optionKeys, if_pos hword] at hfirst
    cases hfirst
  · rw [optionKeys, if_neg hword] at hfirst
    rw [withKeys, if_neg hword, readKeyList_eq, hfirst]
    rfl

theorem single_of_withKeys (hkeys : inv.withKeys text = .ok { inv with keys := some keys }) :
    ∀ key ∈ keys, key.length = 1 := by
  unfold withKeys at hkeys
  split at hkeys
  · cases hkeys
    exact nofun
  · split at hkeys
    · rename_i found hread
      cases hkeys
      exact single_of_readKeyList hread
    · cases hkeys

/-- No reading of the command line lets other keys through. -/
theorem Accepts.single (haccepts : Accepts inv ts inv')
    (hknown : ∀ keys, inv.keys = some keys → ∀ key ∈ keys, key.length = 1) :
    ∀ keys, inv'.keys = some keys → ∀ key ∈ keys, key.length = 1 := by
  induction haccepts with
  | nothing | command => exact hknown
  | attached _ hkeys _ ih | following _ hkeys _ ih =>
    -- each option replaces the keys that were known before it
    refine ih ?_
    rintro keys ⟨⟩
    exact single_of_withKeys hkeys

end Invocation

/-! ## §4 Dialogues on keys -/

namespace Launch

variable {l : Launch}

/-- The program begins a dialogue on a device that has the keys, or the letters A to H where there
are none. -/
def ConversesWith (l : Launch) (keys : List String) : Prop :=
  ∃ s, l.session (some keys) = .ok s ∧ s.host.device.keys.texts = Keyring.configured keys ∧
    ∀ input, l.run input = (s.print (ended [greeting])).dialogue (inputLines input)

/-- The program fails right behind the greeting, as the keyring refuses the keys. -/
def FailsOn (l : Launch) (keys : List String) : Prop :=
  ∃ why, Keyring.ofValue (textList keys) = .error why ∧ why.kind = .invalidArgument ∧
    ∀ input, l.run input = ⟨ended [greeting], "", l.files, .failed why⟩

theorem indirect_of_keys (hread : Invocation.read l.words = .ok inv)
    (hkeys : inv.keys = some keys) : l.isDirect = false := by
  refine Bool.eq_false_iff.mpr fun hdirect => ?_
  rw [(read_of_direct hread hdirect).1] at hkeys
  cases hkeys

theorem conversesWith_of_configurable (hunset : Settings.Unset l.env)
    (hread : Invocation.read l.words = .ok inv) (hkeys : inv.keys = some keys)
    (hconfigurable : Keyring.Configurable keys) : l.ConversesWith keys := by
  obtain ⟨ring, hring, -⟩ := (Keyring.ofValue_exact keys).given hconfigurable
  have hgiven : Keyring.ofValue (textList ((some keys).getD ({} : Settings).keys)) = .ok ring :=
    hring
  -- usable keys make a device, and the settings are the defaults
  rcases session_cases (Settings.load_of_unset hunset) hgiven with
      ⟨shown, host, -, hhost, hsession⟩ | ⟨why, hunknown, -⟩
  · refine ⟨_, hsession, Keyring.texts_of_ofValue (Host.start_keys hhost), fun input => ?_⟩
    rw [← hkeys] at hsession
    exact run_of_dialogue hread (indirect_of_keys hread hkeys) hsession input
  · -- the level of logging is the usual one
    cases hunknown

theorem failsOn_of_not_configurable (hunset : Settings.Unset l.env)
    (hread : Invocation.read l.words = .ok inv) (hkeys : inv.keys = some keys)
    (hbroken : ¬ Keyring.Configurable keys) : l.FailsOn keys := by
  obtain ⟨why, hring, hkind⟩ := (Keyring.ofValue_exact keys).refused hbroken
  have hshown : Shown.ofLevel ({} : Settings).logLevel = .ok (.atLeast 20) := rfl
  have hsession : l.session inv.keys = .error (.failed why) := by
    simp only [session, Settings.load_of_unset hunset, hshown, hkeys, Option.getD_some,
      Host.start_error hring, bind, Except.bind]
  exact ⟨why, hring, hkind, run_of_no_dialogue hread (indirect_of_keys hread hkeys) hsession⟩

/-- **What becomes of the option for keys**, where the environment has no settings.  Any text can be
given to it.  A text of single characters is accepted with the keys that it lists, and any other is
refused with a complaint on the first key that is none, before there is a device.  However they were
given, accepted keys are single characters.  If there are at most eight and each fits a byte, the
program begins a dialogue on a device that has them; otherwise the keyring refuses them, and the
program fails with that. -/
theorem keys_option (hunset : Settings.Unset l.env) :
    (∀ text, GivesKeys ["--keys=" ++ text] text []) ∧
      (∀ text ts, GivesKeys l.words text ts → (∀ key ∈ optionKeys text, key.length = 1) →
        Invocation.read l.words =
          Invocation.readTokens { keys := some (optionKeys text) } [] ts) ∧
      (∀ text ts key, GivesKeys l.words text ts →
        (optionKeys text).find? (fun key => decide (key.length ≠ 1)) = some key →
          ∀ input, l.run input = ⟨"", (keyComplaint key).err, l.files, .exit 2⟩) ∧
      ∀ inv keys, Invocation.read l.words = .ok inv → inv.keys = some keys →
        (∀ key ∈ keys, key.length = 1) ∧
          (Keyring.Configurable keys → l.ConversesWith keys) ∧
          (¬ Keyring.Configurable keys → l.FailsOn keys) := by
  refine ⟨GivesKeys.of_equals, ?_, ?_, ?_⟩
  · intro text ts hgives hsingle
    rw [hgives.read, Invocation.withKeys_of_single hsingle]
    rfl
  · intro text ts key hgives hfirst input
    have hread : Invocation.read l.words = .error (keyComplaint key) := by
      rw [hgives.read, Invocation.withKeys_of_first hfirst]
      rfl
    simp only [run, course, hread, early]
    rfl
  · intro inv keys hread hkeys
    obtain ⟨ts, -, haccepts⟩ := Invocation.read_iff.mp hread
    have hsingle := haccepts.single (fun _ hnone => by cases hnone) keys hkeys
    exact ⟨hsingle, conversesWith_of_configurable hunset hread hkeys,
      failsOn_of_not_configurable hunset hread hkeys⟩

/-- Blanks and empty places make no keys, and a key may be given twice.  Another is too wide. -/
theorem keys_option_runs :
    Settings.Unset [] ∧ (ofWords ["--keys= X,é,,X"]).ConversesWith ["X", "é", "X"] ∧
      (ofWords ["--keys=€"]).FailsOn ["€"] := by
  have hunset : Settings.Unset [] := nofun
  have hkeys : Keyring.Configurable ["X", "é", "X"] := keysRule?_eq_none_iff.mp rfl
  have hwide : ¬ Keyring.Configurable ["€"] := fun hconfigurable => by
    cases keysRule?_eq_none_iff.mpr hconfigurable
  obtain ⟨hany, hread, -, hcases⟩ := keys_option (l := ofWords ["--keys= X,é,,X"]) hunset
  have hgiven := hread " X,é,,X" [] (hany " X,é,,X") (by decide)
  refine ⟨hunset, (hcases _ _ hgiven rfl).2.1 hkeys, ?_⟩
  obtain ⟨-, hread, -, hcases⟩ := keys_option (l := ofWords ["--keys=€"]) hunset
  have hgiven := hread "€" [] (hany "€") (by decide)
  exact (hcases _ _ hgiven rfl).2.2 hwide

/-- That every accepted list of keys makes a device is too much to say. -/
theorem not_all_accepted_keys_converse :
    ¬ ∀ (l : Launch) (inv : Invocation) (keys : List String), Settings.Unset l.env →
      Invocation.read l.words = .ok inv → inv.keys = some keys → l.ConversesWith keys := by
  intro hall
  have hread : Invocation.read ["--keys", "A,B,C,D,E,F,G,H,I"] =
      .ok ⟨some ["A", "B", "C", "D", "E", "F", "G", "H", "I"], none⟩ := rfl
  obtain ⟨s, hsession, -⟩ :=
    hall (ofWords ["--keys", "A,B,C,D,E,F,G,H,I"]) _ _ nofun hread rfl
  cases hsession

end Launch

end SectorDisk.Console
