import SectorDisk.Console.Program
import SectorDisk.Proofs.Result

/-!
# Accepted command lines

A command line that is read to the end is one of few shapes: options for keys, and behind them a
command to which all further words belong (`Invocation.Accepts`).  So whether it begins with a
command can be told from whether it gives keys.
-/

namespace SectorDisk.Console

/-! ## §1 Shapes -/

namespace Invocation

/-- The command lines that are read to the end, with what was known before them and what is known
behind them.  An option for keys sets these, whether its value is attached or follows; the first
argument is a command, and all words behind it are its own. -/
inductive Accepts : Invocation → List Token → Invocation → Prop
  | nothing {inv} : Accepts inv [] inv
  | command {inv word rest verb filled} (hverb : Verb.ofWord? word = some verb)
      (hfill : verb.form.fill (rest.map Token.word) = .ok filled) (hleft : filled.extras = []) :
      Accepts inv (.argument word :: rest) { inv with request := some (verb.request filled) }
  | attached {inv inv' word switch spelling value name text rest keys}
      (hwish : wish switch spelling value = .ok (.value name text))
      (hkeys : inv.withKeys text = .ok { inv with keys := some keys })
      (hrest : Accepts { inv with keys := some keys } rest inv') :
      Accepts inv (.option word switch spelling value :: rest) inv'
  | following {inv inv' word switch spelling value name text rest keys}
      (hwish : wish switch spelling value = .ok (.following name))
      (hkeys : inv.withKeys text = .ok { inv with keys := some keys })
      (hrest : Accepts { inv with keys := some keys } rest inv') :
      Accepts inv (.option word switch spelling value :: .argument text :: rest) inv'

variable {inv inv' : Invocation} {extras : List String} {ts : List Token}

theorem finish_ok (hfinish : finish inv extras = .ok inv') : extras = [] ∧ inv' = inv := by
  cases extras with
  | nil =>
    cases hfinish
    exact ⟨rfl, rfl⟩
  | cons word rest => cases hfinish

theorem withKeys_ok {text : String} (hkeys : inv.withKeys text = .ok inv') :
    ∃ keys, inv' = { inv with keys := some keys } := by
  unfold withKeys at hkeys
  split at hkeys
  · cases hkeys
    exact ⟨_, rfl⟩
  · split at hkeys
    · cases hkeys
      exact ⟨_, rfl⟩
    · cases hkeys

theorem bind_withKeys_ok {text : String} {next : Invocation → Except Stop Invocation}
    (hbind : (inv.withKeys text >>= next) = .ok inv') :
    ∃ keys, inv.withKeys text = .ok { inv with keys := some keys } ∧
      next { inv with keys := some keys } = .ok inv' := by
  obtain ⟨known, hkeys, hnext⟩ := exists_of_bind_ok hbind
  obtain ⟨keys, rfl⟩ := withKeys_ok hkeys
  exact ⟨keys, hkeys, hnext⟩

theorem command_ok {word : String} {words : List String}
    (hcommand : inv.command extras word words = .ok inv') :
    ∃ verb filled, Verb.ofWord? word = some verb ∧ verb.form.fill words = .ok filled ∧
      extras = [] ∧ filled.extras = [] ∧
      inv' = { inv with request := some (verb.request filled) } := by
  unfold command at hcommand
  cases hverb : Verb.ofWord? word with
  | none =>
    rw [hverb] at hcommand
    cases hcommand
  | some verb =>
    simp only [hverb] at hcommand
    obtain ⟨filled, hfill, hfinish⟩ := exists_of_bind_ok hcommand
    obtain ⟨hextras, rfl⟩ := finish_ok hfinish
    obtain ⟨rfl, hleft⟩ := List.append_eq_nil_iff.mp hextras
    exact ⟨verb, filled, rfl, hfill, rfl, hleft, rfl⟩

/-- The word `--` is no command. -/
theorem ofWord?_dividerWord : Verb.ofWord? dividerWord = none := by decide

/-- What is read to the end is of an accepted shape, and no word before it was left over. -/
theorem accepts_of_readTokens (hread : readTokens inv extras ts = .ok inv') :
    extras = [] ∧ Accepts inv ts inv' := by
  fun_induction readTokens inv extras ts with
  | case1 inv extras =>
    obtain ⟨rfl, rfl⟩ := finish_ok hread
    exact ⟨rfl, .nothing⟩
  | case2 inv extras word rest =>
    obtain ⟨verb, filled, hverb, hfill, rfl, hleft, rfl⟩ := command_ok hread
    exact ⟨rfl, .command hverb hfill hleft⟩
  | case3 inv extras =>
    -- a last word `--` is left over
    cases (List.append_eq_nil_iff.mp (finish_ok hread).1).2
  | case4 inv extras rest =>
    -- a first word `--` would have to be a command
    obtain ⟨verb, filled, hverb, -⟩ := command_ok hread
    cases ofWord?_dividerWord.symm.trans hverb
  | case5 inv extras word rest ih =>
    -- so is an option that the program does not have
    cases (List.append_eq_nil_iff.mp (ih hread).1).2
  | case6 | case7 | case10 => cases hread
  | case8 inv extras word switch spelling value rest name text hwish ih =>
    obtain ⟨keys, hkeys, hrest⟩ := bind_withKeys_ok hread
    exact ⟨(ih _ hrest).1, .attached hwish hkeys (ih _ hrest).2⟩
  | case9 inv extras word switch spelling value name hwish text rest ih =>
    obtain ⟨keys, hkeys, hrest⟩ := bind_withKeys_ok hread
    exact ⟨(ih _ hrest).1, .following hwish hkeys (ih _ hrest).2⟩

theorem Accepts.readTokens (haccepts : Accepts inv ts inv') : readTokens inv [] ts = .ok inv' := by
  induction haccepts with
  | nothing => rfl
  | command hverb hfill hleft =>
    simp only [Invocation.readTokens, Invocation.command, hverb, hfill, bind, Except.bind, hleft,
      List.append_nil, finish]
  | attached hwish hkeys _ ih | following hwish hkeys _ ih =>
    simp only [Invocation.readTokens, hwish, hkeys, bind, Except.bind, ih]

/-- **The command lines that are read to the end** are those of the accepted shapes. -/
theorem read_iff {words : List String} :
    read words = .ok inv ↔ ∃ ts, tokens programForm words = .ok ts ∧ Accepts {} ts inv := by
  unfold read
  cases tokens programForm words with
  | error how => exact ⟨nofun, nofun⟩
  | ok ts =>
    constructor
    · exact fun hread => ⟨ts, rfl, (accepts_of_readTokens hread).2⟩
    · rintro ⟨_, ⟨⟩, haccepts⟩
      exact haccepts.readTokens

/-- Keys that are known stay known. -/
theorem Accepts.keys_isSome (haccepts : Accepts inv ts inv') (hkeys : inv.keys.isSome = true) :
    inv'.keys.isSome = true := by
  induction haccepts with
  | nothing | command => exact hkeys
  | attached _ _ _ ih | following _ _ _ ih => exact ih rfl

/-- A command line with a command begins with it, unless it gives keys. -/
theorem Accepts.command_or_keys {r : Request} (haccepts : Accepts {} ts inv)
    (hrequest : inv.request = some r) :
    (∃ word rest verb, ts = .argument word :: rest ∧ Verb.ofWord? word = some verb ∧
        inv.keys = none) ∨ inv.keys.isSome = true := by
  cases haccepts with
  | nothing => cases hrequest
  | command hverb => exact .inl ⟨_, _, _, rfl, hverb, rfl⟩
  | attached _ _ hrest | following _ _ hrest =>
    exact .inr (hrest.keys_isSome rfl)

end Invocation

/-! ## §2 Words and tokens -/

theorem Verb.ofWord?_eq_some {word : String} {verb : Verb} (hverb : Verb.ofWord? word = some verb) :
    verb.word = word := by
  have hfound := List.find?_some hverb
  exact of_decide_eq_true hfound

/-- No command looks like an option. -/
theorem Verb.undashed (verb : Verb) : verb.word.toList.head? ≠ some '-' := by
  cases verb <;> decide

/-- Every word has its token, in order. -/
theorem map_word_tokens {f : Form} {words : List String} {ts : List Token}
    (htokens : tokens f words = .ok ts) : ts.map Token.word = words := by
  fun_induction tokens f words generalizing ts with
  | case1 =>
    cases htokens
    rfl
  | case2 rest =>
    -- behind `--` nothing is judged
    cases htokens
    simp only [List.map_cons, List.map_map, Token.word]
    exact congrArg _ (List.map_id rest)
  | case3 word rest _ _ ih | case4 word rest _ _ _ _ _ ih | case5 word rest _ _ ih =>
    obtain ⟨tail, htail, rfl⟩ := exists_of_map_ok htokens
    rw [List.map_cons, ih htail, Token.word]
  | case6 => cases htokens

/-- A word that begins with no dash is an argument. -/
theorem tokens_of_undashed {f : Form} {word : String} {words : List String} {ts : List Token}
    (hplain : word.toList.head? ≠ some '-') (htokens : tokens f (word :: words) = .ok ts) :
    ∃ rest, ts = .argument word :: rest := by
  have hdivider : word ≠ dividerWord := by
    rintro rfl
    exact hplain rfl
  have hjudge : judge f word = .argument := if_pos hplain
  rw [tokens, if_neg hdivider, hjudge] at htokens
  obtain ⟨rest, -, hts⟩ := exists_of_map_ok htokens
  exact ⟨rest, hts⟩

/-! ## §3 Beginning with a command -/

namespace Launch

variable {l : Launch} {inv : Invocation} {r : Request}

theorem isDirect_cons {word : String} {words : List String} (hwords : l.words = word :: words) :
    l.isDirect = true ↔ word.toList.head? ≠ some '-' := by
  rw [isDirect, hwords]
  exact decide_eq_true_iff

/-- What begins with a command gives no keys. -/
theorem read_of_direct (hread : Invocation.read l.words = .ok inv) (hdirect : l.isDirect = true) :
    inv.keys = none ∧ ∃ r, inv.request = some r := by
  obtain ⟨ts, htokens, haccepts⟩ := Invocation.read_iff.mp hread
  cases hwords : l.words with
  | nil =>
    rw [isDirect, hwords] at hdirect
    cases hdirect
  | cons word words =>
    rw [hwords] at htokens
    obtain ⟨rest, rfl⟩ := tokens_of_undashed ((isDirect_cons hwords).mp hdirect) htokens
    cases haccepts with
    | command => exact ⟨rfl, _, rfl⟩

/-- A command behind keys is no beginning. -/
theorem isDirect_iff (hread : Invocation.read l.words = .ok inv) (hrequest : inv.request = some r) :
    l.isDirect = true ↔ inv.keys = none := by
  refine ⟨fun hdirect => (read_of_direct hread hdirect).1, fun hnone => ?_⟩
  obtain ⟨ts, htokens, haccepts⟩ := Invocation.read_iff.mp hread
  rcases haccepts.command_or_keys hrequest with
      ⟨command, rest, verb, rfl, hverb, -⟩ | hsome
  · -- the first token is the command, so it is spelled by the first word
    have hwords : l.words = command :: rest.map Token.word := (map_word_tokens htokens).symm
    rw [isDirect_cons hwords, ← Verb.ofWord?_eq_some hverb]
    exact verb.undashed
  · rw [hnone] at hsome
    cases hsome

end Launch

end SectorDisk.Console
