import Mathlib.Data.List.Forall2
import Mathlib.Data.Nat.Digits.Defs
import SectorDisk.Text.Hex

/-!
# Hexadecimal text

A text spells bytes if it is made of pairs of digits, in either case, with white space of ASCII
before, between and behind the pairs but not inside one.  `Spells` says which bytes such a text
spells, one for each pair.  The reader accepts these texts and no others (`read_eq_ok_iff`), and
bytes that are written with blanks between them make such a text (`spells_spaced`).

`Denotes` says which number digits stand for, the most significant first; filling up with zeros on
the left makes no difference to it (`denotes_padded`).
-/

namespace SectorDisk.Text.Hex

variable {c : Char} {cs : List Char} {bytes : List UInt8} {n position : Nat}

/-! ## §1 Characters -/

/-- The digits in the order of their values. -/
def lowerDigits : List Char :=
  ['0', '1', '2', '3', '4', '5', '6', '7', '8', '9', 'a', 'b', 'c', 'd', 'e', 'f']

/-- The digits with capital letters. -/
def upperDigits : List Char :=
  ['0', '1', '2', '3', '4', '5', '6', '7', '8', '9', 'A', 'B', 'C', 'D', 'E', 'F']

/-- The character is the digit of a value, in either case. -/
def IsDigit (c : Char) (n : Nat) : Prop :=
  lowerDigits[n]? = some c ∨ upperDigits[n]? = some c

/-- The character is white space of ASCII. -/
def IsSpace (c : Char) : Prop :=
  c ∈ [' ', '\t', '\n', '\x0b', '\x0c', '\r']

theorem isAsciiBlank_iff : isAsciiBlank c = true ↔ IsSpace c := by
  have hcode (k : Char) : c = k ↔ c.toNat = k.toNat := Char.toNat_inj.symm
  simp only [isAsciiBlank, IsSpace, List.mem_cons, List.not_mem_nil, or_false, hcode,
    Bool.or_eq_true, beq_iff_eq, Bool.and_eq_true, decide_eq_true_eq, Char.reduceToNat]
  omega

/-- Each row has the digits of the sixteen values. -/
theorem digitValue?_rows : ∀ n : Fin 16,
    digitValue? lowerDigits[n.val] = some n.val ∧ digitValue? upperDigits[n.val] = some n.val := by
  decide

theorem digitValue?_of_isDigit (hdigit : IsDigit c n) : digitValue? c = some n := by
  rcases hdigit with hlower | hupper
  · obtain ⟨hn, rfl⟩ := List.getElem?_eq_some_iff.mp hlower
    exact (digitValue?_rows ⟨n, hn⟩).1
  · obtain ⟨hn, rfl⟩ := List.getElem?_eq_some_iff.mp hupper
    exact (digitValue?_rows ⟨n, hn⟩).2

theorem isDigit_of_digitValue? (hvalue : digitValue? c = some n) : IsDigit c n := by
  have hdecimal : ∀ i : Fin 10, lowerDigits[i.val]? = some (Char.ofNat (48 + i.val)) := by decide
  have hupper : ∀ i : Fin 6, upperDigits[10 + i.val]? = some (Char.ofNat (65 + i.val)) := by decide
  have hlower : ∀ i : Fin 6, lowerDigits[10 + i.val]? = some (Char.ofNat (97 + i.val)) := by decide
  -- the character is the one at its place in its row
  unfold digitValue? at hvalue
  rw [← Char.ofNat_toNat c]
  generalize c.toNat = k at hvalue
  dsimp only at hvalue
  split at hvalue
  · cases hvalue
    obtain ⟨i, rfl⟩ := Nat.exists_eq_add_of_le (m := 48) (n := k) (by omega)
    rw [Nat.add_sub_cancel_left]
    exact .inl (hdecimal ⟨i, by omega⟩)
  · split at hvalue
    · cases hvalue
      obtain ⟨i, rfl⟩ := Nat.exists_eq_add_of_le (m := 65) (n := k) (by omega)
      have hi : 65 + i - 55 = 10 + i := by omega
      rw [hi]
      exact .inr (hupper ⟨i, by omega⟩)
    · split at hvalue
      · cases hvalue
        obtain ⟨i, rfl⟩ := Nat.exists_eq_add_of_le (m := 97) (n := k) (by omega)
        have hi : 97 + i - 87 = 10 + i := by omega
        rw [hi]
        exact .inl (hlower ⟨i, by omega⟩)
      · cases hvalue

theorem IsDigit.not_blank (hdigit : IsDigit c n) : isAsciiBlank c = false := by
  have hvalue := digitValue?_of_isDigit hdigit
  cases hblank : isAsciiBlank c with
  | false => rfl
  | true =>
    have hnone : ∀ k, IsSpace k → digitValue? k = none := by simp [IsSpace, digitValue?]
    rw [hnone c (isAsciiBlank_iff.mp hblank)] at hvalue
    cases hvalue

theorem IsDigit.ascii (hdigit : IsDigit c n) : c.toNat < 128 := by
  have hrows : ∀ k ∈ lowerDigits ++ upperDigits, k.toNat < 128 := by
    simp [lowerDigits, upperDigits]
  rcases hdigit with hlower | hupper
  · exact hrows c (List.mem_append_left _ (List.mem_of_getElem? hlower))
  · exact hrows c (List.mem_append_right _ (List.mem_of_getElem? hupper))

theorem IsSpace.ascii (hspace : IsSpace c) : c.toNat < 128 := by
  have hspaces : ∀ k, IsSpace k → k.toNat < 128 := by simp [IsSpace]
  exact hspaces c hspace

theorem isDigit_digit (hn : n < 16) : IsDigit (digit n) n := by
  have hrow : ∀ i : Fin 16, lowerDigits[i.val]? = some (digit i.val) := by decide
  exact .inl (hrow ⟨n, hn⟩)

/-! ## §2 Texts -/

/-- The text is made of pairs of digits with white space before, between and behind them, and each
pair spells a byte, the first digit being the upper half. -/
inductive Spells : List Char → List UInt8 → Prop
  | nothing : Spells [] []
  | space {c : Char} {cs : List Char} {bytes : List UInt8} (hspace : IsSpace c)
    (hrest : Spells cs bytes) : Spells (c :: cs) bytes
  | pair {upper lower : Char} {high low : Nat} {cs : List Char} {bytes : List UInt8}
    (hupper : IsDigit upper high) (hlower : IsDigit lower low) (hrest : Spells cs bytes) :
    Spells (upper :: lower :: cs) ((16 * high + low).toUInt8 :: bytes)

theorem Spells.ascii (hspells : Spells cs bytes) : ∀ c ∈ cs, c.toNat < 128 := by
  induction hspells with
  | nothing => exact List.forall_mem_nil _
  | space hspace _ ih => exact List.forall_mem_cons.mpr ⟨hspace.ascii, ih⟩
  | pair hupper hlower _ ih =>
    exact List.forall_mem_cons.mpr ⟨hupper.ascii, List.forall_mem_cons.mpr ⟨hlower.ascii, ih⟩⟩

theorem Spells.readFrom_eq (hspells : Spells cs bytes) (position : Nat) :
    readFrom position cs = .ok bytes := by
  induction hspells generalizing position with
  | nothing => rfl
  | space hspace _ ih =>
    unfold readFrom
    rw [if_pos (isAsciiBlank_iff.mpr hspace), ih]
  | pair hupper hlower _ ih =>
    unfold readFrom
    rw [if_neg (Bool.eq_false_iff.mp hupper.not_blank), digitValue?_of_isDigit hupper]
    dsimp only
    rw [digitValue?_of_isDigit hlower]
    dsimp only
    rw [ih]
    rfl

theorem spells_of_readFrom (hread : readFrom position cs = .ok bytes) : Spells cs bytes := by
  fun_induction readFrom position cs generalizing bytes with
  | case1 =>
    cases hread
    exact .nothing
  | case2 position c rest hblank ih => exact .space (isAsciiBlank_iff.mp hblank) (ih hread)
  | case3 => cases hread
  | case4 => cases hread
  | case5 => cases hread
  | case6 position c hsolid high d rest hhigh low hlow ih =>
    -- the bytes are that of the first pair and those of the rest
    cases hrest : readFrom (position + 2) rest with
    | error e =>
      rw [hrest] at hread
      cases hread
    | ok more =>
      rw [hrest] at hread
      cases hread
      exact .pair (isDigit_of_digitValue? hhigh) (isDigit_of_digitValue? hlow) (ih hrest)

/-- The reader accepts what spells bytes and nothing else. -/
theorem read_eq_ok_iff : read cs = .ok bytes ↔ Spells cs bytes := by
  constructor
  · intro hread
    unfold read at hread
    split at hread
    · cases hread
    · exact spells_of_readFrom hread
  · intro hspells
    have hascii : cs.findIdx? (fun c => decide (128 ≤ c.toNat)) = none := by
      rw [List.findIdx?_eq_none_iff]
      intro c hc
      exact decide_eq_false (Nat.not_le.mpr (hspells.ascii c hc))
    rw [read, hascii]
    exact hspells.readFrom_eq 0

/-! ## §3 Bytes with blanks between them -/

theorem spells_byte (b : UInt8) : Spells (byte b) [b] := by
  have hb := b.toNat_lt
  have hupper := isDigit_digit (n := b.toNat / 16) (by omega)
  have hlower := isDigit_digit (n := b.toNat % 16) (by omega)
  have hvalue : (16 * (b.toNat / 16) + b.toNat % 16).toUInt8 = b := by
    rw [Nat.div_add_mod]
    exact UInt8.ofNat_toNat
  have hspells := Spells.pair hupper hlower .nothing
  rw [hvalue] at hspells
  exact hspells

theorem Spells.append {ds : List Char} {more : List UInt8} (hspells : Spells cs bytes)
    (hmore : Spells ds more) : Spells (cs ++ ds) (bytes ++ more) := by
  induction hspells with
  | nothing => exact hmore
  | space hspace _ ih => exact .space hspace ih
  | pair hupper hlower _ ih => exact .pair hupper hlower ih

/-- Texts with blanks between them spell their bytes one after the other. -/
theorem spells_intercalate {texts : List (List Char)} {parts : List (List UInt8)}
    (hspells : List.Forall₂ Spells texts parts) :
    Spells ([' '].intercalate texts) parts.flatten := by
  induction hspells with
  | nil => exact .nothing
  | @cons text part texts parts hfirst hrest ih =>
    rw [List.flatten_cons]
    cases texts with
    | nil =>
      cases hrest
      rw [List.intercalate_singleton, List.flatten_nil, List.append_nil]
      exact hfirst
    | cons text' texts =>
      rw [List.intercalate_cons_cons, List.append_assoc]
      exact hfirst.append (.space (List.mem_cons_self ..) ih)

theorem spells_spaced (bytes : List UInt8) : Spells (spaced bytes) bytes := by
  have hpairs : List.Forall₂ Spells (bytes.map byte) (bytes.map fun b => [b]) := by
    rw [List.forall₂_map_left_iff, List.forall₂_map_right_iff, List.forall₂_same]
    exact fun b _ => spells_byte b
  have hspells := spells_intercalate hpairs
  rw [← List.flatMap_def, List.flatMap_singleton'] at hspells
  exact hspells

/-- Bytes are written with blanks and digits only. -/
theorem forall_spaced {P : Char → Prop} (hblank : P ' ') (hdigit : ∀ c n, IsDigit c n → P c)
    (bytes : List UInt8) : ∀ c ∈ spaced bytes, P c := by
  have hbyte (b : UInt8) : ∀ c ∈ byte b, P c := by
    have hb := b.toNat_lt
    have hupper := hdigit _ _ (isDigit_digit (n := b.toNat / 16) (by omega))
    have hlower := hdigit _ _ (isDigit_digit (n := b.toNat % 16) (by omega))
    exact List.forall_mem_cons.mpr ⟨hupper, List.forall_mem_singleton.mpr hlower⟩
  induction bytes with
  | nil => exact List.forall_mem_nil _
  | cons b rest ih =>
    unfold spaced at ih ⊢
    rw [List.map_cons]
    cases hrest : rest.map byte with
    | nil =>
      rw [List.intercalate_singleton]
      exact hbyte b
    | cons text texts =>
      rw [hrest] at ih
      rw [List.intercalate_cons_cons, List.forall_mem_append, List.forall_mem_append,
        List.forall_mem_singleton]
      exact ⟨⟨hbyte b, hblank⟩, ih⟩

/-! ## §4 Numbers -/

/-- The digits stand for the number, the most significant first. -/
def Denotes (cs : List Char) (n : Nat) : Prop :=
  ∃ values, List.Forall₂ IsDigit cs values ∧ n = Nat.ofDigits 16 values.reverse

theorem denotes_digits (n : Nat) : Denotes (digits n) n := by
  induction n using Nat.strongRecOn with
  | ind n ih =>
    unfold digits
    split
    · rename_i hn
      refine ⟨[n], .cons (isDigit_digit hn) .nil, ?_⟩
      rw [List.reverse_singleton, Nat.ofDigits_singleton]
    · rename_i hn
      -- the digits of the quotient come first, and that of the remainder is the last
      obtain ⟨values, hvalues, hquotient⟩ := ih (n / 16) (Nat.div_lt_self (by omega) (by decide))
      have hlast : List.Forall₂ IsDigit [digit (n % 16)] [n % 16] :=
        .cons (isDigit_digit (Nat.mod_lt n (by decide))) .nil
      refine ⟨values ++ [n % 16], List.rel_append hvalues hlast, ?_⟩
      rw [List.reverse_append, List.reverse_singleton, List.singleton_append, Nat.ofDigits_cons,
        ← hquotient]
      exact (Nat.mod_add_div n 16).symm

theorem denotes_padded (width n : Nat) : Denotes (padded width n) n := by
  obtain ⟨values, hvalues, hn⟩ := denotes_digits n
  have hzero : IsDigit '0' 0 := .inl rfl
  have hzeros (k : Nat) : List.Forall₂ IsDigit (List.replicate k '0') (List.replicate k 0) := by
    induction k with
    | zero => exact .nil
    | succ k ih => exact .cons hzero ih
  refine ⟨_, List.rel_append (hzeros _) hvalues, ?_⟩
  rw [List.reverse_append, List.reverse_replicate, Nat.ofDigits_append_replicate_zero]
  exact hn

theorem length_padded (width n : Nat) : width ≤ (padded width n).length := by
  rw [padded, List.length_append, List.length_replicate]
  omega

theorem Denotes.not_blank (hdenotes : Denotes cs n) : ∀ c ∈ cs, isAsciiBlank c = false := by
  obtain ⟨values, hvalues, -⟩ := hdenotes
  induction hvalues with
  | nil => exact List.forall_mem_nil _
  | cons hdigit _ ih => exact List.forall_mem_cons.mpr ⟨hdigit.not_blank, ih⟩

end SectorDisk.Text.Hex
