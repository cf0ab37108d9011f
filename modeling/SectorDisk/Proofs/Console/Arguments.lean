import Mathlib.Data.List.Forall2
import SectorDisk.Proofs.Console.Invocation

/-!
# Arguments of accepted command lines

Every argument of an accepted command line was read from one of the words as its form says, or is
the empty list, which the word `--` stands for.  So the requests that are ever carried out have
arguments of few types (`Request.Spelled`).
-/

namespace SectorDisk.Console

/-! ## §1 Filling -/

/-- The value is one that the argument may get: what its reader makes of a text, or the empty
list. -/
def Argument.Gives (a : Argument) (v : Value) : Prop :=
  v = .list [] ∨ ∃ text, a.reader.read text = .ok v

variable {f : Form} {a : Argument} {word : String} {v : Value}

theorem gives_of_readArgument (hread : readArgument f a word = .ok v) : a.Gives v := by
  unfold readArgument at hread
  split at hread
  · rename_i found hfound
    cases hread
    exact .inr ⟨word, hfound⟩
  · cases hread

theorem gives_of_readOrEmpty (hread : readOrEmpty f a word = .ok v) : a.Gives v := by
  unfold readOrEmpty at hread
  split at hread
  · cases hread
    exact .inl rfl
  · exact gives_of_readArgument hread

/-- The values that were added are values for the arguments that were left. -/
def Filled.Adds (filled filled' : Filled) (left : List Argument) : Prop :=
  ∃ vs, filled'.arguments = filled.arguments ++ vs ∧ List.Forall₂ Argument.Gives left vs

/-- An argument that is taken stands before those that are left. -/
theorem Filled.Adds.cons {filled filled' : Filled} {left : List Argument} (hgives : a.Gives v)
    (hrest : (filled.withArgument v).Adds filled' left) : filled.Adds filled' (a :: left) := by
  obtain ⟨vs, harguments, hvs⟩ := hrest
  refine ⟨v :: vs, ?_, .cons hgives hvs⟩
  rw [harguments, withArgument, List.append_assoc, List.singleton_append]

/-- **Filling a form** adds a value for each argument that is left. -/
theorem adds_of_fill {filled filled' : Filled} {left : List Argument} {taken : Bool}
    {ts : List Token} (hfill : fill f filled left taken ts = .ok filled') :
    filled.Adds filled' left := by
  -- the cases are those of the words that are left: two of them take an argument
  fun_induction fill f filled left taken ts with
  | case1 filled left taken hnone =>
    cases hfill
    rw [List.isEmpty_iff.mp hnone]
    exact ⟨[], (List.append_nil _).symm, .nil⟩
  | case2 | case9 | case10 | case13 => cases hfill
  | case4 filled taken word rest a left ih =>
    obtain ⟨v, hread, hrest⟩ := exists_of_bind_ok hfill
    exact .cons (gives_of_readOrEmpty hread) (ih v hrest)
  | case6 filled taken hfresh a left word rest ih =>
    obtain ⟨v, hread, hrest⟩ := exists_of_bind_ok hfill
    exact .cons (gives_of_readArgument hread) (ih v hrest)
  | case3 | case5 | case7 | case8 | case11 | case12 =>
    -- no argument is taken
    rename_i ih
    exact ih hfill

/-! ## §2 Requests -/

/-- The request is that of a command with a value for each of its arguments. -/
def Request.Spelled (r : Request) : Prop :=
  ∃ (verb : Verb) (filled : Filled), r = verb.request filled ∧
    List.Forall₂ Argument.Gives (verb.arguments.map (·.1)) filled.arguments

theorem Invocation.Accepts.spelled {inv inv' : Invocation} {ts : List Token} {r : Request}
    (haccepts : Accepts inv ts inv') (hnone : inv.request = none)
    (hrequest : inv'.request = some r) : r.Spelled := by
  induction haccepts with
  | nothing =>
    rw [hnone] at hrequest
    cases hrequest
  | @command inv word rest verb filled hverb hfill hleft =>
    cases hrequest
    unfold Form.fill at hfill
    split at hfill
    · cases hfill
    · obtain ⟨vs, harguments, hvs⟩ := adds_of_fill hfill
      rw [List.nil_append] at harguments
      exact ⟨verb, filled, rfl, harguments ▸ hvs⟩
  | attached _ _ _ ih | following _ _ _ ih => exact ih hnone hrequest

/-- **What an accepted command line asks for** has arguments that its words spell. -/
theorem Invocation.spelled_of_read {words : List String} {inv : Invocation} {r : Request}
    (hread : read words = .ok inv) (hrequest : inv.request = some r) : r.Spelled := by
  obtain ⟨ts, -, haccepts⟩ := read_iff.mp hread
  exact haccepts.spelled rfl hrequest

theorem Argument.Gives.eq_int {name : String} (hgives : Gives ⟨name, .integer⟩ v) :
    v = .list [] ∨ ∃ n : Int, v = .int n := by
  rcases hgives with hnone | ⟨text, hread⟩
  · exact .inl hnone
  · simp only [Reader.read] at hread
    split at hread
    · cases hread
      exact .inr ⟨_, rfl⟩
    · cases hread

theorem Argument.Gives.eq_string {name : String} (hgives : Gives ⟨name, .text⟩ v) :
    v = .list [] ∨ ∃ s : String, v = .string s := by
  rcases hgives with hnone | ⟨text, hread⟩
  · exact .inl hnone
  · cases hread
    exact .inr ⟨text, rfl⟩

/-- The only value for an only argument. -/
theorem gives_headD {vs : List Value} (hgives : List.Forall₂ Argument.Gives [a] vs) :
    a.Gives (vs.headD .none) := by
  cases hgives with
  | cons hfirst _ => exact hfirst

namespace Request.Spelled

variable {r : Request}

/-- The sector of a command that does something to a sector. -/
theorem sector (hspelled : r.Spelled) {s : Value}
    (hr : r = .lock s ∨ r = .erase s ∨ r = .mirror s) : s = .list [] ∨ ∃ n : Int, s = .int n := by
  obtain ⟨verb, filled, rfl, hgives⟩ := hspelled
  cases verb with
  | lock | erase | mirror =>
    simp only [Verb.request, lock.injEq, erase.injEq, mirror.injEq, reduceCtorEq, or_false,
      false_or] at hr
    subst hr
    exact (gives_headD hgives).eq_int
  | read | write | unlock | lockInfo | backup | dump | metrics | demo =>
    simp [Verb.request] at hr

/-- The path of a backup. -/
theorem path {p : Value} (hspelled : (Request.backup p).Spelled) :
    p = .list [] ∨ ∃ s : String, p = .string s := by
  obtain ⟨verb, filled, hr, hgives⟩ := hspelled
  cases verb with
  | backup =>
    simp only [Verb.request, backup.injEq] at hr
    subst hr
    exact (gives_headD hgives).eq_string
  | read | write | lock | unlock | lockInfo | erase | mirror | dump | metrics | demo =>
    simp [Verb.request] at hr

end Request.Spelled

end SectorDisk.Console
