import Mathlib.Data.List.TakeWhile
import SectorDisk.Text.Blank

/-!
# Stripping

A stripped row is what is left of a row between the blanks at both of its ends (`Stripped`), and
there is one such rest (`trimWith_eq_iff`).  Texts are rows of characters or of code points.
-/

namespace SectorDisk.Text

variable {α : Type} {blank drop : α → Bool} {cs core : List α} {c : α}

/-- The row is the core with blanks around it, and the core neither begins nor ends with one. -/
structure Stripped (blank : α → Bool) (cs core : List α) : Prop where
  around : ∃ before after, cs = before ++ core ++ after ∧
    (∀ c ∈ before, blank c = true) ∧ ∀ c ∈ after, blank c = true
  first : ∀ c, core.head? = some c → blank c = false
  last : ∀ c, core.getLast? = some c → blank c = false

theorem dropWhile_of_head (hhead : ∀ c, cs.head? = some c → drop c = false) :
    cs.dropWhile drop = cs := by
  cases cs with
  | nil => rfl
  | cons c rest => rw [List.dropWhile_cons, hhead c rfl, if_neg Bool.false_ne_true]

theorem head_dropWhile {xs : List α} (hhead : (xs.dropWhile drop).head? = some c) :
    drop c = false := by
  have hnot := List.head?_dropWhile_not drop xs
  rw [hhead] at hnot
  exact hnot

theorem stripped_trimWith (blank : α → Bool) (cs : List α) :
    Stripped blank cs (trimWith blank cs) := by
  -- first the front is taken off, then the back of what is left
  have hfront := List.takeWhile_append_dropWhile (p := blank) (l := cs)
  have hback := congrArg List.reverse
    (List.takeWhile_append_dropWhile (p := blank) (l := (cs.dropWhile blank).reverse))
  rw [List.reverse_append, List.reverse_reverse] at hback
  refine ⟨⟨cs.takeWhile blank, ((cs.dropWhile blank).reverse.takeWhile blank).reverse, ?_,
    fun c => List.mem_takeWhile_imp, ?_⟩, ?_, ?_⟩
  · rw [List.append_assoc, trimWith, hback, hfront]
  · intro c hc
    exact List.mem_takeWhile_imp (List.mem_reverse.mp hc)
  · intro c hc
    rw [trimWith] at hc
    -- what is left of the front begins like the core
    have hfirst : (cs.dropWhile blank).head? = some c := by
      rw [← hback, List.head?_append, hc]
      rfl
    exact head_dropWhile hfirst
  · intro c hc
    rw [trimWith, List.getLast?_reverse] at hc
    exact head_dropWhile hc

/-- A row is stripped in one way. -/
theorem trimWith_eq_iff : trimWith blank cs = core ↔ Stripped blank cs core := by
  constructor
  · rintro rfl
    exact stripped_trimWith blank cs
  · rintro ⟨⟨before, after, rfl, hbefore, hafter⟩, hfirst, hlast⟩
    have hreversed : ∀ c ∈ after.reverse, blank c = true :=
      fun c hc => hafter c (List.mem_reverse.mp hc)
    have hend : ∀ c, core.reverse.head? = some c → blank c = false := by
      rw [List.head?_reverse]
      exact hlast
    rw [trimWith, List.append_assoc, List.dropWhile_append_of_pos hbefore]
    cases core with
    | nil =>
      -- there are blanks only
      rw [List.nil_append, ← List.append_nil after, List.dropWhile_append_of_pos hafter]
      rfl
    | cons c rest =>
      have hstart : ∀ k, (c :: rest ++ after).head? = some k → blank k = false := hfirst
      rw [dropWhile_of_head hstart, List.reverse_append, List.dropWhile_append_of_pos hreversed,
        dropWhile_of_head hend, List.reverse_reverse]

end SectorDisk.Text
