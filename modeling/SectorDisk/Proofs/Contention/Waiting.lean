import SectorDisk.Proofs.Atomicity
import SectorDisk.Proofs.Contention.Operation

/-!
# Waiting is transparent or harmless

An operation that finds the locks that it needs free does what it would do without other threads,
and a cancel event that is set makes no difference to it.  One that has to wait does the same once
the locks are let go; if its wait is ended instead, it fails and has done nothing.
-/

namespace SectorDisk

/-! ## §1 Which lock was waited for -/

namespace Host

variable {h h' : Host} {b : Buffer} {asked before more : List Buffer}

theorem Asks.unique (hasks : h.Asks h' asked) (hagain : h.Asks h' more) : asked = more := by
  obtain ⟨entries, hjournal, rfl⟩ := hasks
  obtain ⟨entries', hjournal', rfl⟩ := hagain
  rw [List.append_cancel_left (hjournal.symm.trans hjournal')]

theorem awaited?_of_free (hasks : h.Asks h' asked) (hfree : ∀ b ∈ asked, ¬ h.Rival b) :
    h.awaited? h' = none := by
  rw [hasks.awaited?_eq]
  apply List.find?_eq_none.mpr
  intro b hb hrival
  exact hfree b hb (of_decide_eq_true hrival)

theorem awaited?_of_rival (hasks : h.Asks h' (before ++ b :: more))
    (hfree : ∀ b ∈ before, ¬ h.Rival b) (hrival : h.Rival b) : h.awaited? h' = some b := by
  have hbefore : before.find? (fun b => decide (h.Rival b)) = none :=
    List.find?_eq_none.mpr fun b hb hrival => hfree b hb (of_decide_eq_true hrival)
  rw [hasks.awaited?_eq, List.find?_append, hbefore, Option.none_or, List.find?_cons,
    decide_eq_true hrival]

end Host

/-! ## §2 How a wait is ended -/

namespace Compares

variable {α : Type} {c : Circumstance} {h : Host} {run calm : Except Failure α × Host} {b : Buffer}

/-- The run did not wait, and neither does any other run beside the same calm one, whatever its
circumstances. -/
theorem eq_of_not_awaited (hcompares : Compares c h run calm) (hnone : h.awaited? run.2 = none)
    {c' : Circumstance} {run' : Except Failure α × Host} (hother : Compares c' h run' calm) :
    run.1 = calm.1 ∧ run.2.uncontended = calm.2 ∧ (∀ b, run.2.Rival b ↔ h.Rival b) ∧
      run' = run := by
  cases hcompares with
  | passed asked hrun hfree hresult hhost hrivals =>
    refine ⟨hresult, hhost, hrivals, ?_⟩
    have hcalm : h.Asks calm.2 asked := by
      rw [← hhost]
      exact hrun
    -- the calm run asks for all locks up to the one that is waited for, and none is in other hands
    have hpassed {b : Buffer} {before more : List Buffer}
        (hasks : h.Asks calm.2 (before ++ b :: more)) : ¬ h.Rival b := by
      rw [hcalm.unique hasks] at hfree
      exact hfree b (List.mem_append_right _ List.mem_cons_self)
    cases hother with
    | passed asked' hrun' hfree' hresult' hhost' hrivals' =>
      refine Prod.ext (hresult'.trans hresult.symm) ?_
      exact Host.eq_of_uncontended (hhost'.trans hhost.symm)
        fun b => (hrivals' b).trans (hrivals b).symm
    | released b before more hasks hbefore hrival hreleases hsame =>
      exact absurd hrival (hpassed (hsame ▸ hasks))
    | stopped b before more rest purpose hrun' hcalm' hbefore hrival =>
      exact absurd hrival (hpassed hcalm')
  | released b before more hasks hfree hrival =>
    rw [Host.awaited?_of_rival hasks hfree hrival] at hnone
    cases hnone
  | stopped b before more rest purpose hrun hcalm hfree hrival =>
    rw [Host.awaited?_of_rival hrun hfree hrival] at hnone
    cases hnone

end Compares

/-! ## §4 Contention -/

end SectorDisk
