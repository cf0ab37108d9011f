import SectorDisk.Lock.Crowd

/-!
# Steps around a lock

A thread that waits does nothing but look again, so the steps of other threads are those that are
`Ready`.  `Effect` lists what such a step can do; everything about sequences of steps is read off
it.  A thread that owns the lock does not wait, and no thread waits twice (`Orderly`).
-/

namespace SectorDisk

/-! ## §1 Who takes a step -/

namespace Move

/-- The thread that comes for the lock. -/
def caller? : Move → Option String
  | .acquire t .. => some t
  | _ => none

/-- The thread that looks at the lock. -/
def looker? : Move → Option String
  | .acquire t .. => some t
  | .recheck t => some t
  | _ => none

/-- The thread that lets the lock go. -/
def leaver? : Move → Option String
  | .release t => some t
  | .leave t => some t
  | _ => none

end Move

namespace Crowd

/-- A thread waits for the lock. -/
def Waits (c : Crowd) (t : String) : Prop :=
  ∃ w ∈ c.waiting, w.thread = t

/-- A step that a crowd can take: a thread comes or lets go only when it does not wait. -/
def Ready (c : Crowd) (m : Move) : Prop :=
  ∀ t, m.caller? = some t ∨ m.leaver? = some t → ¬ c.Waits t

/-! ## §2 One look at the lock -/

/-- Why a thread gives up at a taken lock, if it does. -/
def verdict (c : Crowd) (w : Waiter) : Option Refusal :=
  if c.cancelled w then some .cancelled
  else if c.lock.interruptions ≠ w.ticket then some .interrupted
  else none

theorem verdict_eq_none {c : Crowd} {w : Waiter} :
    c.verdict w = none ↔ c.cancelled w = false ∧ w.ticket = c.lock.interruptions := by
  unfold verdict
  cases c.cancelled w with
  | true => simp only [if_true, reduceCtorEq, false_and]
  | false =>
    by_cases hticket : c.lock.interruptions = w.ticket
    · simp only [hticket, ne_eq, not_true_eq_false, if_false, Bool.false_eq_true, and_self]
    · simp only [hticket, Ne.symm hticket, ne_eq, not_false_eq_true, if_true, if_false,
        Bool.false_eq_true, reduceCtorEq, and_false]

variable {c : Crowd} {w : Waiter}

theorem cancelled_of_verdict (hwhy : c.verdict w = some .cancelled) : c.cancelled w = true := by
  unfold verdict at hwhy
  split at hwhy
  · assumption
  · split at hwhy <;> cases hwhy

theorem behind_of_verdict (hwhy : c.verdict w = some .interrupted) :
    c.lock.interruptions ≠ w.ticket := by
  unfold verdict at hwhy
  split at hwhy
  · cases hwhy
  · split at hwhy
    · assumption
    · cases hwhy

theorem cancelled_iff : c.cancelled w = true ↔ ∃ e, w.cancel = some e ∧ e ∈ c.events := by
  unfold cancelled
  cases w.cancel with
  | none => simp only [Bool.false_eq_true, reduceCtorEq, false_and, exists_false]
  | some event => simp only [List.contains_iff_mem, Option.some.injEq, exists_eq_left']

/-- The crowd after a thread got its lock. -/
def entered (c : Crowd) (w : Waiter) : Crowd :=
  c.granted w { c.lock with owner := some w.thread }

theorem look_of_free (hfree : c.lock.owner = none) (waits : Crowd) :
    c.look w waits = (c.entered w, [(w.thread, .ok ())]) := by
  simp only [look, Lock.attempt, hfree, entered]

theorem look_of_taken {o : String} (howner : c.lock.owner = some o) (waits : Crowd) :
    c.look w waits =
      match c.verdict w with
      | some why => (c, [(w.thread, .error (c.refusal w why))])
      | none => (waits, []) := by
  unfold look Lock.attempt verdict
  rw [howner]
  cases c.cancelled w with
  | true => rfl
  | false =>
    by_cases hticket : c.lock.interruptions = w.ticket
    · simp only [hticket, ne_eq, not_true_eq_false, if_false, Bool.false_eq_true]
    · simp only [hticket, ne_eq, not_false_eq_true, if_true, if_false, Bool.false_eq_true]

theorem without_of_not_waits {t : String} (hwaits : ¬ c.Waits t) : c.without t = c := by
  have hkept : c.waiting.filter (fun w => decide (w.thread ≠ t)) = c.waiting := by
    apply List.filter_eq_self.mpr
    intro w hw
    exact decide_eq_true fun heq => hwaits ⟨w, hw, heq⟩
  rw [without, hkept]

/-! ## §3 What a step does -/

/-- In the given step a thread looks at the lock: it comes, or it has waited. -/
inductive Looks (c : Crowd) : Move → Waiter → Prop
  | comes {t cancel operation entering} (hnew : ¬ c.Waits t) :
    Looks c (.acquire t cancel operation entering)
      ⟨t, cancel, operation, c.lock.interruptions, entering⟩
  | returns {w : Waiter} (hw : w ∈ c.waiting) : Looks c (.recheck w.thread) w

/-- A step lets the lock go of a thread that owns it, and `scopes` are the contexts left. -/
inductive LetsGo (c : Crowd) (t : String) : Move → (scopes : List String) → Prop
  | release : LetsGo c t (.release t) c.scopes
  | leave (hscope : t ∈ c.scopes) : LetsGo c t (.leave t) (c.scopes.erase t)

/-- What a step does to a crowd, and what ends by it. -/
inductive Effect (c : Crowd) : Move → Crowd → List Ending → Prop
  | entered {m : Move} {w : Waiter} (hlooks : c.Looks m w) (hfree : c.lock.owner = none) :
    Effect c m ((c.without w.thread).entered w) [(w.thread, .ok ())]
  | gaveUp {m : Move} {w : Waiter} {o why} (hlooks : c.Looks m w) (howner : c.lock.owner = some o)
    (hother : o ≠ w.thread) (hwhy : c.verdict w = some why) :
    Effect c m (c.without w.thread) [(w.thread, .error (c.refusal w why))]
  | queued {m : Move} {w : Waiter} {o} (hlooks : c.Looks m w) (hcomes : m.caller? = some w.thread)
    (howner : c.lock.owner = some o) (hother : o ≠ w.thread) (hcalm : c.verdict w = none) :
    Effect c m { c with waiting := c.waiting ++ [w] } []
  | freed {m : Move} {t scopes} (hlets : c.LetsGo t m scopes) (howner : c.lock.owner = some t) :
    Effect c m { c with lock := c.lock.freed, scopes := scopes } [(t, .ok ())]
  | reentered {t cancel operation entering} (howner : c.lock.owner = some t) :
    Effect c (.acquire t cancel operation entering) c [(t, .error (.reentered c.name))]
  | notOwner {m : Move} {t scopes} (hlets : c.LetsGo t m scopes) (howner : c.lock.owner ≠ some t) :
    Effect c m { c with scopes := scopes } [(t, .error (.notOwner c.name))]
  | idle {m : Move} (hidle : (∃ t, m = .recheck t) ∨ ∃ t, m = .leave t ∧ t ∉ c.scopes) :
    Effect c m c []
  | interrupted : Effect c .interrupt { c with lock := c.lock.interrupted } []
  | set {e} : Effect c (.set e) { c with events := e :: c.events } []
  | clear {e} : Effect c (.clear e) { c with events := c.events.filter fun x => decide (x ≠ e) } []

/-- No thread waits twice, and the owner of the lock does not wait. -/
structure Orderly (c : Crowd) : Prop where
  distinct : (c.waiting.map Waiter.thread).Nodup
  absent : ∀ t, c.lock.owner = some t → ¬ c.Waits t

variable {d : Crowd} {m : Move} {endings : List Ending}

theorem Looks.known (hlooks : c.Looks m w) :
    w ∈ c.waiting ∨ m = .acquire w.thread w.cancel w.operation w.entering ∧
      w.ticket = c.lock.interruptions := by
  cases hlooks with
  | comes hnew => exact Or.inr ⟨rfl, rfl⟩
  | returns hw => exact Or.inl hw

theorem Looks.not_waits (hlooks : c.Looks m w) (hcomes : m.caller? = some w.thread) :
    ¬ c.Waits w.thread := by
  cases hlooks with
  | comes hnew => exact hnew
  | returns hw => cases hcomes

/-- A thread that comes and does not own the lock gets it, gives up or waits. -/
theorem arrive_effect (hlooks : c.Looks m w) (hcomes : m.caller? = some w.thread)
    (hother : c.lock.owner ≠ some w.thread) : c.Effect m (c.arrive w).1 (c.arrive w).2 := by
  have hnew : ¬ c.Waits w.thread := hlooks.not_waits hcomes
  rw [arrive, if_neg hother]
  cases howner : c.lock.owner with
  | none =>
    have hentered := Effect.entered hlooks howner
    rw [without_of_not_waits hnew] at hentered
    rw [look_of_free howner]
    exact hentered
  | some o =>
    have hne : o ≠ w.thread := fun heq => hother (heq ▸ howner)
    rw [look_of_taken howner]
    cases hverdict : c.verdict w with
    | some why =>
      have hgave := Effect.gaveUp hlooks howner hne hverdict
      rw [without_of_not_waits hnew] at hgave
      exact hgave
    | none => exact .queued hlooks hcomes howner hne hverdict

theorem recheck_effect (horderly : c.Orderly) (t : String) :
    c.Effect (.recheck t) (c.recheck t).1 (c.recheck t).2 := by
  unfold recheck
  cases hfind : c.waiting.find? fun w => decide (w.thread = t) with
  | none => exact .idle (Or.inl ⟨t, rfl⟩)
  | some w =>
    have hw : w ∈ c.waiting := List.mem_of_find?_eq_some hfind
    have ht := List.find?_some hfind
    simp only [decide_eq_true_eq] at ht
    subst ht
    cases howner : c.lock.owner with
    | none =>
      have hlook := look_of_free (c := c.without w.thread) (w := w) howner c
      simp only [hlook]
      exact .entered (.returns hw) howner
    | some o =>
      have hne : o ≠ w.thread := fun heq => horderly.absent o howner ⟨w, hw, heq.symm⟩
      have hlook := look_of_taken (c := c.without w.thread) (w := w) howner c
      -- taking a thread off the list changes nothing that it looks at
      have hsame : (c.without w.thread).verdict w = c.verdict w := rfl
      rw [hsame] at hlook
      simp only [hlook]
      cases hverdict : c.verdict w with
      | some why => exact .gaveUp (.returns hw) howner hne hverdict
      | none => exact .idle (Or.inl ⟨w.thread, rfl⟩)

theorem step_effect (horderly : c.Orderly) (hready : c.Ready m) :
    c.Effect m (c.step m).1 (c.step m).2 := by
  cases m with
  | acquire t cancel operation entering =>
    have hnew : ¬ c.Waits t := hready t (Or.inl rfl)
    by_cases howner : c.lock.owner = some t
    · simp only [step, arrive, if_pos howner]
      exact .reentered howner
    · exact arrive_effect (.comes hnew) rfl howner
  | recheck t => exact recheck_effect horderly t
  | release t =>
    by_cases howner : c.lock.owner = some t
    · simp only [step, release, if_pos howner]
      exact .freed .release howner
    · simp only [step, release, if_neg howner]
      exact .notOwner .release howner
  | leave t =>
    by_cases hscope : t ∈ c.scopes
    · simp only [step, leave, List.contains_iff_mem.mpr hscope, if_true, release]
      by_cases howner : c.lock.owner = some t
      · simp only [if_pos howner]
        exact .freed (.leave hscope) howner
      · simp only [if_neg howner]
        exact .notOwner (.leave hscope) howner
    · have hnone : c.scopes.contains t = false :=
        Bool.eq_false_iff.mpr fun hcontains => hscope (List.contains_iff_mem.mp hcontains)
      simp only [step, leave, hnone, Bool.false_eq_true, if_false]
      exact .idle (Or.inr ⟨t, rfl, hscope⟩)
  | interrupt => exact .interrupted
  | set e => exact .set
  | clear e => exact .clear

/-- What fails in a step: a thread gives up at a lock in other hands, asks for the lock that it
owns, or lets go one that it does not own. -/
theorem Effect.error_cases {t : String} {e : Failure} (heffect : c.Effect m d endings)
    (hmem : (t, .error e) ∈ endings) :
    (∃ w o why, c.Looks m w ∧ c.lock.owner = some o ∧ o ≠ w.thread ∧ c.verdict w = some why ∧
        w.thread = t ∧ e = c.refusal w why ∧ d = c.without w.thread) ∨
      e = .reentered c.name ∧ d = c ∨
      ∃ scopes, c.LetsGo t m scopes ∧ e = .notOwner c.name ∧ d = { c with scopes := scopes } := by
  cases heffect with
  | gaveUp hlooks howner hother hwhy =>
    cases List.mem_singleton.mp hmem
    exact Or.inl ⟨_, _, _, hlooks, howner, hother, hwhy, rfl, rfl, rfl⟩
  | reentered howner =>
    cases List.mem_singleton.mp hmem
    exact Or.inr (Or.inl ⟨rfl, rfl⟩)
  | notOwner hlets howner =>
    cases List.mem_singleton.mp hmem
    exact Or.inr (Or.inr ⟨_, hlets, rfl, rfl⟩)
  -- whatever else ends, ends well
  | entered hlooks hfree => cases List.mem_singleton.mp hmem
  | freed hlets howner => cases List.mem_singleton.mp hmem
  | _ => cases hmem

/-! ## §4 Order -/

theorem ready_of_nobody (hnobody : c.waiting = []) (m : Move) : c.Ready m := by
  rintro t - ⟨w, hw, -⟩
  rw [hnobody] at hw
  cases hw

theorem ready_of_other (hcaller : m.caller? = none) (hleaver : m.leaver? = none) : c.Ready m := by
  rintro t (hcomes | hlets)
  · rw [hcaller] at hcomes
    cases hcomes
  · rw [hleaver] at hlets
    cases hlets

theorem not_waits_without (c : Crowd) (t : String) : ¬ (c.without t).Waits t := by
  rintro ⟨w, hw, ht⟩
  obtain ⟨-, hne⟩ := List.mem_filter.mp hw
  exact of_decide_eq_true hne ht

theorem Waits.of_without {t s : String} (hwaits : (c.without t).Waits s) : c.Waits s := by
  obtain ⟨w, hw, hs⟩ := hwaits
  exact ⟨w, (List.mem_filter.mp hw).1, hs⟩

theorem distinct_without (hdistinct : (c.waiting.map Waiter.thread).Nodup) (t : String) :
    ((c.without t).waiting.map Waiter.thread).Nodup :=
  hdistinct.sublist (List.filter_sublist.map _)

/-- A step keeps the order: who gets the lock waits no more, and who waits is not the owner. -/
theorem Effect.orderly (horderly : c.Orderly) (heffect : c.Effect m d endings) : d.Orderly := by
  cases heffect with
  | entered hlooks hfree =>
    rename_i w
    refine ⟨distinct_without horderly.distinct w.thread, ?_⟩
    intro t howner hwaits
    -- the new owner was taken off the list
    cases howner
    exact not_waits_without c w.thread hwaits
  | gaveUp hlooks howner hother hwhy =>
    rename_i w o why
    refine ⟨distinct_without horderly.distinct w.thread, ?_⟩
    intro t howner' hwaits
    exact horderly.absent t howner' hwaits.of_without
  | queued hlooks hcomes howner hother hcalm =>
    rename_i w o
    have hnew : ¬ c.Waits w.thread := hlooks.not_waits hcomes
    refine ⟨?distinct, ?absent⟩
    case distinct =>
      rw [List.map_append, List.map_singleton]
      refine List.nodup_append.mpr ⟨horderly.distinct, List.pairwise_singleton _ _, ?_⟩
      intro s hs t ht heq
      -- a thread that comes was not among those that wait, as the step was ready
      obtain ⟨x, hx, rfl⟩ := List.mem_map.mp hs
      exact hnew ⟨x, hx, heq.trans (List.mem_singleton.mp ht)⟩
    case absent =>
      rintro t howner' ⟨x, hx, rfl⟩
      rcases List.mem_append.mp hx with hx | hx
      · exact horderly.absent _ howner' ⟨x, hx, rfl⟩
      · rw [List.mem_singleton.mp hx] at howner'
        exact hother (Option.some.inj (howner.symm.trans howner'))
  | freed hlets howner =>
    refine ⟨horderly.distinct, ?_⟩
    intro t hnobody
    cases hnobody
  | reentered howner => exact horderly
  | notOwner hlets howner => exact ⟨horderly.distinct, horderly.absent⟩
  | idle hidle => exact horderly
  | interrupted => exact ⟨horderly.distinct, horderly.absent⟩
  | set => exact ⟨horderly.distinct, horderly.absent⟩
  | clear => exact ⟨horderly.distinct, horderly.absent⟩

end Crowd

end SectorDisk
