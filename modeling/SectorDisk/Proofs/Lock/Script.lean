import SectorDisk.Proofs.Lock.Steps

/-!
# Scripts around a lock

In a script everything settles after each step: the threads that the step wakes look at the lock
again, in any order and as often as they like, and so may others.  A step that lets the lock go or
interrupts it notifies all who wait; besides, a thread with a cancel event wakes by itself, because
it polls the event.

No wake-up is lost on this account.  After each step the lock is taken if anybody waits, and nobody
who waits has a reason to give up (`Calm`).  So it is known beforehand whom the next step ends.
-/

namespace SectorDisk

namespace Crowd

/-! ## §1 Settling -/

/-- The given threads look again, one after the other. -/
def recheckAll (c : Crowd) : List String → Crowd × List Ending
  | [] => (c, [])
  | t :: order =>
    let rest := (c.recheck t).1.recheckAll order
    (rest.1, (c.recheck t).2 ++ rest.2)

/-- A step notifies all who wait: it interrupts the lock or lets it go. -/
def Notifies (c : Crowd) (m : Move) : Prop :=
  m = .interrupt ∨ ∃ t scopes, c.LetsGo t m scopes ∧ c.lock.owner = some t

/-- After a step everything settles: who was notified and who watches a cancel event looks again. -/
def Settles (c : Crowd) (m : Move) (d : Crowd) (endings : List Ending) : Prop :=
  ∃ order,
    (∀ w ∈ (c.step m).1.waiting, c.Notifies m ∨ w.cancel.isSome = true → w.thread ∈ order) ∧
      d = ((c.step m).1.recheckAll order).1 ∧
      endings = (c.step m).2 ++ ((c.step m).1.recheckAll order).2

/-- What a script may do: threads that wait do nothing else, and at most one waits when the lock is
let go. -/
structure Allows (c : Crowd) (m : Move) : Prop where
  ready : c.Ready m
  single : ∀ {t scopes}, c.LetsGo t m scopes → c.lock.owner = some t → c.waiting.length ≤ 1

/-- A crowd that a script leads to from a free lock with nobody around it. -/
inductive Scripted (name : String) : Crowd → Prop
  | start : Scripted name { name := name }
  | step {c m d endings} (hscripted : Scripted name c) (hallows : c.Allows m)
    (hsettles : c.Settles m d endings) : Scripted name d

variable {c d : Crowd} {m : Move} {w : Waiter} {t o e : String} {endings : List Ending}
  {order : List String}

theorem settleAll_eq (c : Crowd) (ws : List Waiter) :
    c.settleAll ws = c.recheckAll (ws.map Waiter.thread) := by
  induction ws generalizing c with
  | nil => rfl
  | cons w ws ih => simp only [settleAll, ih, List.map_cons, recheckAll]

/-- Letting everybody look once is a way to settle. -/
theorem settles_act (c : Crowd) (m : Move) : c.Settles m (c.act m).1 (c.act m).2 := by
  refine ⟨(c.step m).1.waiting.map Waiter.thread, ?_, ?_, ?_⟩
  · intro w hw _
    exact List.mem_map_of_mem hw
  · simp only [act, settle, settleAll_eq]
  · simp only [act, settle, settleAll_eq]

/-! ## §2 Looking again -/

/-- Nobody who waits gets further by looking again. -/
def Calm (c : Crowd) : Prop :=
  ∀ w ∈ c.waiting, (∃ o, c.lock.owner = some o) ∧ c.verdict w = none

theorem recheck_of_not_waits (hwaits : ¬ c.Waits t) : c.recheck t = (c, []) := by
  have hnone : c.waiting.find? (fun w => decide (w.thread = t)) = none := by
    apply List.find?_eq_none.mpr
    intro w hw ht
    exact hwaits ⟨w, hw, of_decide_eq_true ht⟩
  rw [recheck, hnone]

/-- A thread that waits stands in one place of the list. -/
theorem exists_split (hdistinct : (c.waiting.map Waiter.thread).Nodup) (hw : w ∈ c.waiting) :
    ∃ before after, c.waiting = before ++ w :: after ∧
      (∀ x ∈ before, x.thread ≠ w.thread) ∧ ∀ x ∈ after, x.thread ≠ w.thread := by
  obtain ⟨before, after, hsplit⟩ := List.append_of_mem hw
  rw [hsplit, List.map_append, List.map_cons] at hdistinct
  obtain ⟨-, hrest, hapart⟩ := List.nodup_append.mp hdistinct
  refine ⟨before, after, hsplit, ?_, ?_⟩
  · intro x hx
    exact hapart _ (List.mem_map_of_mem hx) _ List.mem_cons_self
  · intro x hx heq
    exact (List.nodup_cons.mp hrest).1 (heq ▸ List.mem_map_of_mem hx)

theorem eq_of_thread_eq (hdistinct : (c.waiting.map Waiter.thread).Nodup) (hw : w ∈ c.waiting)
    {x : Waiter} (hx : x ∈ c.waiting) (heq : x.thread = w.thread) : x = w := by
  obtain ⟨before, after, hsplit, hbefore, hafter⟩ := exists_split hdistinct hw
  rw [hsplit] at hx
  rcases List.mem_append.mp hx with hx | hx
  · exact absurd heq (hbefore x hx)
  · rcases List.mem_cons.mp hx with rfl | hx
    · rfl
    · exact absurd heq (hafter x hx)

theorem recheck_of_waits (hdistinct : (c.waiting.map Waiter.thread).Nodup) (hw : w ∈ c.waiting) :
    c.recheck w.thread = (c.without w.thread).look w c := by
  obtain ⟨before, after, hsplit, hbefore, -⟩ := exists_split hdistinct hw
  have hfind : c.waiting.find? (fun x => decide (x.thread = w.thread)) = some w := by
    have hnone : before.find? (fun x => decide (x.thread = w.thread)) = none :=
      List.find?_eq_none.mpr fun x hx ht => hbefore x hx (of_decide_eq_true ht)
    rw [hsplit, List.find?_append, hnone, Option.none_or]
    simp only [List.find?_cons, decide_true]
  rw [recheck, hfind]

theorem without_of_split {before after : List Waiter} (hsplit : c.waiting = before ++ w :: after)
    (hbefore : ∀ x ∈ before, x.thread ≠ w.thread) (hafter : ∀ x ∈ after, x.thread ≠ w.thread) :
    c.without w.thread = { c with waiting := before ++ after } := by
  have hkept {xs : List Waiter} (hxs : ∀ x ∈ xs, x.thread ≠ w.thread) :
      xs.filter (fun x => decide (x.thread ≠ w.thread)) = xs :=
    List.filter_eq_self.mpr fun x hx => decide_eq_true (hxs x hx)
  rw [without, hsplit, List.filter_append, hkept hbefore, List.filter_cons_of_neg, hkept hafter]
  simp only [ne_eq, not_true_eq_false, decide_false, Bool.false_eq_true, not_false_eq_true]

theorem recheck_of_calm (hdistinct : (c.waiting.map Waiter.thread).Nodup) (hcalm : c.Calm)
    (t : String) : c.recheck t = (c, []) := by
  by_cases hwaits : c.Waits t
  · obtain ⟨w, hw, rfl⟩ := hwaits
    obtain ⟨⟨o, howner⟩, hverdict⟩ := hcalm w hw
    -- off the list a thread sees what it saw on it
    have howner' : (c.without w.thread).lock.owner = some o := howner
    have hverdict' : (c.without w.thread).verdict w = none := hverdict
    rw [recheck_of_waits hdistinct hw, look_of_taken howner', hverdict']
  · exact recheck_of_not_waits hwaits

theorem recheckAll_of_calm (hdistinct : (c.waiting.map Waiter.thread).Nodup) (hcalm : c.Calm)
    (order : List String) : c.recheckAll order = (c, []) := by
  induction order with
  | nil => rfl
  | cons t order ih =>
    rw [recheckAll, recheck_of_calm hdistinct hcalm]
    simp only [ih, List.append_nil]

theorem calm_of_nobody (hnobody : c.waiting = []) : c.Calm := by
  intro w hw
  rw [hnobody] at hw
  cases hw

theorem recheckAll_of_nobody (hnobody : c.waiting = []) (order : List String) :
    c.recheckAll order = (c, []) :=
  recheckAll_of_calm (by rw [hnobody]; exact List.nodup_nil) (calm_of_nobody hnobody) order

/-- Once a thread has ended that was to end, those are left who were to stay, and who else was to
end. -/
theorem filter_without (hdistinct : (c.waiting.map Waiter.thread).Nodup) (hw : w ∈ c.waiting)
    {p : Waiter → Bool} (hends : p w = true) :
    (c.without w.thread).waiting.filter (fun x => !p x) = c.waiting.filter (fun x => !p x) ∧
      (c.waiting.filter p).Perm (w :: (c.without w.thread).waiting.filter p) := by
  obtain ⟨before, after, hsplit, hbefore, hafter⟩ := exists_split hdistinct hw
  have hless : (c.without w.thread).waiting = before ++ after :=
    congrArg Crowd.waiting (without_of_split hsplit hbefore hafter)
  rw [hless, hsplit]
  constructor
  · rw [List.filter_append, List.filter_append, List.filter_cons, hends]
    rfl
  · have hmiddle : (before ++ w :: after).Perm (w :: (before ++ after)) := List.perm_middle
    have hfiltered := hmiddle.filter p
    rw [List.filter_cons_of_pos hends] at hfiltered
    exact hfiltered

/-- At a taken lock those end who have a reason to give up, in whatever order all look again; the
others keep waiting. -/
theorem recheckAll_of_taken {p : Waiter → Bool} {why : Refusal}
    (hdistinct : (c.waiting.map Waiter.thread).Nodup)
    (htaken : ∀ w ∈ c.waiting, ∃ o, c.lock.owner = some o)
    (hverdict : ∀ w ∈ c.waiting, c.verdict w = if p w then some why else none)
    (hall : ∀ w ∈ c.waiting, p w = true → w.thread ∈ order) :
    (c.recheckAll order).1 = { c with waiting := c.waiting.filter fun w => !p w } ∧
      (c.recheckAll order).2.Perm
        ((c.waiting.filter p).map fun w => (w.thread, .error (c.refusal w why))) := by
  induction order generalizing c with
  | nil =>
    have hnone : ∀ w ∈ c.waiting, p w = false := by
      intro w hw
      apply Bool.eq_false_iff.mpr
      intro hp
      cases hall w hw hp
    have hkept : c.waiting.filter (fun w => !p w) = c.waiting :=
      List.filter_eq_self.mpr fun w hw => by rw [hnone w hw, Bool.not_false]
    have hended : c.waiting.filter p = [] :=
      List.filter_eq_nil_iff.mpr fun w hw => by rw [hnone w hw]; exact Bool.false_ne_true
    rw [hkept, hended]
    exact ⟨rfl, .nil⟩
  | cons t order ih =>
    rw [recheckAll]
    by_cases hwaits : c.Waits t
    · obtain ⟨w, hw, rfl⟩ := hwaits
      obtain ⟨o, howner⟩ := htaken w hw
      have howner' : (c.without w.thread).lock.owner = some o := howner
      have hsame : (c.without w.thread).verdict w = if p w then some why else none :=
        hverdict w hw
      rw [recheck_of_waits hdistinct hw, look_of_taken howner', hsame]
      cases hp : p w with
      | false =>
        -- nobody but `w` goes by the name that was called
        apply ih hdistinct htaken hverdict
        intro x hx hends
        refine (List.mem_cons.mp (hall x hx hends)).resolve_left fun heq => ?_
        rw [eq_of_thread_eq hdistinct hw hx heq, hp] at hends
        cases hends
      | true =>
        have hrest := ih (distinct_without hdistinct w.thread)
          (fun x hx => htaken x (List.mem_filter.mp hx).1)
          (fun x hx => hverdict x (List.mem_filter.mp hx).1) (by
            intro x hx hends
            obtain ⟨hx, hne⟩ := List.mem_filter.mp hx
            exact (List.mem_cons.mp (hall x hx hends)).resolve_left (of_decide_eq_true hne))
        obtain ⟨hkept, hended⟩ := filter_without hdistinct hw hp
        rw [hkept] at hrest
        refine ⟨hrest.1, (hrest.2.cons _).trans ?_⟩
        exact (hended.map fun x => (x.thread, Except.error (c.refusal x why))).symm
    · rw [recheck_of_not_waits hwaits]
      apply ih hdistinct htaken hverdict
      intro x hx hends
      exact (List.mem_cons.mp (hall x hx hends)).resolve_left fun heq => hwaits ⟨x, hx, heq⟩

/-- At a free lock with one thread that waits it gets the lock, whoever else looks before or
after. -/
theorem recheckAll_of_single (hwaiting : c.waiting = [w]) (hfree : c.lock.owner = none)
    (hmem : w.thread ∈ order) :
    c.recheckAll order = (({ c with waiting := [] } : Crowd).entered w, [(w.thread, .ok ())]) := by
  have hdistinct : (c.waiting.map Waiter.thread).Nodup := by
    rw [hwaiting]
    exact List.pairwise_singleton _ _
  have hw : w ∈ c.waiting := by
    rw [hwaiting]
    exact List.mem_singleton_self w
  induction order with
  | nil => cases hmem
  | cons t order ih =>
    rw [recheckAll]
    by_cases ht : t = w.thread
    · subst ht
      have hfree' : (c.without w.thread).lock.owner = none := hfree
      have hsplit : c.waiting = [] ++ w :: [] := hwaiting
      have hless : c.without w.thread = { c with waiting := [] } :=
        without_of_split hsplit (fun x hx => by cases hx) fun x hx => by cases hx
      have hrest :=
        recheckAll_of_nobody (c := ({ c with waiting := [] } : Crowd).entered w) rfl order
      rw [recheck_of_waits hdistinct hw, look_of_free hfree', hless]
      simp only [hrest, List.append_nil]
    · have hwaits : ¬ c.Waits t := by
        rintro ⟨x, hx, rfl⟩
        rw [hwaiting] at hx
        exact ht (congrArg Waiter.thread (List.mem_singleton.mp hx))
      rw [recheck_of_not_waits hwaits]
      exact ih ((List.mem_cons.mp hmem).resolve_left (Ne.symm ht))

/-! ## §3 Settled steps -/

/-- No thread waits twice, the owner does not wait, and nobody who waits gets further by looking
again. -/
structure Settled (c : Crowd) : Prop where
  orderly : c.Orderly
  calm : c.Calm

theorem Calm.nobody_of_free (hcalm : c.Calm) (hfree : c.lock.owner = none) : c.waiting = [] := by
  apply List.eq_nil_iff_forall_not_mem.mpr
  intro w hw
  obtain ⟨⟨o, howner⟩, -⟩ := hcalm w hw
  rw [hfree] at howner
  cases howner

theorem verdict_clear (hcalm : c.verdict w = none) (e : String) :
    ({ c with events := c.events.filter fun x => decide (x ≠ e) } : Crowd).verdict w = none := by
  obtain ⟨hcancelled, hticket⟩ := verdict_eq_none.mp hcalm
  refine verdict_eq_none.mpr ⟨Bool.eq_false_iff.mpr ?_, hticket⟩
  intro hcancelled'
  obtain ⟨event, hevent, hmem⟩ := cancelled_iff.mp hcancelled'
  rw [cancelled_iff.mpr ⟨event, hevent, (List.mem_filter.mp hmem).1⟩] at hcancelled
  cases hcancelled

theorem verdict_interrupted (hcalm : c.verdict w = none) :
    ({ c with lock := c.lock.interrupted } : Crowd).verdict w = some .interrupted := by
  obtain ⟨hcancelled, hticket⟩ := verdict_eq_none.mp hcalm
  have hcancelled' : ({ c with lock := c.lock.interrupted } : Crowd).cancelled w = false :=
    hcancelled
  have hbehind : c.lock.interrupted.interruptions ≠ w.ticket := by
    rw [hticket]
    exact Nat.succ_ne_self _
  rw [verdict, if_neg (Bool.eq_false_iff.mp hcancelled'), if_pos hbehind]

theorem verdict_set (hcalm : c.verdict w = none) (e : String) :
    ({ c with events := e :: c.events } : Crowd).verdict w =
      if decide (w.cancel = some e) = true then some .cancelled else none := by
  obtain ⟨hcancelled, hticket⟩ := verdict_eq_none.mp hcalm
  by_cases hwatches : w.cancel = some e
  · rw [verdict, if_pos (cancelled_iff.mpr ⟨e, hwatches, List.mem_cons_self⟩),
      if_pos (decide_eq_true hwatches)]
  · -- an event that the thread does not watch changes nothing for it
    rw [if_neg (by rw [decide_eq_true_eq]; exact hwatches)]
    refine verdict_eq_none.mpr ⟨Bool.eq_false_iff.mpr ?_, hticket⟩
    intro hcancelled'
    obtain ⟨event, hevent, hmem⟩ := cancelled_iff.mp hcancelled'
    rcases List.mem_cons.mp hmem with rfl | hmem
    · exact hwatches hevent
    · rw [cancelled_iff.mpr ⟨event, hevent, hmem⟩] at hcancelled
      cases hcancelled

theorem LetsGo.step_eq {scopes : List String} (hlets : c.LetsGo t m scopes)
    (howner : c.lock.owner = some t) :
    c.step m = ({ c with lock := c.lock.freed, scopes := scopes }, [(t, .ok ())]) := by
  cases hlets with
  | release => rw [step, Crowd.release, if_pos howner]
  | leave hscope =>
    rw [step, Crowd.leave, if_pos (List.contains_iff_mem.mpr hscope), Crowd.release, if_pos howner]

/-- A step that notifies nobody and sets no event leaves a calm crowd calm. -/
theorem Effect.calm (hcalm : c.Calm) (heffect : c.Effect m d endings) (hquiet : ¬ c.Notifies m)
    (hset : ∀ e, m ≠ .set e) : d.Calm := by
  cases heffect with
  | entered hlooks hfree =>
    rename_i w
    -- the lock was free, so that nobody waited before
    have hnobody : ((c.without w.thread).entered w).waiting = [] := by
      change c.waiting.filter _ = []
      rw [hcalm.nobody_of_free hfree, List.filter_nil]
    exact calm_of_nobody hnobody
  | gaveUp hlooks howner hother hwhy =>
    intro x hx
    exact hcalm x (List.mem_filter.mp hx).1
  | queued hlooks hcomes howner hother hnone =>
    intro x hx
    rcases List.mem_append.mp hx with hx | hx
    · exact hcalm x hx
    · rw [List.mem_singleton.mp hx]
      exact ⟨⟨_, howner⟩, hnone⟩
  | freed hlets howner => exact absurd (Or.inr ⟨_, _, hlets, howner⟩) hquiet
  | reentered howner => exact hcalm
  | notOwner hlets howner => exact hcalm
  | idle hidle => exact hcalm
  | interrupted => exact absurd (Or.inl rfl) hquiet
  | set => exact absurd rfl (hset _)
  | clear =>
    intro x hx
    exact ⟨(hcalm x hx).1, verdict_clear (hcalm x hx).2 _⟩

namespace Settles

/-- Letting the lock go hands it to the one thread that waits, if there is one. -/
theorem letsGo {scopes : List String} (hlets : c.LetsGo t m scopes)
    (howner : c.lock.owner = some t) (hsettles : c.Settles m d endings) :
    (c.waiting = [] → d = { c with lock := c.lock.freed, scopes := scopes } ∧
        endings = [(t, .ok ())]) ∧
      ∀ w, c.waiting = [w] →
        d = ({ c with lock := c.lock.freed, waiting := [], scopes := scopes } : Crowd).entered w ∧
          endings = [(t, .ok ()), (w.thread, .ok ())] := by
  obtain ⟨order, hwoken, rfl, rfl⟩ := hsettles
  rw [hlets.step_eq howner] at hwoken ⊢
  constructor
  · intro hnobody
    have hrest := recheckAll_of_nobody (c := { c with lock := c.lock.freed, scopes := scopes })
      hnobody order
    rw [hrest]
    exact ⟨rfl, rfl⟩
  · intro w hwaiting
    have hw : w ∈ c.waiting := by
      rw [hwaiting]
      exact List.mem_singleton_self w
    have hmem := hwoken w hw (Or.inl (Or.inr ⟨t, scopes, hlets, howner⟩))
    have hsettled' := recheckAll_of_single (c := { c with lock := c.lock.freed, scopes := scopes })
      hwaiting rfl hmem
    rw [hsettled']
    exact ⟨rfl, rfl⟩

variable (hsettled : c.Settled)

include hsettled

theorem still (hready : c.Ready m) (hquiet : ¬ c.Notifies m) (hset : ∀ e, m ≠ .set e)
    (hsettles : c.Settles m d endings) : d = (c.step m).1 ∧ endings = (c.step m).2 := by
  obtain ⟨order, -, rfl, rfl⟩ := hsettles
  have heffect := step_effect hsettled.orderly hready
  rw [recheckAll_of_calm (heffect.orderly hsettled.orderly).distinct
    (heffect.calm hsettled.calm hquiet hset)]
  exact ⟨rfl, List.append_nil _⟩

/-- An interruption ends all who wait. -/
theorem interrupt (hsettles : c.Settles .interrupt d endings) :
    d = { c with lock := c.lock.interrupted, waiting := [] } ∧
      endings.Perm (c.waiting.map
        fun w => (w.thread, .error (.interrupted .interrupted c.name w.operation))) := by
  obtain ⟨order, hwoken, rfl, rfl⟩ := hsettles
  have hended := recheckAll_of_taken (c := { c with lock := c.lock.interrupted })
    (p := fun _ => true) hsettled.orderly.distinct
    (fun w hw => (hsettled.calm w hw).1)
    (fun w hw => verdict_interrupted (hsettled.calm w hw).2)
    fun w hw _ => hwoken w hw (Or.inl (Or.inl rfl))
  have hnobody : c.waiting.filter (fun _ => false) = [] :=
    List.filter_eq_nil_iff.mpr fun w hw => Bool.false_ne_true
  have heverybody : c.waiting.filter (fun _ => true) = c.waiting :=
    List.filter_eq_self.mpr fun w hw => rfl
  simp only [Bool.not_true, hnobody, heverybody] at hended
  exact hended

/-- Setting an event ends those who wait with it. -/
theorem set (hsettles : c.Settles (.set e) d endings) :
    d = { c with
      events := e :: c.events
      waiting := c.waiting.filter fun w => !decide (w.cancel = some e) } ∧
      endings.Perm ((c.waiting.filter fun w => decide (w.cancel = some e)).map
        fun w => (w.thread, .error (.interrupted .cancelled c.name w.operation))) := by
  obtain ⟨order, hwoken, rfl, rfl⟩ := hsettles
  have hended := recheckAll_of_taken (c := { c with events := e :: c.events })
    (p := fun w => decide (w.cancel = some e)) hsettled.orderly.distinct
    (fun w hw => (hsettled.calm w hw).1)
    (fun w hw => verdict_set (hsettled.calm w hw).2 e) (by
      intro w hw hwatches
      apply hwoken w hw
      rw [of_decide_eq_true hwatches]
      exact Or.inr rfl)
  exact hended

end Settles

/-- What a step of a script comes to once everything has settled. -/
inductive Course (c : Crowd) : Move → Crowd → List Ending → Prop
  | interrupted {endings : List Ending} (hended : endings.Perm (c.waiting.map
      fun w => (w.thread, .error (.interrupted .interrupted c.name w.operation)))) :
    Course c .interrupt { c with lock := c.lock.interrupted, waiting := [] } endings
  | set {e : String} {endings : List Ending} (hended : endings.Perm ((c.waiting.filter
      fun w => decide (w.cancel = some e)).map
        fun w => (w.thread, .error (.interrupted .cancelled c.name w.operation)))) :
    Course c (.set e)
      { c with
        events := e :: c.events
        waiting := c.waiting.filter fun w => !decide (w.cancel = some e) } endings
  | freed {m : Move} {t : String} {scopes} (hlets : c.LetsGo t m scopes)
    (howner : c.lock.owner = some t) (hnobody : c.waiting = []) :
    Course c m { c with lock := c.lock.freed, scopes := scopes } [(t, .ok ())]
  | handedOver {m : Move} {t : String} {scopes} {w : Waiter} (hlets : c.LetsGo t m scopes)
    (howner : c.lock.owner = some t) (hwaiting : c.waiting = [w]) :
    Course c m
      (({ c with lock := c.lock.freed, waiting := [], scopes := scopes } : Crowd).entered w)
      [(t, .ok ()), (w.thread, .ok ())]
  | still {m : Move} {d : Crowd} {endings : List Ending} (hquiet : ¬ c.Notifies m)
    (hset : ∀ e, m ≠ .set e) (heffect : c.Effect m d endings) : Course c m d endings

theorem Settles.course (hsettled : c.Settled) (hallows : c.Allows m)
    (hsettles : c.Settles m d endings) : c.Course m d endings := by
  -- who has to look again depends on whether the step notifies, sets an event or does neither
  by_cases hnotifies : c.Notifies m
  · rcases hnotifies with rfl | ⟨t, scopes, hlets, howner⟩
    · obtain ⟨rfl, hended⟩ := hsettles.interrupt hsettled
      exact .interrupted hended
    · obtain ⟨hfreed, hhanded⟩ := hsettles.letsGo hlets howner
      have hsingle := hallows.single hlets howner
      cases hwaiting : c.waiting with
      | nil =>
        obtain ⟨rfl, rfl⟩ := hfreed hwaiting
        exact .freed hlets howner hwaiting
      | cons w rest =>
        cases rest with
        | nil =>
          obtain ⟨rfl, rfl⟩ := hhanded w hwaiting
          exact .handedOver hlets howner hwaiting
        | cons x rest =>
          rw [hwaiting, List.length_cons, List.length_cons] at hsingle
          omega
  · by_cases hset : ∃ e, m = .set e
    · obtain ⟨e, rfl⟩ := hset
      obtain ⟨rfl, hended⟩ := hsettles.set hsettled
      exact .set hended
    · have hset : ∀ e, m ≠ .set e := fun e heq => hset ⟨e, heq⟩
      obtain ⟨rfl, rfl⟩ := hsettles.still hsettled hallows.ready hnotifies hset
      exact .still hnotifies hset (step_effect hsettled.orderly hallows.ready)

theorem settled_of_nobody (hnobody : c.waiting = []) : c.Settled := by
  refine ⟨⟨?distinct, ?absent⟩, calm_of_nobody hnobody⟩
  case distinct =>
    rw [hnobody]
    exact List.nodup_nil
  case absent =>
    rintro t - ⟨w, hw, -⟩
    rw [hnobody] at hw
    cases hw

theorem Course.settled (hsettled : c.Settled) (hcourse : c.Course m d endings) : d.Settled := by
  cases hcourse with
  | interrupted hended => exact settled_of_nobody rfl
  | set hended =>
    rename_i e
    refine ⟨⟨?distinct, ?absent⟩, ?calm⟩
    case distinct => exact hsettled.orderly.distinct.sublist (List.filter_sublist.map _)
    case absent =>
      rintro t howner ⟨w, hw, rfl⟩
      exact hsettled.orderly.absent _ howner ⟨w, (List.mem_filter.mp hw).1, rfl⟩
    case calm =>
      intro w hw
      -- who is left does not watch the event
      obtain ⟨hw, hwatches⟩ := List.mem_filter.mp hw
      obtain ⟨htaken, hverdict⟩ := hsettled.calm w hw
      refine ⟨htaken, ?_⟩
      have hkept := verdict_set hverdict e
      rw [Bool.not_eq_true'] at hwatches
      rw [hwatches] at hkept
      exact hkept
  | freed hlets howner hnobody => exact settled_of_nobody hnobody
  | handedOver hlets howner hwaiting => exact settled_of_nobody rfl
  | still hquiet hset heffect =>
    exact ⟨heffect.orderly hsettled.orderly, heffect.calm hsettled.calm hquiet hset⟩

theorem Scripted.settled {name : String} (hscripted : Scripted name c) : c.Settled := by
  induction hscripted with
  | start => exact settled_of_nobody rfl
  | step hscripted hallows hsettles ih => exact (hsettles.course ih hallows).settled ih

/-! ## §4 What scripts show -/

/-- Only the owner gives up its ownership. -/
theorem Effect.owner_kept (heffect : c.Effect m d endings) (howner : c.lock.owner = some o) :
    d.lock.owner = some o ∨ ∃ scopes, c.LetsGo o m scopes := by
  cases heffect with
  | entered hlooks hfree =>
    rw [hfree] at howner
    cases howner
  | freed hlets howner' =>
    cases howner.symm.trans howner'
    exact Or.inr ⟨_, hlets⟩
  | _ => exact Or.inl howner

theorem Course.owner_kept (hcourse : c.Course m d endings) (howner : c.lock.owner = some o) :
    d.lock.owner = some o ∨ ∃ scopes, c.LetsGo o m scopes := by
  cases hcourse with
  | interrupted hended => exact Or.inl howner
  | set hended => exact Or.inl howner
  | freed hlets howner' hnobody =>
    cases howner.symm.trans howner'
    exact Or.inr ⟨_, hlets⟩
  | handedOver hlets howner' hwaiting =>
    cases howner.symm.trans howner'
    exact Or.inr ⟨_, hlets⟩
  | still hquiet hset heffect => exact heffect.owner_kept howner

/-- What fails once a step has settled: waits are ended by an interruption or a set event, or the
step fails in itself. -/
theorem Course.error_cases (hcourse : c.Course m d endings) {failure : Failure}
    (hmem : (t, .error failure) ∈ endings) :
    m = .interrupt ∧ d.scopes = c.scopes ∨
      (∃ e w, m = .set e ∧ d.scopes = c.scopes ∧ failure = c.refusal w .cancelled) ∨
      c.Effect m d endings := by
  cases hcourse with
  | interrupted hended => exact Or.inl ⟨rfl, rfl⟩
  | set hended =>
    obtain ⟨w, -, heq⟩ := List.mem_map.mp (hended.mem_iff.mp hmem)
    cases heq
    exact Or.inr (Or.inl ⟨_, w, rfl, rfl, rfl⟩)
  | freed hlets howner hnobody => cases List.mem_singleton.mp hmem
  | handedOver hlets howner hwaiting =>
    rcases List.mem_cons.mp hmem with heq | hmem
    · cases heq
    · cases List.mem_singleton.mp hmem
  | still hquiet hset heffect => exact Or.inr (Or.inr heffect)

/-- A thread that is told of an interruption waited when the lock was interrupted. -/
theorem Course.eq_interrupt (hsettled : c.Settled) (hcourse : c.Course m d endings)
    {lock : String} {operation : Option String}
    (hmem : (t, .error (.interrupted .interrupted lock operation)) ∈ endings) :
    m = .interrupt := by
  rcases hcourse.error_cases hmem with ⟨rfl, -⟩ | ⟨e, w, -, -, hrefused⟩ | heffect
  · rfl
  · cases hrefused
  · exfalso
    rcases heffect.error_cases hmem with
      ⟨w, o, why, hlooks, -, -, hwhy, -, hrefused, -⟩ | ⟨hrefused, -⟩ | ⟨scopes, -, hrefused, -⟩
    · -- a ticket is behind neither when its thread comes nor while everything is settled
      cases hrefused
      cases hlooks with
      | comes hnew => exact behind_of_verdict hwhy rfl
      | returns hw =>
        rw [(hsettled.calm _ hw).2] at hwhy
        cases hwhy
    · cases hrefused
    · cases hrefused

/-- Where an entry fails, no context is entered; other failures than those of leaving leave all
contexts as they are. -/
theorem Course.scopes_eq (hcourse : c.Course m d endings) {failure : Failure}
    (hmem : (t, .error failure) ∈ endings) (hleave : m ≠ .leave t) : d.scopes = c.scopes := by
  rcases hcourse.error_cases hmem with ⟨-, hscopes⟩ | ⟨e, w, -, hscopes, -⟩ | heffect
  · exact hscopes
  · exact hscopes
  · rcases heffect.error_cases hmem with
      ⟨w, o, why, -, -, -, -, -, -, rfl⟩ | ⟨-, rfl⟩ | ⟨scopes, hlets, -, rfl⟩
    · rfl
    · rfl
    · cases hlets with
      | release => rfl
      | leave hscope => exact absurd rfl hleave

/-- Leaving without a context does nothing. -/
theorem Course.eq_of_unentered (hcourse : c.Course (.leave t) d endings) (hscope : t ∉ c.scopes) :
    d = c ∧ endings = [] := by
  have hkeeps {scopes : List String} {s : String} (hlets : c.LetsGo s (.leave t) scopes) :
      False := by
    cases hlets with
    | leave hscope' => exact hscope hscope'
  cases hcourse with
  | freed hlets howner hnobody => exact (hkeeps hlets).elim
  | handedOver hlets howner hwaiting => exact (hkeeps hlets).elim
  | still hquiet hset heffect =>
    cases heffect with
    | entered hlooks hfree => cases hlooks
    | gaveUp hlooks howner hother hwhy => cases hlooks
    | queued hlooks hcomes howner hother hcalm => cases hlooks
    | freed hlets howner => exact (hkeeps hlets).elim
    | notOwner hlets howner => exact (hkeeps hlets).elim
    | idle hidle => exact ⟨rfl, rfl⟩

/-- **No wake-up is lost and no interruption comes late.**  Take any script and a step after it that
scripts allow, settled in any way; the way of `act` is one.  If the lock is free, nobody waits, and
who waits has no cancel event that is set.  A thread that waits alone has the lock when it was let
go.  An interruption ends those who waited, all of them and nobody who comes later; setting an event
ends those who wait with it.  Nobody loses the lock but by letting it go, an entry that failed
enters no context, and leaving without a context does nothing. -/
theorem Scripted.step_settled {name : String} (hscripted : Scripted name c)
    (hallows : c.Allows m) (hsettles : c.Settles m d endings) :
    c.Settles m (c.act m).1 (c.act m).2 ∧
      (d.lock.owner = none → d.waiting = []) ∧
      (∀ w ∈ d.waiting, d.cancelled w = false) ∧
      (∀ t scopes w, c.LetsGo t m scopes → c.lock.owner = some t → c.waiting = [w] →
        d.lock.owner = some w.thread ∧ d.waiting = [] ∧
          endings = [(t, .ok ()), (w.thread, .ok ())]) ∧
      (m = .interrupt → d.waiting = [] ∧ endings.Perm (c.waiting.map
        fun w => (w.thread, .error (.interrupted .interrupted c.name w.operation)))) ∧
      (∀ t lock operation,
        (t, .error (.interrupted .interrupted lock operation)) ∈ endings → m = .interrupt) ∧
      (∀ e, m = .set e →
        d.waiting = c.waiting.filter (fun w => !decide (w.cancel = some e)) ∧
          endings.Perm ((c.waiting.filter fun w => decide (w.cancel = some e)).map
            fun w => (w.thread, .error (.interrupted .cancelled c.name w.operation)))) ∧
      (∀ o, c.lock.owner = some o → d.lock.owner = some o ∨ ∃ scopes, c.LetsGo o m scopes) ∧
      (∀ t failure, (t, .error failure) ∈ endings → m ≠ .leave t → d.scopes = c.scopes) ∧
      (∀ t, t ∉ c.scopes → m = .leave t → d = c ∧ endings = []) := by
  have hsettled := hscripted.settled
  have hcourse := hsettles.course hsettled hallows
  have hcalm := (hcourse.settled hsettled).calm
  refine ⟨c.settles_act m, hcalm.nobody_of_free, ?cancelled, ?handedOver, ?interrupt,
    fun t lock operation => hcourse.eq_interrupt hsettled, ?set, fun o => hcourse.owner_kept,
    fun t failure => hcourse.scopes_eq, ?unentered⟩
  case cancelled =>
    intro w hw
    exact (verdict_eq_none.mp (hcalm w hw).2).1
  case handedOver =>
    intro t scopes w hlets howner hwaiting
    obtain ⟨rfl, rfl⟩ := (hsettles.letsGo hlets howner).2 w hwaiting
    exact ⟨rfl, rfl, rfl⟩
  case interrupt =>
    rintro rfl
    obtain ⟨rfl, hended⟩ := hsettles.interrupt hsettled
    exact ⟨rfl, hended⟩
  case set =>
    rintro e rfl
    obtain ⟨rfl, hended⟩ := hsettles.set hsettled
    exact ⟨rfl, hended⟩
  case unentered =>
    rintro t hscope rfl
    exact hcourse.eq_of_unentered hscope

/-- One thread owns the lock, and another waits to enter a context. -/
def heldCrowd : Crowd where
  lock := { owner := some "a" }
  waiting := [⟨"b", some "stop", none, 0, true⟩]

/-- Letting go hands the lock over, and the context counts as entered. -/
theorem heldCrowd_released :
    ∃ d endings, Scripted "lock" heldCrowd ∧ heldCrowd.Allows (.release "a") ∧
      heldCrowd.Settles (.release "a") d endings ∧ d.lock.owner = some "b" ∧ d.waiting = [] ∧
      endings = [("a", .ok ()), ("b", .ok ())] := by
  have hstart : Scripted "lock" {} := .start
  have howned := hstart.step (m := .acquire "a" none none false)
    ⟨ready_of_nobody rfl _, fun hlets => by cases hlets⟩ (settles_act _ _)
  have hscripted : Scripted "lock" heldCrowd :=
    howned.step (m := .acquire "b" (some "stop") none true)
      ⟨ready_of_nobody rfl _, fun hlets => by cases hlets⟩ (settles_act _ _)
  have hallows : heldCrowd.Allows (.release "a") := by
    refine ⟨?_, fun _ _ => Nat.le_refl 1⟩
    rintro t (hcomes | hlets) ⟨w, hw, rfl⟩
    · cases hcomes
    · have hb : w.thread = "b" := congrArg Waiter.thread (List.mem_singleton.mp hw)
      rw [hb] at hlets
      exact absurd hlets (by decide)
  have hsettles := heldCrowd.settles_act (.release "a")
  obtain ⟨-, -, -, hhanded, -⟩ := hscripted.step_settled hallows hsettles
  obtain ⟨howner, hnobody, hended⟩ := hhanded "a" _ _ .release rfl rfl
  exact ⟨_, _, hscripted, hallows, hsettles, howner, hnobody, hended⟩

end Crowd

end SectorDisk
