import SectorDisk.Proofs.Lock.Steps

/-!
# Every schedule of a lock

A trace lists the steps that any number of threads have taken around a lock, in any order, each with
what ended by it.  `Reaches` says which crowd a trace leads to from a free lock.

`Sound` ties the crowd to its trace.  The owner is the thread that the trace says has got the lock
and not let it go, and each thread that waits has come once, since when the lock was interrupted as
often as its ticket is behind.  A step keeps this (`Sound.step`), so that it holds of every trace
(`Reaches.sound`).
-/

namespace SectorDisk

/-! ## §1 Traces -/

/-- A step with what ended by it. -/
structure Turn where
  /-- The step. -/
  move : Move
  /-- What ended. -/
  endings : List Ending

namespace Turn

/-- A thread got the lock. -/
def Gains (turn : Turn) (t : String) : Prop :=
  turn.move.looker? = some t ∧ (t, .ok ()) ∈ turn.endings

/-- A thread let the lock go. -/
def Drops (turn : Turn) (t : String) : Prop :=
  turn.move.leaver? = some t ∧ (t, .ok ()) ∈ turn.endings

end Turn

/-- A thread got the lock, and has neither got it again nor let it go since. -/
def Held (t : String) (trace : List Turn) : Prop :=
  ∃ before turn later, trace = before ++ turn :: later ∧ turn.Gains t ∧
    ∀ u ∈ later, ¬ u.Gains t ∧ ¬ u.Drops t

/-- A thread came for the lock with what it brought along, and has not come again in the turns
since. -/
def Called (w : Waiter) (trace later : List Turn) : Prop :=
  ∃ before endings,
    trace = before ++ ⟨.acquire w.thread w.cancel w.operation w.entering, endings⟩ :: later ∧
      ∀ u ∈ later, u.move.caller? ≠ some w.thread

/-- How often the lock was interrupted. -/
def interruptionsIn (trace : List Turn) : Nat :=
  trace.countP fun turn => decide (turn.move = .interrupt)

namespace Crowd

/-- From a free lock of the given name, with nobody around it, a trace leads to a crowd. -/
inductive Reaches (name : String) : List Turn → Crowd → Prop
  | start : Reaches name [] { name := name }
  | step {trace c m} (hreaches : Reaches name trace c) (hready : c.Ready m) :
    Reaches name (trace ++ [⟨m, (c.step m).2⟩]) (c.step m).1

end Crowd

/-! ## §2 Growing traces -/

variable {t : String} {trace later : List Turn} {turn : Turn} {w : Waiter}

theorem Held.of_gains (hgains : turn.Gains t) : Held t (trace ++ [turn]) := by
  refine ⟨trace, turn, [], rfl, hgains, ?_⟩
  intro u hu
  cases hu

theorem Held.keep (hheld : Held t trace) (hgains : ¬ turn.Gains t) (hdrops : ¬ turn.Drops t) :
    Held t (trace ++ [turn]) := by
  obtain ⟨before, first, later, rfl, hfirst, hlater⟩ := hheld
  refine ⟨before, first, later ++ [turn], ?_, hfirst, ?_⟩
  · rw [List.append_assoc, List.cons_append]
  · exact List.forall_mem_append.mpr ⟨hlater, List.forall_mem_singleton.mpr ⟨hgains, hdrops⟩⟩

/-- Who holds the lock after a turn got it there, or held it before and did not let it go. -/
theorem held_append_iff :
    Held t (trace ++ [turn]) ↔ turn.Gains t ∨ Held t trace ∧ ¬ turn.Drops t := by
  constructor
  · rintro ⟨before, first, later, hsplit, hfirst, hlater⟩
    -- the turn is the last of those since the lock was got, or the one that got it
    rcases List.eq_nil_or_concat later with rfl | ⟨earlier, last, rfl⟩
    · obtain ⟨-, hsame⟩ := List.append_inj' hsplit rfl
      rw [List.cons.inj hsame |>.1]
      exact Or.inl hfirst
    · rw [List.concat_eq_append] at hsplit hlater
      rw [← List.cons_append, ← List.append_assoc] at hsplit
      obtain ⟨rfl, hsame⟩ := List.append_inj' hsplit rfl
      obtain ⟨rfl, -⟩ := List.cons.inj hsame
      have hlast := hlater turn (List.mem_append_right _ (List.mem_singleton_self turn))
      refine Or.inr ⟨⟨before, first, earlier, rfl, hfirst, ?_⟩, hlast.2⟩
      intro u hu
      exact hlater u (List.mem_append_left _ hu)
  · rintro (hgains | ⟨hheld, hdrops⟩)
    · exact .of_gains hgains
    · by_cases hgains : turn.Gains t
      · exact .of_gains hgains
      · exact hheld.keep hgains hdrops

theorem interruptionsIn_append :
    interruptionsIn (later ++ [turn]) =
      interruptionsIn later + if turn.move = .interrupt then 1 else 0 := by
  simp only [interruptionsIn, List.countP_append, List.countP_singleton, decide_eq_true_eq]

theorem Called.append (hcalled : Called w trace later)
    (hquiet : turn.move.caller? ≠ some w.thread) :
    Called w (trace ++ [turn]) (later ++ [turn]) := by
  obtain ⟨before, endings, rfl, hlater⟩ := hcalled
  refine ⟨before, endings, ?_, ?_⟩
  · rw [List.append_assoc, List.cons_append]
  · exact List.forall_mem_append.mpr ⟨hlater, List.forall_mem_singleton.mpr hquiet⟩

/-! ## §3 What a step changes -/

namespace Crowd

variable {name : String} {c d : Crowd} {m : Move} {endings : List Ending}

theorem Effect.interruptions_eq (heffect : c.Effect m d endings) :
    d.lock.interruptions = c.lock.interruptions + if m = .interrupt then 1 else 0 := by
  cases heffect with
  | entered hlooks hfree => cases hlooks <;> rfl
  | gaveUp hlooks howner hother hwhy => cases hlooks <;> rfl
  | queued hlooks hcomes howner hother hcalm => cases hlooks <;> rfl
  | freed hlets howner => cases hlets <;> rfl
  | reentered howner => rfl
  | notOwner hlets howner => cases hlets <;> rfl
  | idle hidle => rcases hidle with ⟨t, rfl⟩ | ⟨t, rfl, -⟩ <;> rfl
  | interrupted => rfl
  | set => rfl
  | clear => rfl

theorem Effect.name_eq (heffect : c.Effect m d endings) : d.name = c.name := by
  cases heffect <;> rfl

/-- Who waits after a step has waited before, or comes in the step. -/
theorem Effect.mem_waiting (heffect : c.Effect m d endings) (hw : w ∈ d.waiting) :
    w ∈ c.waiting ∨ m = .acquire w.thread w.cancel w.operation w.entering ∧
      w.ticket = c.lock.interruptions := by
  cases heffect with
  | entered hlooks hfree => exact Or.inl (List.mem_filter.mp hw).1
  | gaveUp hlooks howner hother hwhy => exact Or.inl (List.mem_filter.mp hw).1
  | queued hlooks hcomes howner hother hcalm =>
    rcases List.mem_append.mp hw with hw | hw
    · exact Or.inl hw
    · rw [List.mem_singleton.mp hw]
      exact hlooks.known
  | _ => exact Or.inl hw

theorem Looks.looker?_eq (hlooks : c.Looks m w) : m.looker? = some w.thread := by
  cases hlooks <;> rfl

theorem LetsGo.leaver?_eq {scopes : List String} (hlets : c.LetsGo t m scopes) :
    m.leaver? = some t := by
  cases hlets <;> rfl

theorem LetsGo.looker?_eq {scopes : List String} (hlets : c.LetsGo t m scopes) :
    m.looker? = none := by
  cases hlets <;> rfl

/-- After a step a thread owns the lock if it got it there, or owned it and did not let it go. -/
theorem Effect.owner_iff (heffect : c.Effect m d endings) (t : String) :
    d.lock.owner = some t ↔
      Turn.Gains ⟨m, endings⟩ t ∨ c.lock.owner = some t ∧ ¬ Turn.Drops ⟨m, endings⟩ t := by
  -- where nothing ends well, nobody gets or lets go the lock
  have hquiet (hnone : (t, .ok ()) ∉ endings) (hsame : d.lock.owner = c.lock.owner) :
      d.lock.owner = some t ↔
        Turn.Gains ⟨m, endings⟩ t ∨ c.lock.owner = some t ∧ ¬ Turn.Drops ⟨m, endings⟩ t := by
    have hgains : ¬ Turn.Gains ⟨m, endings⟩ t := fun hgains => hnone hgains.2
    have hdrops : ¬ Turn.Drops ⟨m, endings⟩ t := fun hdrops => hnone hdrops.2
    simp only [hsame, hgains, hdrops, not_false_eq_true, and_true, false_or]
  have herror (s : String) (e : Failure) : (t, .ok ()) ∉ [((s, .error e) : Ending)] := by
    intro hmem
    cases List.mem_singleton.mp hmem
  cases heffect with
  | entered hlooks hfree =>
    rename_i w
    constructor
    · intro howner
      cases howner
      exact Or.inl ⟨hlooks.looker?_eq, List.mem_singleton_self _⟩
    · rintro (⟨-, hmem⟩ | ⟨howner, -⟩)
      · cases List.mem_singleton.mp hmem
        rfl
      · rw [hfree] at howner
        cases howner
  | freed hlets howner =>
    constructor
    · intro hnobody
      cases hnobody
    · rintro (⟨hlooker, -⟩ | ⟨howner', hdrops⟩)
      · rw [hlets.looker?_eq] at hlooker
        cases hlooker
      · cases howner.symm.trans howner'
        exact absurd ⟨hlets.leaver?_eq, List.mem_singleton_self _⟩ hdrops
  | gaveUp hlooks howner hother hwhy => exact hquiet (herror _ _) rfl
  | reentered howner => exact hquiet (herror _ _) rfl
  | notOwner hlets howner => exact hquiet (herror _ _) rfl
  | _ => exact hquiet List.not_mem_nil rfl

/-! ## §4 The invariant -/

/-- What a trace says of the crowd that it leads to. -/
structure Sound (name : String) (trace : List Turn) (c : Crowd) : Prop where
  named : c.name = name
  orderly : c.Orderly
  /-- The owner has got the lock and not let it go. -/
  held : ∀ t, c.lock.owner = some t ↔ Held t trace
  /-- Who waits has come, and its ticket is behind by the interruptions since. -/
  called : ∀ w ∈ c.waiting, ∃ later, Called w trace later ∧
    c.lock.interruptions = w.ticket + interruptionsIn later

theorem Sound.start (name : String) : Sound name [] { name := name } := by
  refine ⟨rfl, ⟨List.nodup_nil, ?absent⟩, ?held, ?called⟩
  case absent =>
    intro t howner
    cases howner
  case held =>
    intro t
    constructor
    · intro howner
      cases howner
    · rintro ⟨before, turn, later, hsplit, -, -⟩
      cases List.append_eq_nil_iff.mp hsplit.symm |>.2
  case called =>
    intro w hw
    cases hw

/-- The call of a thread that waits or comes in a step, seen from after the step. -/
theorem Sound.called_append (hsound : Sound name trace c) (hready : c.Ready m)
    (hw : w ∈ c.waiting ∨ m = .acquire w.thread w.cancel w.operation w.entering ∧
      w.ticket = c.lock.interruptions) (endings : List Ending) :
    ∃ later, Called w (trace ++ [⟨m, endings⟩]) later ∧
      c.lock.interruptions + (if m = .interrupt then 1 else 0) =
        w.ticket + interruptionsIn later := by
  rcases hw with hw | ⟨rfl, hticket⟩
  · obtain ⟨later, hcalled, hbehind⟩ := hsound.called w hw
    -- a thread that waits does not come again
    have hquiet : m.caller? ≠ some w.thread := fun hcomes =>
      hready w.thread (Or.inl hcomes) ⟨w, hw, rfl⟩
    refine ⟨later ++ [⟨m, endings⟩], hcalled.append hquiet, ?_⟩
    rw [interruptionsIn_append, hbehind, Nat.add_assoc]
  · refine ⟨[], ⟨trace, endings, rfl, ?_⟩, hticket.symm⟩
    intro u hu
    cases hu

theorem Sound.step (hsound : Sound name trace c) (hready : c.Ready m) :
    Sound name (trace ++ [⟨m, (c.step m).2⟩]) (c.step m).1 := by
  have heffect := step_effect hsound.orderly hready
  refine ⟨heffect.name_eq.trans hsound.named, heffect.orderly hsound.orderly, ?held, ?called⟩
  case held =>
    intro t
    rw [heffect.owner_iff, hsound.held, held_append_iff]
  case called =>
    intro w hw
    rw [heffect.interruptions_eq]
    exact hsound.called_append hready (heffect.mem_waiting hw) _

theorem Reaches.sound (hreaches : Reaches name trace c) : Sound name trace c := by
  induction hreaches with
  | start => exact .start name
  | step hreaches hready ih => exact ih.step hready

/-! ## §5 Safety -/

/-- A thread that came has a reason to give up: its own cancel event is set, or the lock was
interrupted after it came. -/
def Justified (c : Crowd) (t : String) (why : Refusal) (operation : Option String)
    (trace : List Turn) : Prop :=
  ∃ w later, w.thread = t ∧ w.operation = operation ∧ Called w trace later ∧
    match why with
    | .cancelled => ∃ e, w.cancel = some e ∧ e ∈ c.events
    | .interrupted => ∃ u ∈ later, u.move = .interrupt

/-- A wait is ended by an interruption or a cancel event only at a lock of another thread, which
keeps it. -/
theorem Effect.interruption (heffect : c.Effect m d endings) {e : Failure}
    (hmem : (t, .error e) ∈ endings) (hkind : e.kind = .interrupted) :
    ∃ w o why, c.Looks m w ∧ c.lock.owner = some o ∧ o ≠ w.thread ∧ c.verdict w = some why ∧
      w.thread = t ∧ e = .interrupted why c.name w.operation ∧ d.lock = c.lock := by
  rcases heffect.error_cases hmem with
    ⟨w, o, why, hlooks, howner, hother, hwhy, hthread, rfl, rfl⟩ | ⟨rfl, rfl⟩ |
      ⟨scopes, -, rfl, rfl⟩
  · exact ⟨w, o, why, hlooks, howner, hother, hwhy, hthread, rfl, rfl⟩
  · cases hkind
  · cases hkind

theorem Sound.justified (hsound : Sound name trace c) (hready : c.Ready m) (hlooks : c.Looks m w)
    {why : Refusal} (hwhy : c.verdict w = some why) (endings : List Ending) :
    c.Justified w.thread why w.operation (trace ++ [⟨m, endings⟩]) := by
  obtain ⟨later, hcalled, hbehind⟩ := hsound.called_append hready hlooks.known endings
  refine ⟨w, later, rfl, rfl, hcalled, ?_⟩
  cases why with
  | cancelled => exact cancelled_iff.mp (cancelled_of_verdict hwhy)
  | interrupted =>
    have hother : m ≠ .interrupt := by
      rintro rfl
      cases hlooks.looker?_eq
    -- the ticket is behind, and only interruptions since the call have put it behind
    have hsome : 0 < interruptionsIn later := by
      have hticket := behind_of_verdict hwhy
      rw [if_neg hother] at hbehind
      omega
    obtain ⟨u, hu, hmove⟩ := List.countP_pos_iff.mp hsome
    exact ⟨u, hu, of_decide_eq_true hmove⟩

/-- **Every schedule is safe.**  After every trace the owner of the lock is the one thread that got
it and has not let it go.  A thread that gives up has a reason, finds the lock in other hands and
leaves it there.  A thread that finds the lock free gets it, whatever events are set and however
often the lock was interrupted.  A thread that asks for the lock that it owns, or lets go one that
it does not own, is told that this is misuse, and nothing changes. -/
theorem Reaches.safe (hreaches : Reaches name trace c) :
    (∀ t, c.lock.owner = some t ↔ Held t trace) ∧
      (∀ s t, Held s trace → Held t trace → s = t) ∧
      (∀ m t e, c.Ready m → (t, .error e) ∈ (c.step m).2 → e.kind = .interrupted →
        (∃ o, c.lock.owner = some o ∧ o ≠ t) ∧ (c.step m).1.lock = c.lock ∧
          ∃ why operation, e = .interrupted why name operation ∧
            c.Justified t why operation (trace ++ [⟨m, (c.step m).2⟩])) ∧
      (∀ t cancel operation entering, c.lock.owner = none →
        (c.step (.acquire t cancel operation entering)).2 = [(t, .ok ())] ∧
          (c.step (.acquire t cancel operation entering)).1.lock.owner = some t) ∧
      (∀ t cancel operation entering, c.lock.owner = some t →
        c.step (.acquire t cancel operation entering) = (c, [(t, .error (.reentered name))])) ∧
      (∀ t, c.lock.owner ≠ some t →
        c.step (.release t) = (c, [(t, .error (.notOwner name))]) ∧
          (t ∈ c.scopes → c.step (.leave t) =
            ({ c with scopes := c.scopes.erase t }, [(t, .error (.notOwner name))]))) ∧
      (Failure.reentered name).kind = .misuse ∧ (Failure.notOwner name).kind = .misuse := by
  have hsound := hreaches.sound
  refine ⟨hsound.held, ?one, ?interruption, ?free, ?reentered, ?notOwner, rfl, rfl⟩
  case one =>
    intro s t hs ht
    -- both are the owner that the lock names
    have howner := (hsound.held s).mpr hs
    exact Option.some.inj (howner.symm.trans ((hsound.held t).mpr ht))
  case interruption =>
    intro m t e hready hmem hkind
    obtain ⟨w, o, why, hlooks, howner, hother, hwhy, rfl, rfl, hlock⟩ :=
      (step_effect hsound.orderly hready).interruption hmem hkind
    refine ⟨⟨o, howner, hother⟩, hlock, why, w.operation, by rw [hsound.named], ?_⟩
    exact hsound.justified hready hlooks hwhy _
  case free =>
    intro t cancel operation entering hfree
    have hother : c.lock.owner ≠ some t := by
      simp only [hfree, ne_eq, reduceCtorEq, not_false_eq_true]
    rw [Crowd.step, arrive, if_neg hother, look_of_free hfree]
    exact ⟨rfl, rfl⟩
  case reentered =>
    intro t cancel operation entering howner
    rw [Crowd.step, arrive, if_pos howner, hsound.named]
  case notOwner =>
    intro t howner
    refine ⟨?_, fun hscope => ?_⟩
    · rw [Crowd.step, release, if_neg howner, hsound.named]
    · rw [Crowd.step, leave, if_pos (List.contains_iff_mem.mpr hscope), release, if_neg howner,
        hsound.named]

/-- One thread owns the lock and another waits, as the lock is interrupted. -/
def interruptedWait : Crowd where
  lock := { owner := some "a", interruptions := 1 }
  waiting := [⟨"b", some "stop", some "copy", 0, false⟩]

/-- Once it looks again, the thread that waits gives up with a reason. -/
theorem interruptedWait_justified :
    ∃ trace, Reaches "lock" trace interruptedWait ∧ Held "a" trace ∧
      interruptedWait.Ready (.recheck "b") ∧
      ∃ endings, ("b", .error (.interrupted .interrupted "lock" (some "copy"))) ∈ endings ∧
        interruptedWait.Justified "b" .interrupted (some "copy")
          (trace ++ [⟨.recheck "b", endings⟩]) := by
  have hstart : Reaches "lock" [] {} := .start
  have howned := hstart.step (m := .acquire "a" none none false) (ready_of_nobody rfl _)
  have hqueued := howned.step (m := .acquire "b" (some "stop") (some "copy") false)
    (ready_of_nobody rfl _)
  have hreaches : Reaches "lock" _ interruptedWait :=
    hqueued.step (m := .interrupt) (ready_of_other rfl rfl)
  have hready : interruptedWait.Ready (.recheck "b") := ready_of_other rfl rfl
  obtain ⟨howner, -, hinterruption, -⟩ := hreaches.safe
  have hmem : ("b", .error (.interrupted .interrupted "lock" (some "copy"))) ∈
      (interruptedWait.step (.recheck "b")).2 := List.mem_singleton_self _
  obtain ⟨-, -, why, operation, hwhy, hjustified⟩ :=
    hinterruption (.recheck "b") "b" _ hready hmem rfl
  cases hwhy
  exact ⟨_, hreaches, (howner "a").mp rfl, hready, _, hmem, hjustified⟩

end Crowd

end SectorDisk
