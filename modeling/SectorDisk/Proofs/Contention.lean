import SectorDisk.Proofs.Exclusion

/-!
# Contended and uncontended runs

What an operation does while another thread owns locks is compared with what it does when that
thread has let all of them go and nothing else happens meanwhile: the calm run.  The journal shows
which locks an operation asks for, so that it shows whether it had to wait.

`Compares` is the relation of the two runs.  Either no lock that was asked for was in other hands,
and then both do the same, each on its locks; or the first one that was brought the operation to
wait, and then it was let go and both end alike, or the wait was given up.  `Op.Transparent` says
this of an operation, for all hosts and circumstances; the rules below put it together from its
parts.
-/

namespace SectorDisk

variable {α β : Type}

/-! ## §1 Without other threads -/

/-- The lock without another thread that owns it. -/
def Lock.uncontended (lock : Lock Party) : Lock Party :=
  if lock.owner = some .rival then lock.freed else lock

/-- The device with other locks. -/
def Device.withLocks (d : Device) (primary mirror : Lock Party) : Device :=
  { d with primaryLock := primary, mirrorLock := mirror }

/-- The device with its locks out of the hands of other threads. -/
def Device.uncontended (d : Device) : Device :=
  d.withLocks d.primaryLock.uncontended d.mirrorLock.uncontended

/-- The host with the locks of its device out of the hands of other threads. -/
def Host.uncontended (h : Host) : Host :=
  h.updateDevice Device.uncontended

/-- The circumstances without a cancel event and with nothing that happens on waiting. -/
def Circumstance.undisturbed (c : Circumstance) : Circumstance :=
  { c with cancelled := false, wake := none }

/-- Another thread owns the lock of a buffer. -/
def Host.Rival (h : Host) (b : Buffer) : Prop :=
  (h.device.lockOf b).owner = some .rival

instance (h : Host) (b : Buffer) : Decidable (h.Rival b) :=
  inferInstanceAs (Decidable ((h.device.lockOf b).owner = some .rival))

namespace Lock

variable {lock lock' : Lock Party}

theorem uncontended_of_ne (hother : lock.owner ≠ some .rival) : lock.uncontended = lock :=
  if_neg hother

theorem uncontended_owner_ne (lock : Lock Party) : lock.uncontended.owner ≠ some .rival := by
  by_cases hrival : lock.owner = some .rival
  · simp only [uncontended, if_pos hrival, freed, ne_eq, reduceCtorEq, not_false_eq_true]
  · rw [uncontended_of_ne hrival]
    exact hrival

theorem uncontended_owner (lock : Lock Party) :
    lock.uncontended.owner = if lock.owner = some .rival then none else lock.owner := by
  unfold uncontended
  split <;> rfl

theorem freed_uncontended (lock : Lock Party) :
    lock.freed.uncontended = lock.uncontended.freed := by
  have hfree : lock.freed.owner ≠ some .rival := Ne.symm (Option.some_ne_none _)
  rw [uncontended_of_ne hfree]
  unfold uncontended
  split <;> rfl

theorem interrupted_uncontended (lock : Lock Party) :
    lock.interrupted.uncontended = lock.uncontended.interrupted := by
  by_cases hrival : lock.owner = some .rival
  · have hrival' : lock.interrupted.owner = some .rival := hrival
    rw [uncontended, uncontended, if_pos hrival, if_pos hrival']
    rfl
  · have hother : lock.interrupted.owner ≠ some .rival := hrival
    rw [uncontended_of_ne hrival, uncontended_of_ne hother]

/-- Who owns a lock is all that another thread makes of a difference to it. -/
theorem eq_of_uncontended (hsame : lock.uncontended = lock'.uncontended)
    (hrival : lock.owner = some .rival ↔ lock'.owner = some .rival) : lock = lock' := by
  by_cases howner : lock.owner = some .rival
  · have howner' := hrival.mp howner
    simp only [uncontended, if_pos howner, if_pos howner', freed, mk.injEq, true_and] at hsame
    calc lock = ⟨lock.owner, lock.interruptions⟩ := rfl
      _ = ⟨lock'.owner, lock'.interruptions⟩ := by rw [howner, howner', hsame]
      _ = lock' := rfl
  · rw [uncontended_of_ne howner, uncontended_of_ne fun h => howner (hrival.mpr h)] at hsame
    exact hsame

end Lock

namespace Device

theorem lockOf_uncontended (d : Device) (b : Buffer) :
    d.uncontended.lockOf b = (d.lockOf b).uncontended := by
  cases b <;> rfl

theorem setLock_uncontended (d : Device) (b : Buffer) (lock : Lock Party) :
    (d.setLock b lock).uncontended = d.uncontended.setLock b lock.uncontended := by
  cases b <;> rfl

theorem interrupted_uncontended (d : Device) (b : Buffer) :
    (d.interrupted b).uncontended = d.uncontended.interrupted b := by
  rw [interrupted, setLock_uncontended, Lock.interrupted_uncontended, ← lockOf_uncontended]
  rfl

theorem lockOf_setLock (d : Device) (b b' : Buffer) (lock : Lock Party) :
    (d.setLock b lock).lockOf b' = if b' = b then lock else d.lockOf b' := by
  cases b <;> cases b' <;> rfl

theorem letGo_eq (d : Device) (b : Buffer) :
    d.letGo b = d.setLock b (d.lockOf b).uncontended := by
  unfold letGo Lock.uncontended
  split
  · rfl
  · cases b <;> rfl

theorem ownedBy_uncontended (d : Device) : d.uncontended.ownedBy .caller = d.ownedBy .caller := by
  have howner (b : Buffer) : (d.uncontended.lockOf b).owner = some .caller ↔
      (d.lockOf b).owner = some .caller := by
    rw [lockOf_uncontended]
    by_cases hrival : (d.lockOf b).owner = some .rival
    · simp only [Lock.uncontended, hrival, if_true, Lock.freed, reduceCtorEq, Option.some.injEq]
    · rw [Lock.uncontended_of_ne hrival]
  simp only [ownedBy, howner]

end Device

namespace Host

theorem woken_release (h : Host) : h.woken .release = h.uncontended := by
  simp only [woken, Device.letGo_eq]
  rfl

theorem uncontended_not_rival (h : Host) (b : Buffer) : ¬ h.uncontended.Rival b := by
  have howner := (h.device.lockOf b).uncontended_owner_ne
  rw [← Device.lockOf_uncontended] at howner
  exact howner

theorem uncontended_of_not_rival {h : Host} (hnone : ∀ b, ¬ h.Rival b) : h.uncontended = h := by
  have hprimary : h.device.primaryLock.uncontended = h.device.primaryLock :=
    Lock.uncontended_of_ne (hnone .primary)
  have hmirror : h.device.mirrorLock.uncontended = h.device.mirrorLock :=
    Lock.uncontended_of_ne (hnone .mirror)
  simp only [uncontended, Device.uncontended, updateDevice, hprimary, hmirror]
  rfl

theorem closed_uncontended (h : Host) : h.closed.uncontended = h.uncontended.closed := by
  have hsame : h.uncontended.device.isClosed = h.device.isClosed := rfl
  unfold closed
  rw [hsame]
  split
  · rfl
  · have hdevice :
        ((({ h.device with isClosed := true } : Device).interrupted .primary).interrupted
          .mirror).uncontended =
        (({ h.device.uncontended with isClosed := true } : Device).interrupted
          .primary).interrupted .mirror := by
      rw [Device.interrupted_uncontended, Device.interrupted_uncontended]
      rfl
    exact congrArg (fun d => ({ h with device := d } : Host).tell .deviceClosed) hdevice

/-- Another thread does not own a lock that was set to one that it does not own. -/
theorem setLock_rival {h : Host} {b b' : Buffer} {lock : Device → Lock Party}
    (hother : (lock h.device).owner ≠ some .rival) :
    (h.updateDevice fun d => d.setLock b (lock d)).Rival b' ↔ b' ≠ b ∧ h.Rival b' := by
  simp only [Rival, updateDevice_device, Device.lockOf_setLock]
  by_cases hb : b' = b
  · simp only [hb, if_true, hother, ne_eq, not_true_eq_false, false_and]
  · simp only [hb, if_false, ne_eq, not_false_eq_true, true_and]

theorem eq_of_uncontended {h h' : Host} (hsame : h.uncontended = h'.uncontended)
    (hrivals : ∀ b, h.Rival b ↔ h'.Rival b) : h = h' := by
  have hrestored (g : Host) : g = g.uncontended.updateDevice fun d =>
      { d with primaryLock := g.device.primaryLock, mirrorLock := g.device.mirrorLock } := rfl
  have hprimary : h.device.primaryLock = h'.device.primaryLock :=
    Lock.eq_of_uncontended (congrArg (fun g => g.device.primaryLock) hsame) (hrivals .primary)
  have hmirror : h.device.mirrorLock = h'.device.mirrorLock :=
    Lock.eq_of_uncontended (congrArg (fun g => g.device.mirrorLock) hsame) (hrivals .mirror)
  rw [hrestored h, hrestored h', hsame, hprimary, hmirror]

end Host

/-! ## §2 What an operation asks for -/

/-- The buffer whose lock is asked for in an entry of the journal. -/
def Entry.requested? : Entry → Option Buffer
  | .request b _ => some b
  | .notice _ => none

/-- From one host to the other the journal has grown, and the locks of the given buffers were asked
for, in this order. -/
def Host.Asks (h h' : Host) (asked : List Buffer) : Prop :=
  ∃ more, h'.journal = h.journal ++ more ∧ more.filterMap Entry.requested? = asked

/-- The buffer for whose lock an operation had to wait that led from one host to the other: the
first one asked for that was in other hands. -/
def Host.awaited? (h h' : Host) : Option Buffer :=
  ((h'.journal.drop h.journal.length).filterMap Entry.requested?).find? fun b =>
    decide (h.Rival b)

namespace Host

variable {h h' h'' : Host} {asked more : List Buffer}

theorem Asks.refl (h : Host) : h.Asks h [] := ⟨[], (List.append_nil _).symm, rfl⟩

theorem Asks.trans (hfirst : h.Asks h' asked) (hthen : h'.Asks h'' more) :
    h.Asks h'' (asked ++ more) := by
  obtain ⟨entries, hjournal, rfl⟩ := hfirst
  obtain ⟨entries', hjournal', rfl⟩ := hthen
  refine ⟨entries ++ entries', ?_, List.filterMap_append⟩
  rw [hjournal', hjournal, List.append_assoc]

theorem Asks.awaited?_eq (hasks : h.Asks h' asked) :
    h.awaited? h' = asked.find? fun b => decide (h.Rival b) := by
  obtain ⟨entries, hjournal, rfl⟩ := hasks
  rw [awaited?, hjournal, List.drop_left]

end Host

/-! ## §3 Two runs -/

/-- What a wait ends with that is given up. -/
def Circumstance.refusal (c : Circumstance) : Refusal :=
  if c.cancelledOnWait then .cancelled else .interrupted

/-- Once the operation waits, all locks are let go, and it has not been cancelled before. -/
def Circumstance.Releases (c : Circumstance) : Prop :=
  c.cancelled = false ∧ c.wake = some .release

/-- A run under some circumstances beside the calm one.  On a host without other threads both do the
same.  Otherwise both ask for the same locks up to the first that another thread owns; there the run
waits, and either the locks are let go and both end alike, or the wait is given up. -/
inductive Compares (c : Circumstance) (h : Host) (run calm : Except Failure α × Host) : Prop
  | passed (asked : List Buffer) (hrun : h.Asks run.2 asked) (hfree : ∀ b ∈ asked, ¬ h.Rival b)
    (hresult : run.1 = calm.1) (hhost : run.2.uncontended = calm.2)
    (hrivals : ∀ b, run.2.Rival b ↔ h.Rival b)
  | released (b : Buffer) (before more : List Buffer) (hasks : h.Asks run.2 (before ++ b :: more))
    (hfree : ∀ b ∈ before, ¬ h.Rival b) (hrival : h.Rival b) (hreleases : c.Releases)
    (hsame : run = calm) (hnone : ∀ b, ¬ run.2.Rival b)
  | stopped (b : Buffer) (before more rest : List Buffer) (purpose : String)
    (hrun : h.Asks run.2 (before ++ b :: more)) (hcalm : h.Asks calm.2 (before ++ b :: rest))
    (hfree : ∀ b ∈ before, ¬ h.Rival b) (hrival : h.Rival b) (hkept : ¬ c.Releases)
    (hrefused : run.1 = .error (.interrupted c.refusal b.lockName (some purpose)))

/-- The operation compares to its calm run, on every host and under all circumstances. -/
def Op.Transparent (op : Op α) : Prop :=
  ∀ c h, Compares c h (op c h) (op c.undisturbed h.uncontended)

namespace Compares

variable {c : Circumstance} {h h' : Host} {run calm : Except Failure α × Host}
  {asked : List Buffer}

/-- Runs that ask for no lock. -/
theorem of_unasked (hrun : h.Asks run.2 []) (hresult : run.1 = calm.1)
    (hhost : run.2.uncontended = calm.2) (hrivals : ∀ b, run.2.Rival b ↔ h.Rival b) :
    Compares c h run calm := by
  refine .passed [] hrun ?_ hresult hhost hrivals
  intro b hb
  cases hb

/-- Runs that ask for one lock, which no other thread owns. -/
theorem of_admitted {b : Buffer} (hrun : h.Asks run.2 [b]) (hother : ¬ h.Rival b)
    (hresult : run.1 = calm.1) (hhost : run.2.uncontended = calm.2)
    (hrivals : ∀ b, run.2.Rival b ↔ h.Rival b) : Compares c h run calm := by
  refine .passed [b] hrun ?_ hresult hhost hrivals
  intro b' hb'
  rw [List.mem_singleton.mp hb']
  exact hother

theorem asks (hcompares : Compares c h run calm) : ∃ asked, h.Asks run.2 asked := by
  cases hcompares with
  | passed asked hrun => exact ⟨asked, hrun⟩
  | released b before more hasks => exact ⟨_, hasks⟩
  | stopped b before more rest purpose hrun => exact ⟨_, hrun⟩

/-- The runs may be compared from a later host on, if nothing on the way had to wait. -/
theorem after (hcompares : Compares c h' run calm) (hasks : h.Asks h' asked)
    (hfree : ∀ b ∈ asked, ¬ h.Rival b) (hrivals : ∀ b, h'.Rival b ↔ h.Rival b) :
    Compares c h run calm := by
  -- locks have the owners that they had, so that what was asked for on the way goes in front
  have hboth {more : List Buffer} (hmore : ∀ b ∈ more, ¬ h'.Rival b) :
      ∀ b ∈ asked ++ more, ¬ h.Rival b := by
    intro b hb
    rcases List.mem_append.mp hb with hb | hb
    · exact hfree b hb
    · exact fun hrival => hmore b hb ((hrivals b).mpr hrival)
  cases hcompares with
  | passed more hrun hmore hresult hhost hkept =>
    exact .passed (asked ++ more) (hasks.trans hrun) (hboth hmore) hresult hhost
      fun b => (hkept b).trans (hrivals b)
  | released b before more hrun hbefore hrival hreleases hsame hnone =>
    have hall := hasks.trans hrun
    rw [← List.append_assoc] at hall
    exact .released b _ more hall (hboth hbefore) ((hrivals b).mp hrival) hreleases hsame hnone
  | stopped b before more rest purpose hrun hcalm hbefore hrival hkept hrefused =>
    have hall := hasks.trans hrun
    have hall' := hasks.trans hcalm
    rw [← List.append_assoc] at hall hall'
    exact .stopped b _ more rest purpose hall hall' (hboth hbefore) ((hrivals b).mp hrival) hkept
      hrefused

/-- Without other threads neither cancel events nor what happens on waiting make a difference. -/
theorem eq_of_not_rival (hcompares : Compares c h run calm) (hnone : ∀ b, ¬ h.Rival b) :
    run = calm ∧ ∀ b, ¬ run.2.Rival b := by
  cases hcompares with
  | passed asked hrun hfree hresult hhost hrivals =>
    have hnone' : ∀ b, ¬ run.2.Rival b := fun b hrival => hnone b ((hrivals b).mp hrival)
    rw [Host.uncontended_of_not_rival hnone'] at hhost
    exact ⟨Prod.ext hresult hhost, hnone'⟩
  | released b before more hasks hfree hrival => exact absurd hrival (hnone b)
  | stopped b before more rest purpose hrun hcalm hfree hrival => exact absurd hrival (hnone b)

/-- Both runs may be finished alike, if that neither asks for locks nor takes them from other
threads. -/
theorem finish (hcompares : Compares c h run calm) {g : Except Failure α → Host → Host}
    (hcommutes : ∀ r h', (g r h').uncontended = g r h'.uncontended)
    (hasks : ∀ r (h' : Host), h'.Asks (g r h') [])
    (hrivals : ∀ r h', (∀ b, h'.Rival b → h.Rival b) → ∀ b, (g r h').Rival b ↔ h'.Rival b) :
    Compares c h (run.1, g run.1 run.2) (calm.1, g calm.1 calm.2) := by
  have hlast {out : Except Failure α × Host} {asked : List Buffer} (hout : h.Asks out.2 asked) :
      h.Asks (g out.1 out.2) asked := by
    have hall := hout.trans (hasks out.1 out.2)
    rw [List.append_nil] at hall
    exact hall
  cases hcompares with
  | passed asked hrun hfree hresult hhost hkept =>
    refine .passed asked (hlast hrun) hfree hresult ?_ fun b => ?_
    · rw [hcommutes, hresult, hhost]
    · exact (hrivals _ _ (fun b => (hkept b).mp) b).trans (hkept b)
  | released b before more hall hfree hrival hreleases hsame hnone =>
    -- everything was let go, so that there is nothing to take from anybody
    refine .released b before more (hlast hall) hfree hrival hreleases (by rw [hsame]) ?_
    intro b' hrival'
    exact hnone b' ((hrivals _ _ (fun b hb => absurd hb (hnone b)) b').mp hrival')
  | stopped b before more rest purpose hrun hcalm hfree hrival hkept hrefused =>
    exact .stopped b before more rest purpose (hlast hrun) (hlast hcalm) hfree hrival hkept hrefused

end Compares

namespace Op.Transparent

variable {op : Op α} {next : α → Op β} {c : Circumstance} {h : Host}

/-! ## §4 Rules -/

theorem judge (r : Except Failure α) : (Op.judge r).Transparent := by
  intro c h
  exact .of_unasked (.refl h) rfl rfl fun b => Iff.rfl

theorem result (a : α) : (pure a : Op α).Transparent := judge (.ok a)

theorem fail (e : Failure) : (Op.fail e : Op α).Transparent := judge (.error e)

/-- The rest needs to compare only on the hosts that the first part leaves. -/
theorem andThen_of_ok (hop : op.Transparent)
    (hnext : ∀ a c h, (op c h).1 = .ok a → Compares c (op c h).2 (next a c (op c h).2)
      (next a c.undisturbed (op c h).2.uncontended)) :
    (op >>= next).Transparent := by
  intro c h
  have hfirst := hop c h
  cases hfirst with
  | passed asked hrun hfree hresult hhost hrivals =>
    cases hr : (op c h).1 with
    | error e =>
      rw [Op.bind_of_error hr, Op.bind_of_error (hresult.symm.trans hr)]
      exact .passed asked hrun hfree rfl hhost hrivals
    | ok a =>
      rw [Op.bind_of_ok hr, Op.bind_of_ok (hresult.symm.trans hr), ← hhost]
      exact (hnext a c h hr).after hrun hfree hrivals
  | released b before more hasks hfree hrival hreleases hsame hnone =>
    cases hr : (op c h).1 with
    | error e =>
      rw [Op.bind_of_error hr, Op.bind_of_error (hsame ▸ hr)]
      exact .released b before more hasks hfree hrival hreleases (by rw [hsame]) hnone
    | ok a =>
      -- nobody is in the way of the rest any more
      have hrest := hnext a c h hr
      obtain ⟨more', hmore'⟩ := hrest.asks
      obtain ⟨hsame', hnone'⟩ := hrest.eq_of_not_rival hnone
      rw [Host.uncontended_of_not_rival hnone] at hsame'
      have hall := hasks.trans hmore'
      rw [List.append_assoc, List.cons_append] at hall
      rw [Op.bind_of_ok hr, Op.bind_of_ok (hsame ▸ hr), ← hsame]
      exact .released b before _ hall hfree hrival hreleases hsame' hnone'
  | stopped b before more rest purpose hrun hcalm hfree hrival hkept hrefused =>
    rw [Op.bind_of_error hrefused]
    cases hr : (op c.undisturbed h.uncontended).1 with
    | error e =>
      rw [Op.bind_of_error hr]
      exact .stopped b before more rest purpose hrun hcalm hfree hrival hkept rfl
    | ok a =>
      -- the calm run goes on, and what it asks for later does not matter
      rw [Op.bind_of_ok hr]
      obtain ⟨rest', hrest'⟩ := (hnext a c.undisturbed h.uncontended hr).asks
      have hall := hcalm.trans hrest'
      rw [List.append_assoc, List.cons_append] at hall
      exact .stopped b before more _ purpose hrun hall hfree hrival hkept rfl

theorem andThen (hop : op.Transparent) (hnext : ∀ a, (next a).Transparent) :
    (op >>= next).Transparent :=
  hop.andThen_of_ok fun a c h _ => hnext a c (op c h).2

theorem giving (hop : op.Transparent) (f : α → Value) : (op.giving f).Transparent :=
  hop.andThen fun a => result (f a)

theorem branch {p : Prop} [Decidable p] {op' : Op α} (hthen : op.Transparent)
    (helse : op'.Transparent) : (if p then op else op').Transparent := by
  split
  · exact hthen
  · exact helse

/-- What is read off a device must not depend on who owns its locks. -/
theorem device_bind {next : Device → Op β} (hnext : ∀ d, (next d).Transparent)
    (hsame : ∀ d, next d.uncontended = next d) : (Op.device >>= next).Transparent := by
  intro c h
  have hcalm : next h.uncontended.device = next h.device := hsame h.device
  rw [Op.device_bind_run, Op.device_bind_run, hcalm]
  exact hnext h.device c h

theorem host_bind {next : Host → Op β} (hnext : ∀ h, (next h).Transparent)
    (hsame : ∀ h, next h.uncontended = next h) : (Op.host >>= next).Transparent := by
  intro c h
  rw [Op.host_bind_run, Op.host_bind_run, hsame h]
  exact hnext h c h

theorem circumstance_bind {next : Circumstance → Op β} (hnext : ∀ c, (next c).Transparent)
    (hsame : ∀ c, next c.undisturbed = next c) : (Op.circumstance >>= next).Transparent := by
  intro c h
  rw [Op.circumstance_bind_run, Op.circumstance_bind_run, hsame c]
  exact hnext c c h

/-- A change of the host must leave the owners of the locks alone and ask for none. -/
theorem update {f : Host → Host} (hcommutes : ∀ h, (f h).uncontended = f h.uncontended)
    (hasks : ∀ h : Host, h.Asks (f h) []) (hrivals : ∀ h b, (f h).Rival b ↔ h.Rival b) :
    (Op.update f).Transparent := by
  intro c h
  exact .of_unasked (hasks h) rfl (hcommutes h) (hrivals h)

/-- A change of a device must neither read nor change its locks. -/
theorem updateDevice {f : Device → Device}
    (hlocks : ∀ d p m, f (d.withLocks p m) = (f d).withLocks p m) :
    (Op.updateDevice f).Transparent := by
  -- a device with its own locks put in place is the same, and so is what `f` makes of it
  have hself (d : Device) : f d = (f d).withLocks d.primaryLock d.mirrorLock :=
    hlocks d d.primaryLock d.mirrorLock
  have hprimary (d : Device) : (f d).primaryLock = d.primaryLock := by
    rw [hself]
    rfl
  have hmirror (d : Device) : (f d).mirrorLock = d.mirrorLock := by
    rw [hself]
    rfl
  have hcommutes (d : Device) : (f d).uncontended = f d.uncontended := by
    rw [Device.uncontended, Device.uncontended, hprimary, hmirror, hlocks]
  refine update (fun h => ?commutes) (fun h => .refl h) fun h b => ?rivals
  case commutes => exact congrArg (fun d => { h with device := d }) (hcommutes h.device)
  case rivals =>
    cases b with
    | primary => simp only [Host.Rival, Device.lockOf, Host.updateDevice_device, hprimary]
    | mirror => simp only [Host.Rival, Device.lockOf, Host.updateDevice_device, hmirror]

theorem updateFiles {f : Host → Files} (hsame : ∀ h, f h.uncontended = f h) :
    (Op.update fun h => { h with files := f h }).Transparent := by
  refine update (fun h => ?commutes) (fun h => .refl h) fun h b => Iff.rfl
  rw [hsame]
  rfl

theorem tell (n : Notice) : (Op.tell n).Transparent := by
  apply update
  · intro h
    rfl
  · intro h
    exact ⟨[.notice n], rfl, rfl⟩
  · intro h b
    exact Iff.rfl

end Op.Transparent

/-! ## §5 Asking for a lock -/

namespace Op

variable {b : Buffer} {purpose : String} {c : Circumstance} {h : Host}

/-- The host once the caller has asked for the lock of a buffer. -/
def asking (b : Buffer) (h : Host) : Host :=
  h.enter (.request b (h.device.ownedBy .caller))

theorem asking_uncontended (b : Buffer) (h : Host) :
    (asking b h).uncontended = asking b h.uncontended := by
  have howned : h.uncontended.device.ownedBy .caller = h.device.ownedBy .caller :=
    h.device.ownedBy_uncontended
  rw [asking, asking, howned]
  rfl

theorem asks_asking (b : Buffer) (h : Host) : h.Asks (asking b h) [b] :=
  ⟨[.request b (h.device.ownedBy .caller)], rfl, rfl⟩

/-- The host once the caller owns the lock of a buffer. -/
def owning (b : Buffer) (h : Host) : Host :=
  h.updateDevice fun d => d.setLock b { d.lockOf b with owner := some .caller }

theorem owning_uncontended (hother : ¬ h.Rival b) :
    (owning b h).uncontended = owning b h.uncontended := by
  have hlock : h.uncontended.device.lockOf b = h.device.lockOf b :=
    (h.device.lockOf_uncontended b).trans (Lock.uncontended_of_ne hother)
  have hcaller : ({ h.device.lockOf b with owner := some .caller } : Lock Party).uncontended =
      { h.device.lockOf b with owner := some .caller } :=
    Lock.uncontended_of_ne
      (by simp only [ne_eq, Option.some.injEq, reduceCtorEq, not_false_eq_true])
  simp only [owning, Host.uncontended, Host.updateDevice, Device.setLock_uncontended, hcaller]
  simp only [Host.uncontended, Host.updateDevice] at hlock
  rw [hlock]

theorem owning_rival {b' : Buffer} : (owning b h).Rival b' ↔ b' ≠ b ∧ h.Rival b' :=
  Host.setLock_rival (by simp only [ne_eq, Option.some.injEq, reduceCtorEq, not_false_eq_true])

theorem acquire_of_caller (howner : (h.device.lockOf b).owner = some .caller) :
    acquire b purpose c h = (.error (.reentered b.lockName), asking b h) := by
  unfold acquire
  simp only [howner, if_true]
  rfl

theorem acquire_of_none (howner : (h.device.lockOf b).owner = none) :
    acquire b purpose c h = (.ok (), owning b (asking b h)) := by
  unfold acquire Lock.attempt
  simp only [howner, reduceCtorEq, if_false]
  rfl

theorem acquire_of_rival (howner : h.Rival b) :
    acquire b purpose c h =
      if c.cancelled then (.error (.interrupted .cancelled b.lockName (some purpose)), asking b h)
      else retry b purpose (h.device.lockOf b).interruptions c ((asking b h).settled c.wake) := by
  have hrival : (h.device.lockOf b).owner = some .rival := howner
  unfold acquire Lock.attempt
  simp only [hrival, Option.some.injEq, reduceCtorEq, if_false, ne_eq, not_true_eq_false]
  cases c.cancelled with
  | true => rfl
  | false => rfl

theorem retry_of_none {ticket : Nat} (howner : (h.device.lockOf b).owner = none) :
    retry b purpose ticket c h = (.ok (), owning b h) := by
  unfold retry Lock.attempt
  simp only [howner]
  rfl

/-- A second look at a lock that is still taken is the end of the wait. -/
theorem retry_of_taken {party : Party} (purpose : String) (ticket : Nat)
    (howner : (h.device.lockOf b).owner = some party) :
    (retry b purpose ticket c h).1 =
        .error (.interrupted c.refusal b.lockName (some purpose)) ∧
      h.Asks (retry b purpose ticket c h).2 [] := by
  unfold retry Lock.attempt Circumstance.refusal
  simp only [howner]
  cases c.cancelledOnWait with
  | true => exact ⟨rfl, .refl h⟩
  | false =>
    by_cases hticket : (h.device.lockOf b).interruptions = ticket
    · simp only [hticket, ne_eq, not_true_eq_false, if_false, Bool.false_eq_true]
      exact ⟨trivial, .refl h⟩
    · simp only [hticket, ne_eq, not_false_eq_true, if_true, if_false, Bool.false_eq_true]
      exact ⟨trivial, .refl h⟩

theorem asks_settled (h : Host) (wake : Option Wake) : h.Asks (h.settled wake) [] := by
  cases wake with
  | none => exact .refl h
  | some w =>
    cases w with
    | close =>
      simp only [Host.settled, Host.woken, Host.closed]
      split
      · exact .refl h
      · exact ⟨[.notice .deviceClosed], rfl, rfl⟩
    | cancel => exact .refl h
    | interrupt b => exact .refl h
    | release => exact .refl h

/-- Only letting go takes a lock out of other hands. -/
theorem settled_rival {wake : Option Wake} (hkept : wake ≠ some .release) (hrival : h.Rival b) :
    (h.settled wake).Rival b := by
  cases wake with
  | none => exact hrival
  | some w =>
    rw [Host.Rival, Device.lockOf_owner] at hrival ⊢
    simp only [Host.settled, Host.woken_status]
    cases w with
    | release => exact absurd rfl hkept
    | cancel => exact hrival
    | interrupt b' => exact hrival
    | close => cases b <;> exact hrival

theorem acquire_compares_of_none (howner : (h.device.lockOf b).owner = none)
    (hcalm : (h.uncontended.device.lockOf b).owner = none) :
    Compares c h (acquire b purpose c h) (acquire b purpose c.undisturbed h.uncontended) := by
  have hother : ¬ h.Rival b := by
    rw [Host.Rival, howner]
    exact Ne.symm (Option.some_ne_none _)
  rw [acquire_of_none howner, acquire_of_none hcalm, ← asking_uncontended]
  refine .of_admitted (asks_asking b h) hother rfl (owning_uncontended hother) fun b' => ?_
  rw [owning_rival]
  exact ⟨fun hboth => hboth.2, fun hrival => ⟨fun hb => hother (hb ▸ hrival), hrival⟩⟩

theorem acquire_compares_of_caller (howner : (h.device.lockOf b).owner = some .caller)
    (hcalm : (h.uncontended.device.lockOf b).owner = some .caller) :
    Compares c h (acquire b purpose c h) (acquire b purpose c.undisturbed h.uncontended) := by
  have hother : ¬ h.Rival b := by
    simp only [Host.Rival, howner, Option.some.injEq, reduceCtorEq, not_false_eq_true]
  rw [acquire_of_caller howner, acquire_of_caller hcalm, ← asking_uncontended]
  exact .of_admitted (asks_asking b h) hother rfl rfl fun b' => Iff.rfl

/-- Once all locks are let go the second look gets this one, as the first look does on the calm
host. -/
theorem acquire_of_released (hrival : h.Rival b) (hreleases : c.Releases)
    (hcalm : (h.uncontended.device.lockOf b).owner = none) :
    acquire b purpose c h = (.ok (), owning b (asking b h.uncontended)) := by
  obtain ⟨hcancelled, hwake⟩ := hreleases
  have hwoken : (asking b h).settled (some .release) = asking b h.uncontended :=
    (Host.woken_release _).trans (asking_uncontended b h)
  rw [acquire_of_rival hrival, hcancelled, if_neg Bool.false_ne_true, hwake, hwoken]
  exact retry_of_none hcalm

/-- A wait that nobody ends by letting the lock go is given up. -/
theorem acquire_of_kept (purpose : String) (hrival : h.Rival b) (hkept : ¬ c.Releases) :
    h.Asks (acquire b purpose c h).2 [b] ∧
      (acquire b purpose c h).1 =
        .error (.interrupted c.refusal b.lockName (some purpose)) := by
  rw [acquire_of_rival hrival]
  by_cases hcancelled : c.cancelled = true
  · have hrefusal : c.refusal = .cancelled := by
      simp only [Circumstance.refusal, Circumstance.cancelledOnWait, hcancelled, Bool.true_or,
        if_true]
    rw [if_pos hcancelled, hrefusal]
    exact ⟨asks_asking b h, rfl⟩
  · -- the second look finds the lock taken still
    have hwake : c.wake ≠ some .release := fun hwake =>
      hkept ⟨Bool.eq_false_iff.mpr hcancelled, hwake⟩
    have htaken : ((asking b h).settled c.wake).Rival b := settled_rival hwake hrival
    obtain ⟨hrefused, hasks⟩ :=
      retry_of_taken (c := c) purpose (h.device.lockOf b).interruptions htaken
    rw [if_neg hcancelled]
    exact ⟨((asks_asking b h).trans (asks_settled _ c.wake)).trans hasks, hrefused⟩

theorem acquire_compares_of_rival (hrival : h.Rival b)
    (hcalm : (h.uncontended.device.lockOf b).owner = none) :
    Compares c h (acquire b purpose c h) (acquire b purpose c.undisturbed h.uncontended) := by
  have hbefore : ∀ b' ∈ [], ¬ h.Rival b' := fun b' hb' => by cases hb'
  have hcalmAsks : h.Asks (owning b (asking b h.uncontended)) [b] := asks_asking b h.uncontended
  rw [acquire_of_none hcalm]
  by_cases hreleases : c.Releases
  · rw [acquire_of_released hrival hreleases hcalm]
    refine .released b [] [] hcalmAsks hbefore hrival hreleases rfl ?_
    intro b' hrival'
    exact h.uncontended_not_rival b' (owning_rival.mp hrival').2
  · obtain ⟨hasks, hrefused⟩ := acquire_of_kept purpose hrival hreleases
    exact .stopped b [] [] [] purpose hasks hcalmAsks hbefore hrival hreleases hrefused

theorem acquire_transparent (b : Buffer) (purpose : String) :
    (acquire b purpose).Transparent := by
  intro c h
  have hcalm : (h.uncontended.device.lockOf b).owner =
      if (h.device.lockOf b).owner = some .rival then none else (h.device.lockOf b).owner := by
    rw [← Lock.uncontended_owner, ← Device.lockOf_uncontended]
    rfl
  cases howner : (h.device.lockOf b).owner with
  | none =>
    rw [howner, if_neg (Ne.symm (Option.some_ne_none _))] at hcalm
    exact acquire_compares_of_none howner hcalm
  | some party =>
    cases party with
    | caller =>
      have hother : some Party.caller ≠ some Party.rival := by decide
      rw [howner, if_neg hother] at hcalm
      exact acquire_compares_of_caller howner hcalm
    | rival =>
      rw [if_pos howner] at hcalm
      exact acquire_compares_of_rival howner hcalm

/-! ## §6 Sections -/

/-- Runs a body and lets the lock of a buffer go. -/
def releasing (b : Buffer) (body : Op α) : Op α := fun c h =>
  ((body c h).1, release b (body c h).2)

theorem exclusively_eq (b : Buffer) (purpose : String) (body : Op α) :
    exclusively b purpose body = acquire b purpose >>= fun _ => releasing b body := by
  funext c h
  change _ = (acquire b purpose).andThen (fun _ => releasing b body) c h
  unfold exclusively andThen releasing
  rcases acquire b purpose c h with ⟨r, h'⟩
  cases r <;> rfl

theorem release_uncontended (b : Buffer) (h : Host) :
    (release b h).uncontended = release b h.uncontended := by
  have hdevice : (h.device.setLock b (h.device.lockOf b).freed).uncontended =
      h.device.uncontended.setLock b (h.device.uncontended.lockOf b).freed := by
    rw [Device.setLock_uncontended, Lock.freed_uncontended, Device.lockOf_uncontended]
  exact congrArg (fun d => { h with device := d }) hdevice

theorem release_rival {b' : Buffer} : (release b h).Rival b' ↔ b' ≠ b ∧ h.Rival b' :=
  Host.setLock_rival (Ne.symm (Option.some_ne_none _))

/-- Where no other thread owns the lock, letting it go at the end changes nothing on the
comparison. -/
theorem releasing_compares {body : Op α} (hbody : body.Transparent) (hother : ¬ h.Rival b) :
    Compares c h (releasing b body c h) (releasing b body c.undisturbed h.uncontended) := by
  refine (hbody c h).finish (fun _ h' => release_uncontended b h') (fun _ h' => .refl h') ?_
  intro _ h' hless b'
  rw [release_rival]
  exact ⟨fun hboth => hboth.2, fun hrival => ⟨fun hb => hother (hless b (hb ▸ hrival)), hrival⟩⟩

theorem acquire_not_rival (hok : (acquire b purpose c h).1 = .ok ()) :
    ¬ (acquire b purpose c h).2.Rival b := by
  rcases acquire_cases b purpose c h with ⟨e, h', hrun, -⟩ | ⟨k, held, hrun, hadmitted⟩
  · rw [hrun] at hok
    cases hok
  · rw [hrun, Host.Rival, Device.lockOf_owner, hadmitted.taken]
    cases b <;>
      simp only [Status.owned, Status.owner, Option.some.injEq, reduceCtorEq, not_false_eq_true]

theorem exclusively_transparent {body : Op α} (b : Buffer) (purpose : String)
    (hbody : body.Transparent) : (exclusively b purpose body).Transparent := by
  rw [exclusively_eq]
  exact (acquire_transparent b purpose).andThen_of_ok fun _ c h hok =>
    releasing_compares hbody (acquire_not_rival hok)

theorem inspect_transparent (b : Buffer) (purpose : String) {look : Device → α}
    (hsame : ∀ d, look d.uncontended = look d) :
    (exclusively b purpose (do return look (← device))).Transparent := by
  apply exclusively_transparent
  apply Transparent.device_bind
  · intro d
    exact .result (look d)
  · intro d
    rw [hsame]

end Op

end SectorDisk
