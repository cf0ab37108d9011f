import SectorDisk.Proofs.Contention

/-!
# What operations leave aside

An operation reads and changes some parts of its host and has nothing to do with others.  `Aside` is
a change of those parts that operations may have nothing to do with: the metrics, the handles, the
files, and what the journal held before.  An operation ignores such a change if it ends the same
with it and without it, and leaves hosts that differ by it again (`Op.Ignores`).

A change that sets a part to a given value says more than it seems to: an operation that ignores all
of them does not change that part, because it can be set to what it was (`Op.Ignores.metrics_eq`,
`Op.Ignores.handles_eq`, `Op.Ignores.files_eq`).
-/

namespace SectorDisk

variable {α β : Type}

/-! ## §1 Changes that are left aside -/

/-- A change of what an operation may have nothing to do with. -/
structure Aside where
  /-- What becomes of the metrics. -/
  metrics : Metrics → Metrics := id
  /-- What becomes of the handles. -/
  handles : List Handle → List Handle := id
  /-- What becomes of the files. -/
  files : Files → Files := id
  /-- What the journal held before. -/
  past : List Entry := []

/-- The device after the change. -/
def Device.beside (d : Device) (x : Aside) : Device :=
  { d with
    metrics := x.metrics d.metrics
    handles := x.handles d.handles }

/-- The host after the change. -/
def Host.beside (h : Host) (x : Aside) : Host where
  device := h.device.beside x
  files := x.files h.files
  journal := x.past ++ h.journal

/-- The handle of this number is spared by the change: it is the same as before, and it may be
replaced before or after the change. -/
structure Aside.Spares (x : Aside) (index : Nat) : Prop where
  look : ∀ handles, (x.handles handles)[index]? = handles[index]?
  set : ∀ handles e, x.handles (handles.set index e) = (x.handles handles).set index e

section Beside

variable (d : Device) (h : Host) (x : Aside)

@[simp] theorem Device.beside_lockOf (b : Buffer) :
    (d.beside x).lockOf b = d.lockOf b := by
  cases b <;> rfl

@[simp] theorem Device.beside_setLock (b : Buffer) (lock : Lock Party) :
    (d.beside x).setLock b lock = (d.setLock b lock).beside x := by
  cases b <;> rfl

@[simp] theorem Device.beside_letGo (b : Buffer) :
    (d.beside x).letGo b = (d.letGo b).beside x := by
  unfold letGo
  rw [beside_lockOf, beside_setLock]
  split <;> rfl

@[simp] theorem Device.beside_taken (b : Buffer) :
    (d.beside x).taken b = (d.taken b).beside x := by
  unfold taken
  rw [beside_lockOf, beside_setLock]
  split <;> rfl

@[simp] theorem Device.beside_interrupted (b : Buffer) :
    (d.beside x).interrupted b = (d.interrupted b).beside x := by
  cases b <;> rfl

@[simp] theorem Host.beside_enter (entry : Entry) :
    (h.beside x).enter entry = (h.enter entry).beside x :=
  congrArg (Host.mk (h.device.beside x) (x.files h.files)) (List.append_assoc ..)

@[simp] theorem Host.beside_tell (n : Notice) : (h.beside x).tell n = (h.tell n).beside x :=
  h.beside_enter x _

theorem Host.beside_updateDevice {f : Device → Device}
    (hcommutes : ∀ d : Device, f (d.beside x) = (f d).beside x) :
    (h.beside x).updateDevice f = (h.updateDevice f).beside x :=
  congrArg (fun d => Host.mk d (x.files h.files) (x.past ++ h.journal)) (hcommutes h.device)

@[simp] theorem Host.beside_closed : (h.beside x).closed = h.closed.beside x := by
  have hsame : (h.beside x).device.isClosed = h.device.isClosed := rfl
  unfold closed
  rw [hsame]
  split
  · rfl
  · rw [h.beside_updateDevice x fun d => rfl, beside_tell]

@[simp] theorem Host.beside_settled (wake : Option Wake) :
    (h.beside x).settled wake = (h.settled wake).beside x := by
  cases wake with
  | none => rfl
  | some w =>
    cases w with
    | cancel => rfl
    | interrupt b =>
      simp only [settled, woken]
      exact h.beside_updateDevice x fun d => d.beside_interrupted x b
    | close => exact h.beside_closed x
    | release =>
      simp only [settled, woken]
      apply h.beside_updateDevice x
      intro d
      rw [Device.beside_letGo, Device.beside_letGo]

theorem Op.asking_beside (b : Buffer) : asking b (h.beside x) = (asking b h).beside x := by
  have howned : (h.beside x).device.ownedBy .caller = h.device.ownedBy .caller := by
    unfold Device.ownedBy
    simp only [Host.beside, Device.beside_lockOf]
  rw [asking, howned, Host.beside_enter]
  rfl

theorem Op.owning_beside (b : Buffer) : owning b (h.beside x) = (owning b h).beside x := by
  apply h.beside_updateDevice x
  intro d
  rw [Device.beside_lockOf, Device.beside_setLock]

theorem Op.release_beside (b : Buffer) : release b (h.beside x) = (release b h).beside x := by
  apply h.beside_updateDevice x
  intro d
  rw [Device.beside_lockOf, Device.beside_setLock]

end Beside

/-! ## §2 Rules -/

/-- The operation has nothing to do with what the change is about. -/
def Op.Ignores (op : Op α) (x : Aside) : Prop :=
  ∀ c h, op c (h.beside x) = ((op c h).1, (op c h).2.beside x)

namespace Op.Ignores

variable {op : Op α} {next : α → Op β} {x : Aside}

theorem judge (r : Except Failure α) : (Op.judge r).Ignores x := fun _ _ => rfl

theorem result (a : α) : (pure a : Op α).Ignores x := judge (.ok a)

theorem fail (e : Failure) : (Op.fail e : Op α).Ignores x := judge (.error e)

theorem andThen (hop : op.Ignores x) (hnext : ∀ a, (next a).Ignores x) :
    (op >>= next).Ignores x := by
  intro c h
  have hfirst := hop c h
  cases hr : (op c h).1 with
  | error e =>
    rw [hr] at hfirst
    rw [bind_of_error hr, bind_of_error (congrArg Prod.fst hfirst), hfirst]
  | ok a =>
    rw [hr] at hfirst
    rw [bind_of_ok hr, bind_of_ok (congrArg Prod.fst hfirst), hfirst]
    exact hnext a c (op c h).2

/-- What follows a judgement need only ignore the change where the judgement is favourable. -/
theorem judged {r : Except Failure α} (hnext : ∀ a, r = .ok a → (next a).Ignores x) :
    (Op.judge r >>= next).Ignores x := by
  cases r with
  | error e => exact fail e
  | ok a => exact hnext a rfl

theorem giving (hop : op.Ignores x) (g : α → Value) : (op.giving g).Ignores x :=
  hop.andThen fun a => result (g a)

theorem branch {p : Prop} [Decidable p] {op' : Op α} (hthen : op.Ignores x)
    (helse : op'.Ignores x) : (if p then op else op').Ignores x := by
  split
  · exact hthen
  · exact helse

/-- What is read off a device must not be what the change is about. -/
theorem device_bind {next : Device → Op β} (hnext : ∀ d, (next d).Ignores x)
    (hsame : ∀ d : Device, next (d.beside x) = next d) : (Op.device >>= next).Ignores x := by
  intro c h
  have hlook : next (h.beside x).device = next h.device := hsame h.device
  rw [device_bind_run, device_bind_run, hlook]
  exact hnext h.device c h

theorem host_bind {next : Host → Op β} (hnext : ∀ h, (next h).Ignores x)
    (hsame : ∀ h : Host, next (h.beside x) = next h) : (Op.host >>= next).Ignores x := by
  intro c h
  rw [host_bind_run, host_bind_run, hsame]
  exact hnext h c h

theorem circumstance_bind {next : Circumstance → Op β} (hnext : ∀ c, (next c).Ignores x) :
    (Op.circumstance >>= next).Ignores x :=
  fun c h => hnext c c h

theorem update {g : Host → Host} (hcommutes : ∀ h : Host, g (h.beside x) = (g h).beside x) :
    (Op.update g).Ignores x := by
  intro c h
  exact congrArg (Prod.mk _) (hcommutes h)

theorem updateDevice {g : Device → Device}
    (hcommutes : ∀ d : Device, g (d.beside x) = (g d).beside x) :
    (Op.updateDevice g).Ignores x :=
  update fun h => h.beside_updateDevice x hcommutes

theorem tell (n : Notice) : (Op.tell n).Ignores x :=
  update fun h => h.beside_tell x n

theorem retry (b : Buffer) (purpose : String) (ticket : Nat) :
    (Op.retry b purpose ticket).Ignores x := by
  intro c h
  have hlock : (h.beside x).device.lockOf b = h.device.lockOf b := h.device.beside_lockOf x b
  unfold Op.retry
  rw [hlock]
  split
  · rw [h.beside_updateDevice x fun d => d.beside_setLock x b _]
  · rfl
  · rw [h.beside_updateDevice x fun d => d.beside_interrupted x b]

theorem acquire (b : Buffer) (purpose : String) : (Op.acquire b purpose).Ignores x := by
  intro c h
  have hlock : (h.beside x).device.lockOf b = h.device.lockOf b := h.device.beside_lockOf x b
  cases howner : (h.device.lockOf b).owner with
  | none =>
    rw [acquire_of_none howner, acquire_of_none (hlock ▸ howner), asking_beside, owning_beside]
  | some party =>
    cases party with
    | caller => rw [acquire_of_caller howner, acquire_of_caller (hlock ▸ howner), asking_beside]
    | rival =>
      -- who waits sees the same lock before and after the change
      have hrival : (h.beside x).Rival b := (congrArg Lock.owner hlock).trans howner
      rw [acquire_of_rival howner, acquire_of_rival hrival, hlock, asking_beside]
      split
      · rfl
      · rw [Host.beside_settled]
        exact retry b purpose _ c _

theorem exclusively {body : Op α} (b : Buffer) (purpose : String) (hbody : body.Ignores x) :
    (Op.exclusively b purpose body).Ignores x := by
  -- the lock is let go of on every way out of the section
  rw [exclusively_eq]
  refine (acquire b purpose).andThen fun _ c h => ?_
  unfold releasing
  rw [hbody c h, release_beside]

theorem inspect (b : Buffer) (purpose : String) {look : Device → α}
    (hsame : ∀ d : Device, look (d.beside x) = look d) :
    (Op.exclusively b purpose (do return look (← Op.device))).Ignores x := by
  apply exclusively
  apply device_bind
  · intro d
    exact result (look d)
  · intro d
    rw [hsame]

/-! ## §3 What is not changed -/

theorem metrics_eq (hop : ∀ m, op.Ignores { metrics := fun _ => m }) (c : Circumstance) (h : Host) :
    (op c h).2.device.metrics = h.device.metrics := by
  -- the metrics are set to what they are
  have hsame : h.beside { metrics := fun _ => h.device.metrics } = h := rfl
  have hrun := hop h.device.metrics c h
  rw [hsame] at hrun
  exact congrArg (fun out => out.2.device.metrics) hrun

theorem handles_eq (hop : ∀ hs, op.Ignores { handles := fun _ => hs }) (c : Circumstance)
    (h : Host) : (op c h).2.device.handles = h.device.handles := by
  have hsame : h.beside { handles := fun _ => h.device.handles } = h := rfl
  have hrun := hop h.device.handles c h
  rw [hsame] at hrun
  exact congrArg (fun out => out.2.device.handles) hrun

theorem files_eq (hop : ∀ f, op.Ignores { files := fun _ => f }) (c : Circumstance) (h : Host) :
    (op c h).2.files = h.files := by
  have hsame : h.beside { files := fun _ => h.files } = h := rfl
  have hrun := hop h.files c h
  rw [hsame] at hrun
  exact congrArg (fun out => out.2.files) hrun

end Op.Ignores

end SectorDisk
