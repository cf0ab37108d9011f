import SectorDisk.Proofs.Outcome.Operation
import SectorDisk.Proofs.Result

/-!
# History of a run

`Host.history` lists the deeds of the operations of a run that succeeded, in order.  It is told from
the operations, their arguments and their results alone, and it determines the store: what a device
keeps after a run is what the history makes of what it kept before (`run_store`), and every deed was
admitted when it was done (`history_permitted`).

What a part of the store is then can be looked up: `latest?` finds the last deed that gave it.
-/

namespace SectorDisk

/-! ## §1 The history of a run -/

/-- What a step did to the device: the deeds of an operation that succeeded. -/
def Host.deedsOf (h : Host) : Step → List Deed
  | .operate c op =>
    match (h.operate c op).1 with
    | .ok result => op.deeds h.device result
    | .error _ => []
  | _ => []

/-- What was done to the device in a run, in order. -/
def Host.history (h : Host) : List Step → List Deed
  | [] => []
  | step :: rest => h.deedsOf step ++ (h.step step).history rest

namespace Host

theorem run_append (h : Host) (steps more : List Step) :
    h.run (steps ++ more) = (h.run steps).run more :=
  List.foldl_append

theorem history_singleton (h : Host) (step : Step) : h.history [step] = h.deedsOf step :=
  List.append_nil _

theorem history_append (h : Host) (steps more : List Step) :
    h.history (steps ++ more) = h.history steps ++ (h.run steps).history more := by
  induction steps generalizing h with
  | nil => rfl
  | cons step rest ih =>
    simp only [List.cons_append, history, ih, List.append_assoc]
    rfl

theorem woken_store (h : Host) (w : Wake) : (h.woken w).device.store = h.device.store := by
  have hstatus := congrArg Status.toStore (h.woken_status w)
  rw [Status.woken_toStore] at hstatus
  exact hstatus

theorem settled_store (h : Host) (wake : Option Wake) :
    (h.settled wake).device.store = h.device.store := by
  cases wake with
  | none => rfl
  | some w => exact h.woken_store w

end Host

/-! ## §2 One step -/

theorem Host.withFiles_device (h : Host) (change : Files → Except FileProblem Files) :
    (h.withFiles change).device = h.device := by
  unfold withFiles
  split <;> rfl

/-- What others do to a device changes its locks and nothing else. -/
theorem Host.step_view {γ : Type} (view : Device → γ)
    (hview : ∀ d primary mirror,
      view { d with primaryLock := primary, mirrorLock := mirror } = view d)
    (h : Host) {step : Step} (hother : ∀ c op, step ≠ .operate c op) :
    view (h.step step).device = view h.device := by
  have hset (b : Buffer) (lock : Lock Party) : view (h.device.setLock b lock) = view h.device := by
    cases b with
    | primary => exact hview h.device lock h.device.mirrorLock
    | mirror => exact hview h.device h.device.primaryLock lock
  cases step with
  | operate c op => exact absurd rfl (hother c op)
  | hold b =>
    simp only [step, updateDevice_device, Device.taken]
    split
    · exact hset b _
    · rfl
  | letGo b =>
    simp only [step, updateDevice_device, Device.letGo]
    split
    · exact hset b _
    · rfl
  | interrupt b => exact hset b _
  | writeFile path content => exact congrArg view (h.withFiles_device _)
  | makeDirectory path => exact congrArg view (h.withFiles_device _)

/-- **One step**: the store after it is what its deeds make of the store before, which admitted
them. -/
theorem Host.step_store (h : Host) (step : Step) :
    (h.step step).device.store = h.device.store.after (h.deedsOf step) ∧
      h.device.store.Permits (h.deedsOf step) := by
  cases step with
  | operate c op =>
    have hsettled : (h.step (.operate c op)).device.store = (op.perform c h).2.device.store :=
      settled_store _ c.wake
    have hdeeds : h.deedsOf (.operate c op) =
        match (op.perform c h).1 with
        | .ok result => op.deeds h.device result
        | .error _ => [] := rfl
    rw [hsettled, hdeeds]
    rcases (op.perform_outcome c h).store_cases with
      ⟨e, hr, hstore⟩ | ⟨result, hr, hstore, hpermits⟩
    · simp only [hr]
      exact ⟨hstore, trivial⟩
    · simp only [hr]
      exact ⟨hstore, hpermits⟩
  | hold | letGo | interrupt | writeFile | makeDirectory =>
    refine ⟨h.step_view Device.store (fun _ _ _ => rfl) ?_, trivial⟩
    rintro _ _ ⟨⟩

/-! ## §3 Runs -/

/-- **Runs**: the store after a run is what its history makes of the store before. -/
theorem Host.run_store (h : Host) (steps : List Step) :
    (h.run steps).device.store = h.device.store.after (h.history steps) := by
  induction steps generalizing h with
  | nil => rfl
  | cons step rest ih =>
    have hrest := ih (h.step step)
    rw [(h.step_store step).1] at hrest
    rw [history, Store.after_append]
    exact hrest

/-- A device has the same keys for its whole life. -/
theorem Host.run_keys (h : Host) (steps : List Step) :
    (h.run steps).device.keys = h.device.keys := by
  have hkeys := congrArg Store.keys (h.run_store steps)
  rw [Store.after_keys] at hkeys
  exact hkeys

/-- Every deed of a run was admitted when it was done. -/
theorem Host.history_permitted (h : Host) (steps : List Step) :
    h.device.store.Permits (h.history steps) := by
  induction steps generalizing h with
  | nil => trivial
  | cons step rest ih =>
    obtain ⟨hstore, hpermits⟩ := h.step_store step
    have hrest := ih (h.step step)
    rw [hstore] at hrest
    exact (Store.permits_append ..).mpr ⟨hpermits, hrest⟩

/-! ## §4 The latest deed -/

variable {β : Type}

/-- What the latest deed gave, of those that give anything. -/
def latest? (given? : Deed → Option β) (ds : List Deed) : Option β :=
  ds.reverse.findSome? given?

theorem latest?_append (given? : Deed → Option β) (ds more : List Deed) :
    latest? given? (ds ++ more) = (latest? given? more).or (latest? given? ds) := by
  simp only [latest?, List.reverse_append, List.findSome?_append]

theorem latest?_cons (given? : Deed → Option β) (x : Deed) (ds : List Deed) :
    latest? given? (x :: ds) = (latest? given? ds).or (given? x) := by
  rw [← List.singleton_append, latest?_append]
  simp only [latest?, List.reverse_singleton, List.findSome?_singleton]

theorem latest?_eq_none {given? : Deed → Option β} {ds : List Deed}
    (hnone : ∀ x ∈ ds, given? x = none) : latest? given? ds = none := by
  apply List.findSome?_eq_none_iff.mpr
  intro x hx
  exact hnone x (List.mem_reverse.mp hx)

/-- Where there is a latest deed, nothing was given after it. -/
theorem latest?_eq_some {given? : Deed → Option β} {ds : List Deed} {b : β}
    (hsome : latest? given? ds = some b) :
    ∃ before x later, ds = before ++ x :: later ∧ given? x = some b ∧
      ∀ y ∈ later, given? y = none := by
  obtain ⟨later, x, before, hsplit, hx, hnone⟩ := List.findSome?_eq_some_iff.mp hsome
  -- the search runs from the end, so what it met first came later
  refine ⟨before.reverse, x, later.reverse, ?_, hx, fun y hy => hnone y (List.mem_reverse.mp hy)⟩
  rw [← List.reverse_reverse ds, hsplit, List.reverse_append, List.reverse_cons, List.append_assoc,
    List.singleton_append]

/-- A part of the store that each deed gives or leaves alone is what the latest deed gave. -/
theorem Store.view_after (view : Store → β) (given? : Deed → Option β)
    (hview : ∀ k x, view (k.did x) = (given? x).getD (view k)) (k : Store) (ds : List Deed) :
    view (k.after ds) = (latest? given? ds).getD (view k) := by
  induction ds generalizing k with
  | nil => rfl
  | cons x ds ih =>
    -- what `x` gave stands only where nothing after it gives anything
    rw [after_cons, ih, hview, latest?_cons]
    cases latest? given? ds <;> rfl

/-- **The latest deed decides** what a run leaves in every part of the store. -/
theorem Host.run_view (view : Store → β) (given? : Deed → Option β)
    (hview : ∀ k x, view (k.did x) = (given? x).getD (view k)) (h : Host) (steps : List Step) :
    view (h.run steps).device.store =
      (latest? given? (h.history steps)).getD (view h.device.store) := by
  rw [run_store, Store.view_after view given? hview]

/-! ## §5 New devices -/

/-- A new device has the keys that were read, and the rest of it is as devices begin. -/
theorem Host.start_device {keys : Value} {files : Files} {h : Host}
    (hstart : Host.start keys files = .ok h) : ∃ ring : Keyring, h.device = { keys := ring } := by
  unfold start at hstart
  obtain ⟨ring, -, hmade⟩ := exists_of_bind_ok hstart
  cases hmade
  exact ⟨ring, rfl⟩

theorem Host.start_keys {keys : Value} {files : Files} {h : Host}
    (hstart : Host.start keys files = .ok h) : Keyring.ofValue keys = .ok h.device.keys := by
  unfold start at hstart
  obtain ⟨ring, hring, hmade⟩ := exists_of_bind_ok hstart
  cases hmade
  exact hring

/-- A new device is blank and nothing on it is protected. -/
theorem Host.start_store {keys : Value} {files : Files} {h : Host}
    (hstart : Host.start keys files = .ok h) :
    h.device.primary = Image.blank ∧ h.device.mirror = Image.blank ∧
      h.device.protection = Vector.replicate 8 false := by
  obtain ⟨ring, hdevice⟩ := start_device hstart
  rw [hdevice]
  exact ⟨rfl, rfl, rfl⟩

/-- A new device with the standard keys and no files. -/
def Host.fresh : Host where
  device := { keys := Keyring.standard }
  files := Files.empty
  journal := [.notice .standardKeys, .notice .mirrorReady, .notice .deviceReady]

end SectorDisk
