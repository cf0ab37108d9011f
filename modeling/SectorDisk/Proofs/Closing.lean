import SectorDisk.Proofs.Control.Metrics

/-!
# Closing

A device that was closed stays closed, and so does a handle.  Everything that asks for an open
device or handle looks whether it is open before it looks at anything else, so that on a closed one
it fails in one way and does nothing.

What one handle was closed for is nothing to others: two hosts that differ by a closed handle go
through the same run alike, as long as nothing is asked of that handle (`Host.Parted`).
-/

namespace SectorDisk

variable {c : Circumstance} {h : Host} {index : Nat}

/-! ## §1 Endpoints -/

/-- What asks for an open handle: transfers, and moving the cursor. -/
inductive HandleOperation.Moves : HandleOperation → Prop
  | read {length} : Moves (.read length)
  | write {data} : Moves (.write data)
  | pread {length offset} : Moves (.pread length offset)
  | pwrite {data offset} : Moves (.pwrite data offset)
  | seek {offset whence} : Moves (.seek offset whence)

/-- What asks for an open device: opening a handle, a control command, and what asks for an open
handle. -/
inductive Operation.Endpoint : Operation → Prop
  | openHandle : Endpoint .openHandle
  | control {command payload} : Endpoint (.control command payload)
  | handle {index hop} (hmoves : hop.Moves) : Endpoint (.handle index hop)

/-- What closes the device: closing it, and leaving its context. -/
inductive Operation.Closes : Operation → Prop
  | close : Closes .close
  | useOnce : Closes .useOnce

/-- A handle that is not usable refuses whatever asks for an open one, before it looks at the
arguments. -/
theorem HandleOperation.Moves.perform_run {hop : HandleOperation} (hmoves : hop.Moves)
    {e : Failure} (hunusable : h.device.usable index = .error e) :
    (Operation.handle index hop).perform c h = (.error e, h) := by
  have hrun : Stream.check index c h = (.error e, h) := by rw [Stream.check_run, hunusable]
  have herror := congrArg Prod.fst hrun
  cases hmoves with
  | read | write | pread | pwrite | seek =>
    simp only [Operation.perform, HandleOperation.perform, Op.giving_run, Stream.read,
      Stream.write, Stream.pread, Stream.pwrite, Stream.seek, Op.bind_of_error herror, hrun,
      Except.map]

/-! ## §2 A closed device -/

theorem Operation.Endpoint.perform_run {op : Operation} (hendpoint : op.Endpoint)
    (hclosed : h.device.isClosed = true) : op.perform c h = (.error .deviceClosed, h) := by
  have hrun : Device.check c h = (.error .deviceClosed, h) := by
    rw [Device.check_run, if_pos hclosed]
  have herror := congrArg Prod.fst hrun
  cases hendpoint with
  | openHandle =>
    simp only [perform, Op.giving_run, Device.open, Op.bind_of_error herror, hrun, Except.map]
  | control => simp only [perform, Device.control, Op.bind_of_error herror, hrun]
  | handle hmoves => exact hmoves.perform_run (by rw [Device.usable, if_pos hclosed])

theorem Host.closed_of_isClosed (hclosed : h.device.isClosed = true) : h.closed = h := by
  rw [Host.closed, if_pos hclosed]

theorem Operation.Closes.perform_host {op : Operation} (hcloses : op.Closes) :
    (op.perform c h).2 = h.closed := by
  cases hcloses <;> rfl

namespace Status

variable {k : Status}

theorem letGo_isClosed (k : Status) (b : Buffer) : (k.letGo b).isClosed = k.isClosed := by
  unfold letGo
  split
  · cases b <;> rfl
  · rfl

theorem woken_isClosed (hclosed : k.isClosed = true) (w : Wake) : (k.woken w).isClosed = true := by
  cases w with
  | close => rfl
  | release => rw [woken, letGo_isClosed, letGo_isClosed, hclosed]
  | cancel | interrupt => exact hclosed

theorem after_isClosed (hclosed : k.isClosed = true) (ds : List Deed) :
    (k.after ds).isClosed = true := by
  induction ds generalizing k with
  | nil => exact hclosed
  | cons x ds ih =>
    apply ih
    rw [did, hclosed, Bool.or_true]

end Status

namespace Host

theorem closed_isClosed (h : Host) : h.closed.device.isClosed = true :=
  congrArg Status.isClosed h.closed_status

theorem settled_isClosed (hclosed : h.device.isClosed = true) (wake : Option Wake) :
    (h.settled wake).device.isClosed = true := by
  cases wake with
  | none => exact hclosed
  | some w =>
    exact (congrArg Status.isClosed (h.woken_status w)).trans (Status.woken_isClosed hclosed w)

theorem perform_isClosed (hclosed : h.device.isClosed = true) (c : Circumstance) (op : Operation) :
    (op.perform c h).2.device.isClosed = true := by
  obtain ⟨k, ds, hidle, hstatus⟩ := (op.perform_outcome c h).exists_after
  have hk : k.isClosed = true := by
    rcases hidle with rfl | ⟨w, -, -, rfl⟩
    · exact hclosed
    · exact Status.woken_isClosed hclosed w
  exact (congrArg Status.isClosed hstatus).trans (Status.after_isClosed hk ds)

theorem step_isClosed (hclosed : h.device.isClosed = true) (step : Step) :
    (h.step step).device.isClosed = true := by
  cases step with
  | operate c op => exact settled_isClosed (perform_isClosed hclosed c op) c.wake
  | hold | letGo | interrupt | writeFile | makeDirectory =>
    refine (h.step_view Device.isClosed (fun _ _ _ => rfl) ?_).trans hclosed
    rintro _ _ ⟨⟩

/-- **A closed device stays closed**, whatever is done with it. -/
theorem run_isClosed (hclosed : h.device.isClosed = true) (steps : List Step) :
    (h.run steps).device.isClosed = true := by
  induction steps generalizing h with
  | nil => exact hclosed
  | cons step rest ih => exact ih (step_isClosed hclosed step)

end Host

/-- What closes the device: an operation that does, or one during which another thread does. -/
inductive Step.Closes : Step → Prop
  | operation {c op} (hcloses : op.Closes) : Closes (.operate c op)
  | meanwhile {c op} (hwake : c.wake = some .close) : Closes (.operate c op)

/-- The step asks something of an endpoint or closes the device once more. -/
inductive Step.Vain : Step → Prop
  | endpoint {c op} (hendpoint : op.Endpoint) : Vain (.operate c op)
  | again {c op} (hcloses : op.Closes) : Vain (.operate c op)

namespace Host

theorem isClosed_of_closes {step : Step} (hcloses : step.Closes) :
    (h.step step).device.isClosed = true := by
  cases hcloses with
  | @operation c op hcloses =>
    have hclosed : (op.perform c h).2.device.isClosed = true := by
      rw [hcloses.perform_host]
      exact h.closed_isClosed
    exact settled_isClosed hclosed c.wake
  | @meanwhile c op hwake =>
    have hlast : h.step (.operate c op) = (op.perform c h).2.closed :=
      congrArg (op.perform c h).2.settled hwake
    rw [hlast]
    exact closed_isClosed _

/-- A device that was closed in a run is closed at its end. -/
theorem run_of_closes {steps : List Step} (hcloses : ∃ step ∈ steps, step.Closes) :
    (h.run steps).device.isClosed = true := by
  obtain ⟨step, hmem, hstep⟩ := hcloses
  obtain ⟨before, later, rfl⟩ := List.append_of_mem hmem
  rw [run_append]
  exact run_isClosed (isClosed_of_closes hstep) later

/-- On a closed device a vain step is no more than what happens on its waiting. -/
theorem step_of_vain (hclosed : h.device.isClosed = true) {step : Step} (hvain : step.Vain) :
    ∃ wake, h.step step = h.settled wake := by
  cases hvain with
  | @endpoint c op hendpoint =>
    refine ⟨c.wake, ?_⟩
    rw [step, operate, hendpoint.perform_run hclosed]
  | @again c op hcloses =>
    have hhost : (op.perform c h).2 = h := by
      rw [hcloses.perform_host, closed_of_isClosed hclosed]
    exact ⟨c.wake, congrArg (·.settled c.wake) hhost⟩

/-- The host has a closed device: every endpoint refuses, closing it again does nothing, and no run
of such steps changes a buffer, the protection, a cursor, the metrics or a file. -/
structure Sealed (h : Host) : Prop where
  closed : h.device.isClosed = true
  endpoint : ∀ c op, Operation.Endpoint op →
    ∃ e, e.Blames "device" ∧ op.perform c h = (.error e, h)
  again : ∀ c op, Operation.Closes op → (op.perform c h).2 = h
  frozen : ∀ steps, (∀ step ∈ steps, Step.Vain step) →
    (h.run steps).device.store = h.device.store ∧
      (h.run steps).device.metrics = h.device.metrics ∧ (h.run steps).files = h.files

theorem frozen_of_isClosed (hclosed : h.device.isClosed = true) {steps : List Step}
    (hvain : ∀ step ∈ steps, Step.Vain step) :
    (h.run steps).device.store = h.device.store ∧
      (h.run steps).device.metrics = h.device.metrics ∧ (h.run steps).files = h.files := by
  induction steps generalizing h with
  | nil => exact ⟨rfl, rfl, rfl⟩
  | cons step rest ih =>
    obtain ⟨hstep, hrest⟩ := List.forall_mem_cons.mp hvain
    obtain ⟨wake, hsettled⟩ := step_of_vain hclosed hstep
    obtain ⟨hstore, hmetrics, hfiles⟩ := ih (step_isClosed hclosed step) hrest
    have hrun : h.run (step :: rest) = (h.settled wake).run rest := by
      rw [← hsettled]
      rfl
    rw [hsettled] at hstore hmetrics hfiles
    rw [hrun]
    exact ⟨hstore.trans (h.settled_store wake), hmetrics.trans (h.settled_metrics wake),
      hfiles.trans (h.settled_files wake)⟩

theorem sealed_of_isClosed (hclosed : h.device.isClosed = true) : h.Sealed where
  closed := hclosed
  endpoint _ _ hendpoint :=
    ⟨.deviceClosed, Failure.deviceClosed_blames, hendpoint.perform_run hclosed⟩
  again _ _ hcloses := hcloses.perform_host.trans (closed_of_isClosed hclosed)
  frozen _ hvain := frozen_of_isClosed hclosed hvain

end Host

/-! ## §3 A closed handle -/

/-- The handle of this number was opened and closed. -/
def Store.Released (k : Store) (index : Nat) : Prop :=
  ∃ e, k.handles[index]? = some e ∧ e.isClosed = true

namespace Store.Released

variable {k : Store}

/-- **One deed**: nothing that is done to a device opens a handle again. -/
theorem did (hreleased : k.Released index) (x : Deed) : (k.did x).Released index := by
  obtain ⟨e, he, hclosed⟩ := hreleased
  -- a change of one handle that closes none but keeps closed what was
  have hmodified (i : Nat) (f : Handle → Handle)
      (hf : ∀ e : Handle, e.isClosed = true → (f e).isClosed = true) :
      ∃ e, (k.handles.modify i f)[index]? = some e ∧ e.isClosed = true := by
    by_cases hi : i = index
    · subst hi
      exact ⟨f e, by rw [List.getElem?_modify_eq, he]; rfl, hf e hclosed⟩
    · exact ⟨e, by rw [List.getElem?_modify_ne f k.handles hi, he], hclosed⟩
  unfold Released
  rw [did_handles]
  cases x with
  | opened =>
    have hlt := (List.getElem?_eq_some_iff.mp he).1
    exact ⟨e, by rw [← he]; exact List.getElem?_append_left hlt, hclosed⟩
  | advanced i count =>
    apply hmodified
    intro e he
    unfold Handle.advanced
    split <;> exact he
  | sought i cursor => exact hmodified i _ fun _ he => he
  | released i => exact hmodified i _ fun _ _ => rfl
  | _ => exact ⟨e, he, hclosed⟩

theorem after (hreleased : k.Released index) (ds : List Deed) : (k.after ds).Released index := by
  induction ds generalizing k with
  | nil => exact hreleased
  | cons x ds ih => exact ih (hreleased.did x)

theorem usable {d : Device} (hreleased : d.store.Released index) (hopen : d.isClosed = false) :
    d.usable index = .error .handleClosed := by
  obtain ⟨e, he, hclosed⟩ := hreleased
  have hhandle : d.handle index = e := congrArg (Option.getD · _) he
  rw [Device.usable, hopen, hhandle, hclosed]
  rfl

end Store.Released

/-- The handle was opened and closed, and while the device is open it refuses whatever asks for an
open one. -/
structure Host.Shut (index : Nat) (h : Host) : Prop where
  released : h.device.store.Released index
  moves : h.device.isClosed = false → ∀ c hop, HandleOperation.Moves hop →
    ∃ e, e.Blames "handle" ∧ (Operation.handle index hop).perform c h = (.error e, h)

/-- **A closed handle stays closed**, whatever is done with the device. -/
theorem Host.run_shut (hreleased : h.device.store.Released index) (steps : List Step) :
    (h.run steps).Shut index := by
  have hstill : (h.run steps).device.store.Released index := by
    rw [run_store]
    exact hreleased.after _
  refine ⟨hstill, fun hopen c hop hmoves => ?_⟩
  exact ⟨.handleClosed, Failure.handleClosed_blames, hmoves.perform_run (hstill.usable hopen)⟩

/-! ## §4 Hosts that differ by a closed handle -/

/-- The device with a handle closed. -/
def Device.withClosed (d : Device) (index : Nat) : Device :=
  { d with handles := d.handles.modify index fun e => { e with isClosed := true } }

/-- The host `h'` is `h` with a handle closed; their journals were `past` and `past'`, and since
then the same happened on both. -/
structure Host.Parted (index : Nat) (past past' : List Entry) (h h' : Host) : Prop where
  opened : index < h.device.handles.length
  device : h'.device = h.device.withClosed index
  files : h'.files = h.files
  journal : ∃ since, h.journal = past ++ since ∧ h'.journal = past' ++ since

/-- The step asks nothing of the handle. -/
inductive Operation.Spares (index : Nat) : Operation → Prop
  | handle {other hop} (hother : other ≠ index) : Spares index (.handle other hop)
  | device {op} (hother : ∀ other hop, op ≠ .handle other hop) : Spares index op

/-- Another handle is closed, and the journal began otherwise. -/
def Aside.closing (index : Nat) (past : List Entry) : Aside where
  handles handles := handles.modify index fun e => { e with isClosed := true }
  past := past

theorem Aside.closing_spares {other : Nat} (hother : other ≠ index) (past : List Entry) :
    (closing index past).Spares other where
  look handles := List.getElem?_modify_ne _ handles (Ne.symm hother)
  set handles e := by
    apply List.ext_getElem?
    intro i
    simp only [closing]
    grind

theorem Operation.Spares.besides {op : Operation} (hspares : op.Spares index)
    (hopen : op ≠ .openHandle) (past : List Entry) : (Aside.closing index past).Besides op where
  handle := by
    rintro other hop rfl
    cases hspares with
    | handle hother => exact Aside.closing_spares hother past
    | device hother => exact absurd rfl (hother other hop)
  openHandle h := absurd h hopen
  metrics _ := rfl
  command _ := rfl
  backup _ := rfl

theorem Aside.past_besides (past : List Entry) (op : Operation) :
    ({ past := past } : Aside).Besides op :=
  ⟨fun _ => ⟨fun _ => rfl, fun _ _ => rfl⟩, fun _ => rfl, fun _ => rfl, fun _ => rfl, fun _ => rfl⟩

theorem modify_append_of_lt {α : Type} {l : List α} (hlt : index < l.length) (f : α → α) (a : α) :
    (l ++ [a]).modify index f = l.modify index f ++ [a] := by
  apply List.ext_getElem?
  intro i
  grind

theorem Host.beside_opened (hopened : index < h.device.handles.length) (past : List Entry) :
    ((h.beside (.closing index past)).updateDevice fun d =>
        { d with handles := d.handles ++ [{}] }) =
      (h.updateDevice fun d => { d with handles := d.handles ++ [{}] }).beside
        (.closing index past) := by
  simp only [updateDevice, beside, Device.beside, Aside.closing, modify_append_of_lt hopened]

/-- A handle that is opened after another one was closed is the one that would have been opened. -/
theorem Host.operate_open_closing (hopened : index < h.device.handles.length)
    (past : List Entry) (c : Circumstance) :
    (h.beside (.closing index past)).operate c .openHandle =
      ((h.operate c .openHandle).1, (h.operate c .openHandle).2.beside (.closing index past)) := by
  have hclosed : (h.beside (.closing index past)).device.isClosed = h.device.isClosed := rfl
  have hlength : (h.beside (.closing index past)).device.handles.length =
      h.device.handles.length := List.length_modify ..
  simp only [operate, Operation.perform, Op.giving_run, Device.open_run, hclosed, hlength]
  split
  · rw [beside_settled]
  · rw [beside_opened hopened, beside_tell, beside_settled]

namespace Host.Parted

variable {past past' : List Entry} {h' : Host}

/-- Hosts that differ by a closed handle are made from one. -/
theorem exists_common (hparted : Parted index past past' h h') :
    ∃ k : Host, index < k.device.handles.length ∧ h = k.beside { past := past } ∧
      h' = k.beside (.closing index past') := by
  obtain ⟨hopened, hdevice, hfiles, since, hjournal, hjournal'⟩ := hparted
  refine ⟨{ h with journal := since }, hopened, ?_, ?_⟩
  · rw [beside, ← hjournal]
    rfl
  · rw [beside, Aside.closing, ← hjournal']
    obtain ⟨device, files, journal⟩ := h'
    cases hdevice
    cases hfiles
    rfl

theorem of_common {k : Host} (hopened : index < k.device.handles.length) :
    Parted index past past' (k.beside { past := past }) (k.beside (.closing index past')) :=
  ⟨hopened, rfl, rfl, k.journal, rfl, rfl⟩

end Host.Parted

/-- Handles are opened and never taken away. -/
theorem Store.length_handles_le (k : Store) (ds : List Deed) :
    k.handles.length ≤ (k.after ds).handles.length := by
  induction ds generalizing k with
  | nil => exact Nat.le_refl _
  | cons x ds ih =>
    have hfirst : k.handles.length ≤ (k.did x).handles.length := by
      rw [did_handles]
      cases x <;> simp [Deed.onHandles]
    exact Nat.le_trans hfirst (ih (k.did x))

theorem Host.opened_step (hopened : index < h.device.handles.length) (step : Step) :
    index < (h.step step).device.handles.length := by
  have hhandles : (h.step step).device.handles =
      (h.device.store.after (h.deedsOf step)).handles :=
    congrArg Store.handles (h.step_store step).1
  rw [hhandles]
  exact Nat.lt_of_lt_of_le hopened (h.device.store.length_handles_le _)

namespace Host.Parted

variable {past past' : List Entry} {h' : Host}

/-- **One operation** on anything but the handle ends alike on both. -/
theorem operate (hparted : Parted index past past' h h') {op : Operation}
    (hspares : op.Spares index) (c : Circumstance) :
    (h'.operate c op).1 = (h.operate c op).1 ∧
      Parted index past past' (h.operate c op).2 (h'.operate c op).2 := by
  obtain ⟨k, hopened, rfl, rfl⟩ := hparted.exists_common
  have hstill : index < (k.operate c op).2.device.handles.length :=
    opened_step hopened (.operate c op)
  rw [operate_beside (Aside.past_besides past op)]
  by_cases hopen : op = .openHandle
  · subst hopen
    rw [operate_open_closing hopened]
    exact ⟨rfl, of_common hstill⟩
  · rw [operate_beside (hspares.besides hopen past')]
    exact ⟨rfl, of_common hstill⟩

end Host.Parted

/-- The step asks nothing of the handle. -/
inductive Step.Spares (index : Nat) : Step → Prop
  | operation {c op} (hspares : op.Spares index) : Spares index (.operate c op)
  | other {step} (hother : ∀ c op, step ≠ .operate c op) : Spares index step

namespace Host.Parted

variable {past past' : List Entry} {h' : Host}

theorem step (hparted : Parted index past past' h h') {step : Step} (hspares : step.Spares index) :
    Parted index past past' (h.step step) (h'.step step) := by
  cases hspares with
  | operation hspares => exact (hparted.operate hspares _).2
  | other hother =>
    obtain ⟨k, hopened, rfl, rfl⟩ := hparted.exists_common
    rw [step_beside rfl k hother, step_beside rfl k hother]
    exact of_common (opened_step hopened step)

/-- **A whole run** that asks nothing of the handle goes alike on both. -/
theorem run (hparted : Parted index past past' h h') {steps : List Step}
    (hspares : ∀ step ∈ steps, step.Spares index) :
    Parted index past past' (h.run steps) (h'.run steps) := by
  induction steps generalizing h h' with
  | nil => exact hparted
  | cons step rest ih =>
    obtain ⟨hstep, hrest⟩ := List.forall_mem_cons.mp hspares
    exact ih (hparted.step hstep) hrest

theorem settled (hparted : Parted index past past' h h') (wake : Option Wake) :
    Parted index past past' (h.settled wake) (h'.settled wake) := by
  obtain ⟨k, hopened, rfl, rfl⟩ := hparted.exists_common
  rw [beside_settled, beside_settled]
  have hhandles : (k.settled wake).device.handles = k.device.handles :=
    congrArg Store.handles (k.settled_store wake)
  exact of_common (hhandles ▸ hopened)

theorem released (hparted : Parted index past past' h h') : h'.device.store.Released index := by
  obtain ⟨e, he⟩ : ∃ e, h.device.handles[index]? = some e :=
    ⟨_, List.getElem?_eq_getElem hparted.opened⟩
  refine ⟨{ e with isClosed := true }, ?_, rfl⟩
  rw [hparted.device]
  simp only [Device.store, Device.withClosed, List.getElem?_modify_eq, he]
  rfl

end Host.Parted

/-! ## §5 Closing -/

/-- What closes a handle: closing it, and leaving its context. -/
inductive HandleOperation.Closes : HandleOperation → Prop
  | close : Closes .close
  | useOnce : Closes .useOnce

theorem HandleOperation.Closes.perform_host {hop : HandleOperation} (hcloses : hop.Closes) :
    ((Operation.handle index hop).perform c h).2 = (Stream.close index c h).2 := by
  cases hcloses with
  | close => simp only [Operation.perform, HandleOperation.perform, Op.giving_run]
  | useOnce =>
    simp only [Operation.perform, HandleOperation.perform, Stream.tell_bind_run]
    cases hr : (Stream.close index c h).1 with
    | ok _ =>
      rw [Op.bind_of_ok hr]
      rfl
    | error e => rw [Op.bind_of_error hr]

theorem Stream.close_of_open {e : Handle} (he : h.device.handles[index]? = some e)
    (hopen : e.isClosed = false) : close index c h =
      (.ok (), (h.updateDevice (·.withClosed index)).tell (.handleReleased index)) := by
  have hhandle : ¬ (h.device.handle index).isClosed = true := by
    rw [Device.handle, he]
    exact Bool.eq_false_iff.mp hopen
  have hdevice : h.device.setHandle index { h.device.handle index with isClosed := true } =
      h.device.withClosed index :=
    h.device.setHandle_handle index fun e => { e with isClosed := true }
  unfold close
  rw [Op.device_bind_run]
  simp only [if_neg hhandle, Op.updateDevice_bind_run, Op.tell_run]
  exact congrArg (fun d => (Except.ok (), ({ h with device := d } : Host).tell _)) hdevice

/-- Closing a handle that is open closes it and does nothing else. -/
theorem Host.parted_of_close {e : Handle} (he : h.device.handles[index]? = some e)
    (hopen : e.isClosed = false) :
    Parted index h.journal (h.journal ++ [.notice (.handleReleased index)]) h
      (Stream.close index c h).2 := by
  rw [Stream.close_of_open he hopen]
  exact ⟨(List.getElem?_eq_some_iff.mp he).1, rfl, rfl, [], (List.append_nil _).symm,
    (List.append_nil _).symm⟩

/-- But for the handle, which is closed on `h'`, the hosts go alike: a run that asks nothing of it
leaves them apart by nothing else, and every operation that asks nothing of it ends alike then. -/
def Host.AlikeBut (index : Nat) (past past' : List Entry) (h h' : Host) : Prop :=
  ∀ steps, (∀ step ∈ steps, Step.Spares index step) →
    Parted index past past' (h.run steps) (h'.run steps) ∧
      ∀ c op, Operation.Spares index op →
        ((h'.run steps).operate c op).1 = ((h.run steps).operate c op).1

/-- **Closing is final.**  Once the device was closed in a run, in whatever way, it is sealed.  A
handle that was closed stays shut.  And closing a handle that is open makes no difference to
anything but that handle: what asks nothing of it goes as it would have gone without the closing. -/
theorem Host.closing_is_final (h : Host) :
    (∀ steps, (∃ step ∈ steps, Step.Closes step) → (h.run steps).Sealed) ∧
      (∀ index steps, h.device.store.Released index → (h.run steps).Shut index) ∧
      ∀ index e c hop, h.device.handles[index]? = some e → e.isClosed = false →
        HandleOperation.Closes hop →
          (h.operate c (.handle index hop)).2.device.store.Released index ∧
            AlikeBut index h.journal (h.journal ++ [.notice (.handleReleased index)])
              (h.settled c.wake) (h.operate c (.handle index hop)).2 := by
  refine ⟨fun steps hcloses => sealed_of_isClosed (run_of_closes hcloses),
    fun index steps hreleased => run_shut hreleased steps,
    fun index e c hop he hopen hcloses => ?_⟩
  have hhost : (h.operate c (.handle index hop)).2 = (Stream.close index c h).2.settled c.wake :=
    congrArg (·.settled c.wake) hcloses.perform_host
  have hparted := (parted_of_close (c := c) he hopen).settled c.wake
  rw [← hhost] at hparted
  refine ⟨hparted.released, fun steps hspares => ?_⟩
  have hrun := hparted.run hspares
  exact ⟨hrun, fun c' op hop => (hrun.operate hop c').1⟩

/-- A device with two handles, the first of which has moved its cursor. -/
def twoHandles : Host :=
  Host.fresh.run
    [.operate {} .openHandle, .operate {} .openHandle,
      .operate {} (.handle 0 (.seek (.int 5) (.int 0)))]

/-- Another thread holds the primary buffer and closes the device while a read waits for it. -/
def closingMeanwhile : List Step :=
  [.hold .primary, .operate { wake := some .close } (.read (.int 0) (.int 1))]

theorem twoHandles_final :
    (∃ e : Failure, e.Blames "device" ∧
        (Operation.handle 7 (.read .none)).perform {} (twoHandles.run closingMeanwhile) =
          (.error e, twoHandles.run closingMeanwhile)) ∧
      (twoHandles.operate {} (.handle 0 .close)).2.device.store.Released 0 ∧
      (((twoHandles.operate {} (.handle 0 .close)).2.run
          [.operate {} (.handle 1 (.write (.octets [7])))]).operate {} (.handle 1 .tell)).1 =
        .ok (.int 1) := by
  obtain ⟨hdevice, -, hhandle⟩ := Host.closing_is_final twoHandles
  have hsealed := hdevice closingMeanwhile ⟨_, .tail _ (.head _), .meanwhile rfl⟩
  obtain ⟨hreleased, halike⟩ := hhandle 0 { cursor := .int 5 } {} .close rfl rfl .close
  have hother : (1 : Nat) ≠ 0 := by decide
  have hspares : ∀ step ∈ [Step.operate {} (.handle 1 (.write (.octets [7])))],
      Step.Spares 0 step := by
    intro step hstep
    rw [List.mem_singleton.mp hstep]
    exact .operation (.handle hother)
  obtain ⟨-, hsame⟩ := halike _ hspares
  refine ⟨hsealed.endpoint {} _ (.handle .read), hreleased, ?_⟩
  rw [hsame {} (.handle 1 .tell) (.handle hother)]
  rfl

end SectorDisk
