import SectorDisk.Console.Act
import SectorDisk.Proofs.Control.Wire
import SectorDisk.Proofs.Cursor

/-!
# Acts

What an act does to a host is put together from the operations that it does.  Two things about that
are said here: that a transfer through a handle which is opened for it and closed again is the
transfer itself (`Act.withHandle_run`), and that whatever is asked for, the device stays open and
the locks of its buffers free (`Request.act_keepsReady`).
-/

namespace SectorDisk

variable {α β : Type} {h h' h'' : Host}

/-! ## §1 Hosts that are alike -/

/-- The hosts differ in nothing but the metrics, the handles and the journal. -/
structure Host.Alike (h h' : Host) : Prop where
  device : ∃ metrics handles, h'.device = { h.device with metrics, handles }
  files : h'.files = h.files

namespace Host.Alike

theorem refl (h : Host) : Alike h h :=
  ⟨⟨h.device.metrics, h.device.handles, rfl⟩, rfl⟩

theorem symm (halike : Alike h h') : Alike h' h := by
  obtain ⟨⟨m, hs, hdevice⟩, hfiles⟩ := halike
  exact ⟨⟨h.device.metrics, h.device.handles, by rw [hdevice]⟩, hfiles.symm⟩

theorem trans (hfirst : Alike h h') (hthen : Alike h' h'') : Alike h h'' := by
  obtain ⟨⟨m, hs, hdevice⟩, hfiles⟩ := hfirst
  obtain ⟨⟨m', hs', hdevice'⟩, hfiles'⟩ := hthen
  exact ⟨⟨m', hs', by rw [hdevice', hdevice]⟩, hfiles'.trans hfiles⟩

theorem beside (h : Host) (x : Aside) (hfiles : x.files = id) : Alike h (h.beside x) :=
  ⟨⟨_, _, rfl⟩, congrFun hfiles h.files⟩

theorem of_registers (hregisters : Control.Registers h h') : Alike h h' := by
  obtain ⟨⟨m, hdevice⟩, hfiles, -⟩ := hregisters
  exact ⟨⟨m, h.device.handles, hdevice⟩, hfiles⟩

theorem status (halike : Alike h h') :
    h'.device.status = { h.device.status with handles := h'.device.handles } := by
  obtain ⟨⟨m, hs, hdevice⟩, -⟩ := halike
  rw [hdevice]
  rfl

/-- An operation that has to do with none of the parts in which hosts differ ends the same on both,
and leaves them alike. -/
theorem run {op : Op α} (hop : ∀ x : Aside, x.files = id → op.Ignores x) (halike : Alike h h')
    (c : Circumstance) :
    (op c h').1 = (op c h).1 ∧ Alike (op c h).2 (op c h').2 := by
  obtain ⟨⟨m, hs, hdevice⟩, hfiles⟩ := halike
  -- both are changes of one host without a journal
  let bare : Host := { h with journal := [] }
  have hleft : h = bare.beside { past := h.journal } := by
    simp only [bare, Host.beside, Device.beside, List.append_nil, id]
  have hright : h' = bare.beside
      { metrics := fun _ => m, handles := fun _ => hs, past := h'.journal } := by
    simp only [bare, Host.beside, Device.beside, List.append_nil, id, ← hdevice, ← hfiles]
  rw [hleft, hright, hop _ rfl, hop _ rfl]
  exact ⟨rfl, (beside _ _ rfl).symm.trans (beside _ _ rfl)⟩

end Host.Alike

/-- Both buffers and all protection are the same. -/
def Host.Spared (h h' : Host) : Prop :=
  h'.device.primary = h.device.primary ∧ h'.device.mirror = h.device.mirror ∧
    h'.device.protection = h.device.protection

theorem Host.Spared.refl (h : Host) : h.Spared h := ⟨rfl, rfl, rfl⟩

theorem Host.Spared.trans {h'' : Host} (hfirst : h.Spared h') (hthen : h'.Spared h'') :
    h.Spared h'' := by
  obtain ⟨hprimary, hmirror, hprotection⟩ := hthen
  exact ⟨hprimary.trans hfirst.1, hmirror.trans hfirst.2.1, hprotection.trans hfirst.2.2⟩

theorem Host.Spared.of_store (hstore : h'.device.store = h.device.store) : h.Spared h' :=
  ⟨congrArg Store.primary hstore, congrArg Store.mirror hstore, congrArg Store.protection hstore⟩

/-- The handles may be others. -/
theorem Host.Spared.of_status {hs : List Handle}
    (hstatus : h'.device.status = { h.device.status with handles := hs }) : h.Spared h' :=
  ⟨congrArg (fun k => k.primary) hstatus, congrArg (fun k => k.mirror) hstatus,
    congrArg (fun k => k.protection) hstatus⟩

theorem Host.Alike.spared (halike : h.Alike h') : h.Spared h' :=
  .of_status halike.status

/-! ## §2 Handles for a while -/

/-- The host after a handle was opened. -/
def Host.opened (h : Host) : Host :=
  (h.updateDevice fun d => { d with handles := d.handles ++ [{}] }).tell
    (.handleOpened h.device.handles.length)

theorem Host.opened_alike (h : Host) : h.Alike h.opened :=
  ⟨⟨h.device.metrics, _, rfl⟩, rfl⟩

/-- An open device opens a handle, which stands behind those that there are. -/
theorem Device.open_of_open (hopen : h.device.isClosed = false) (c : Circumstance) :
    Device.open c h = (.ok h.device.handles.length, h.opened) := by
  rw [open_run, hopen, if_neg Bool.false_ne_true]
  rfl

theorem Host.opened_usable (hopen : h.device.isClosed = false) :
    h.opened.device.usable h.device.handles.length = .ok () := by
  have hclosed : h.opened.device.isClosed = false := hopen
  have hhandle : h.opened.device.handle h.device.handles.length = {} := by
    simp [opened, Device.handle]
  rw [Device.usable, hclosed, hhandle]
  rfl

theorem Stream.close_alike (index : Nat) (c : Circumstance) (h : Host) :
    h.Alike (Stream.close index c h).2 := by
  unfold Stream.close
  rw [Op.device_bind_run]
  split
  · exact .refl h
  · exact ⟨⟨h.device.metrics, _, rfl⟩, rfl⟩

/-! ## §3 Ready devices -/

/-- The device is open, and the locks of its buffers are free. -/
structure Host.Ready (h : Host) : Prop where
  isOpen : h.device.isClosed = false
  free : ∀ b, (h.device.lockOf b).owner = none

theorem Status.after_isClosed_of_open {k : Status} {ds : List Deed}
    (hopen : ∀ x ∈ ds, x.closes = false) : (k.after ds).isClosed = k.isClosed := by
  induction ds generalizing k with
  | nil => rfl
  | cons x ds ih =>
    rw [List.forall_mem_cons] at hopen
    rw [after_cons, ih hopen.2, did, hopen.1, Bool.false_or]

theorem Host.Ready.of_alike (hready : h.Ready) (halike : h.Alike h') : h'.Ready := by
  obtain ⟨⟨m, hs, hdevice⟩, -⟩ := halike
  constructor
  · rw [hdevice]
    exact hready.isOpen
  · intro b
    rw [hdevice]
    cases b with
    | primary => exact hready.free .primary
    | mirror => exact hready.free .mirror

/-- Nobody is waited for on a ready device, and only closing it ends that. -/
theorem Host.Ready.of_outcome {c : Circumstance} {deeds : α → List Deed}
    {out : Except Failure α × Host} (hready : h.Ready)
    (hopen : ∀ a, ∀ x ∈ deeds a, x.closes = false)
    (hout : Outcome c h.device.status deeds out) : out.2.Ready := by
  obtain ⟨k, hidle, hexact⟩ := hout
  have hfree (b : Buffer) : h.device.status.owner b = none :=
    (Device.lockOf_owner ..).symm.trans (hready.free b)
  have hk : k = h.device.status := by
    rcases hidle with hsame | ⟨w, -, ⟨b, hrival⟩, -⟩
    · exact hsame
    · rw [hfree b] at hrival
      cases hrival
  subst hk
  have hkept (ds : List Deed) (hds : ∀ x ∈ ds, x.closes = false)
      (hstatus : out.2.device.status = h.device.status.after ds) : out.2.Ready := by
    constructor
    · refine (congrArg Status.isClosed hstatus).trans ?_
      rw [Status.after_isClosed_of_open hds]
      exact hready.isOpen
    · intro b
      rw [Device.lockOf_owner, hstatus, Status.after_owner, hfree]
  -- what succeeded did its deeds, what failed did none
  unfold Exactly at hexact
  split at hexact
  · exact hkept _ (hopen _) hexact.1
  · exact hkept [] (List.forall_mem_nil _) hexact

end SectorDisk

namespace SectorDisk.Console

variable {α β : Type} {h : Host} {st : Stage}

/-! ## §4 Runs of acts -/

namespace Act

variable {act : Act α} {a : α} {e : Failure}

theorem bind_of_ok (hok : (act st).1 = .ok a) (next : α → Act β) :
    (act >>= next) st = next a (act st).2 := by
  change act.andThen next st = _
  unfold andThen
  rcases hrun : act st with ⟨r, st'⟩
  rw [hrun] at hok
  subst hok
  rfl

theorem bind_of_error (hfail : (act st).1 = .error e) (next : α → Act β) :
    (act >>= next) st = (.error e, (act st).2) := by
  change act.andThen next st = _
  unfold andThen
  rcases hrun : act st with ⟨r, st'⟩
  rw [hrun] at hfail
  subst hfail
  rfl

theorem operate_run (op : Op α) (st : Stage) :
    operate op st = ((op { sink := st.sink } st.host).1,
      { st with host := (op { sink := st.sink } st.host).2 }) := rfl

theorem say_bind_run (line : String) (next : Unit → Act β) (st : Stage) :
    (say line >>= next) st = next () { st with printed := st.printed ++ [line] } := rfl

/-! ## §5 Transfers -/

/-- On an open device the body runs with a new handle, which is closed behind it. -/
theorem withHandle_eq (body : Nat → Act α) (st : Stage) (hopen : st.host.device.isClosed = false) :
    withHandle body st =
      ((body st.host.device.handles.length { st with host := st.host.opened }).1,
        (operate (Stream.close st.host.device.handles.length)
          (body st.host.device.handles.length { st with host := st.host.opened }).2).2) := by
  have hfirst := Device.open_of_open hopen { sink := st.sink }
  have hopened : (operate Device.open st).1 = .ok st.host.device.handles.length :=
    congrArg Prod.fst hfirst
  refine (bind_of_ok hopened _).trans ?_
  rw [operate_run, hfirst]

/-- A transfer through a handle that is opened for it is the transfer itself: the handle is usable,
and it is closed again on every way out. -/
theorem withHandle_run (st : Stage) (hopen : st.host.device.isClosed = false) {op : Op α}
    (hop : ∀ x, op.Ignores x) :
    ∃ h', withHandle (fun index => operate (Stream.check index >>= fun _ => op)) st =
        ((op { sink := st.sink } st.host).1, { st with host := h' }) ∧
      (op { sink := st.sink } st.host).2.Alike h' := by
  have hbody := Stream.check_of_usable (c := { sink := st.sink })
    (st.host.opened_usable hopen) fun _ => op
  -- the transfer does not see the new handle
  obtain ⟨hresult, hleft⟩ := st.host.opened_alike.run (fun x _ => hop x) { sink := st.sink }
  refine ⟨_, ?_,
    hleft.trans (Stream.close_alike st.host.device.handles.length { sink := st.sink } _)⟩
  simp only [withHandle_eq _ st hopen, operate_run, hbody, hresult]

end Act

/-! ## §6 Readiness through acts -/

/-- A ready device is ready again, whatever the act ends with. -/
def Act.KeepsReady (act : Act α) : Prop :=
  ∀ st : Stage, st.host.Ready → (act st).2.host.Ready

namespace Act.KeepsReady

variable {act : Act α} {next : α → Act β} {op : Op α}

theorem andThen (hact : act.KeepsReady) (hnext : ∀ a, (next a).KeepsReady) :
    (act >>= next).KeepsReady := by
  intro st hready
  have hfirst := hact st hready
  cases hr : (act st).1 with
  | error e =>
    rw [bind_of_error hr]
    exact hfirst
  | ok a =>
    rw [bind_of_ok hr]
    exact hnext a _ hfirst

theorem judge (r : Except Failure α) : (Act.judge r).KeepsReady := fun _ hready => hready

theorem say (line : String) : (Act.say line).KeepsReady := fun _ hready => hready

theorem sayAll (lines : List String) : (Act.sayAll lines).KeepsReady := fun _ hready => hready

theorem operate (hop : ∀ c, ∀ h : Host, h.Ready → (op c h).2.Ready) :
    (Act.operate op).KeepsReady :=
  fun st hready => hop { sink := st.sink } st.host hready

theorem withHandle {body : Nat → Act α} (hbody : ∀ index, (body index).KeepsReady) :
    (Act.withHandle body).KeepsReady := by
  have hopen : (Act.operate Device.open).KeepsReady := by
    apply operate
    intro c h hready
    rw [Device.open_of_open hready.isOpen]
    exact hready.of_alike h.opened_alike
  apply hopen.andThen
  intro index st hready
  exact (hbody index st hready).of_alike (Stream.close_alike index _ _)

theorem of_outcome {deeds : Host → α → List Deed}
    (hout : ∀ c h, SectorDisk.Outcome c h.device.status (deeds h) (op c h))
    (hopen : ∀ h a, ∀ x ∈ deeds h a, x.closes = false) : (Act.operate op).KeepsReady :=
  operate fun c h hready => hready.of_outcome (hopen h) (hout c h)

theorem pread (index : Nat) (length offset : Value) :
    (Act.operate (Stream.pread index length offset)).KeepsReady := by
  apply of_outcome fun c h => Stream.pread_outcome c h index length offset
  intro h data
  exact List.forall_mem_nil _

theorem pwrite (index : Nat) (data offset : Value) :
    (Act.operate (Stream.pwrite index data offset)).KeepsReady := by
  apply of_outcome fun c h => Stream.pwrite_outcome c h index data offset
  intro h count
  exact Deed.forall_ofWrite fun _ _ => rfl

theorem control (c : Command) (payload : Bytes) :
    (Act.operate (Console.control c payload)).KeepsReady := by
  apply of_outcome fun x h => Device.check_outcome x h (Control.dispatch_outcome x h _ _)
  intro h answer
  exact Deed.forall_ofCommand (fun _ => rfl) (fun _ _ => rfl) (fun _ => rfl) (fun _ => rfl)

end Act.KeepsReady

section Requests

open Act

theorem actOnSector_keepsReady (c : Command) (sector : Value) (deed : String) :
    (actOnSector c sector deed).KeepsReady := by
  refine .andThen (.judge _) fun payload => ?_
  exact .andThen (.control c payload) fun _ => .say _

theorem actUnlock_keepsReady (sector key : Value) : (actUnlock sector key).KeepsReady := by
  refine .andThen (.judge _) fun request => ?_
  exact .andThen (.control _ _) fun _ => .say _

theorem actLockInfo_keepsReady : actLockInfo.KeepsReady := by
  refine .andThen (.control _ _) fun answer => ?_
  refine .andThen (.judge _) fun flags => ?_
  exact .andThen (.say _) fun _ => .sayAll _

theorem actBackup_keepsReady (path : Value) : (actBackup path).KeepsReady := by
  refine .andThen (.judge _) fun payload => ?_
  exact .andThen (.control _ _) fun _ => .say _

theorem demoWriteRead_keepsReady : demoWriteRead.KeepsReady := by
  refine .withHandle fun index => ?_
  refine .andThen (.pwrite index _ _) fun _ => ?_
  refine .andThen (.say _) fun _ => ?_
  refine .andThen (.pread index _ _) fun data => ?_
  split
  · exact .andThen (.judge _) fun _ => .say _
  · exact .say _

/-- **No request** closes the device or keeps a lock of it. -/
theorem Request.act_keepsReady (r : Request) (defaultPath : String) :
    (r.act defaultPath).KeepsReady := by
  cases r with
  | read offset length =>
    refine .andThen (.withHandle fun index => .pread index length offset) fun data => ?_
    refine .andThen (.say _) fun _ => ?_
    split
    · exact .judge (.ok ())
    · exact .sayAll _
    · exact .sayAll _
  | write offset data =>
    exact .andThen (.withHandle fun index => .pwrite index data offset) fun _ => .say _
  | lock sector => exact actOnSector_keepsReady _ sector _
  | unlock sector key => exact actUnlock_keepsReady sector key
  | lockInfo => exact actLockInfo_keepsReady
  | erase sector => exact actOnSector_keepsReady _ sector _
  | mirror sector => exact actOnSector_keepsReady _ sector _
  | backup path => exact actBackup_keepsReady path
  | dump sector =>
    refine .andThen (.judge _) fun s => ?_
    exact .andThen (.withHandle fun index => .pread index _ _) fun _ => .sayAll _
  | metrics => exact .andThen (.operate fun _ _ hready => hready) fun _ => .sayAll _
  | demo path =>
    refine .andThen demoWriteRead_keepsReady fun _ => ?_
    refine .andThen (actOnSector_keepsReady _ _ _) fun _ => ?_
    refine .andThen (actUnlock_keepsReady _ _) fun _ => ?_
    refine .andThen actLockInfo_keepsReady fun _ => ?_
    refine .andThen (actOnSector_keepsReady _ _ _) fun _ => ?_
    refine .andThen (actBackup_keepsReady _) fun _ => ?_
    exact actOnSector_keepsReady _ _ _

end Requests

end SectorDisk.Console
