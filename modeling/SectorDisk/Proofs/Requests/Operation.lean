import SectorDisk.Proofs.BackupOutcome
import SectorDisk.Proofs.Control.Errand
import SectorDisk.Proofs.Requests

/-!
# Which operations ask for which locks

`Operation.Needs` lists the operations that need locks, with the arguments and on the hosts where
they need them.  `Operation.perform_asking` says that just these ask for locks, and for no others.
-/

namespace SectorDisk

/-! ## §1 What operations need -/

/-- The transfer that an operation of a handle makes, at the cursor or at an offset. -/
def HandleOperation.transfer? (d : Device) (index : Nat) : HandleOperation → Option Operation
  | read length => some (.read (.number (d.handle index).cursor) length)
  | write data => some (.write (.number (d.handle index).cursor) data)
  | pread length offset => some (.read offset length)
  | pwrite data offset => some (.write offset data)
  | _ => none

/-- The locks that an operation needs, in the order in which it asks for them: to transfer at least
one byte, to change or tell the protection of a sector, to erase, copy or store one, to tell a
buffer, and to write the mirror to a file that was opened.  All arguments must be in order, a key
must be one of the keys, a handle usable, and a device that is asked as a whole open. -/
inductive Operation.Needs (h : Host) : Operation → List Buffer → Prop
  | read {offset length : Nat} (hsome : 0 < fittingLength offset length) :
    Needs h (.read (.int offset) (.int length)) [.primary]
  | write {offset : Nat} {data : Value} {bytes} (hdata : data.bytes? = some bytes)
    (hsome : 0 < fittingLength offset bytes.length) : Needs h (.write (.int offset) data) [.primary]
  | lock {s : Sector} : Needs h (.lock (.int s.val)) [.primary]
  | unlock {s : Sector} {key} (hkey : h.device.keys.IsKey key) :
    Needs h (.unlock (.int s.val) key) [.primary]
  | protections : Needs h .protections [.primary]
  | erase {s : Sector} : Needs h (.erase (.int s.val)) [.primary]
  | capture {s : Sector} : Needs h (.capture (.int s.val)) [.primary, .mirror]
  | primarySnapshot : Needs h .primarySnapshot [.primary]
  | store {s : Sector} {data : Value} {bytes} (hdata : data.bytes? = some bytes)
    (hsize : sectorSize ≤ bytes.length) : Needs h (.store (.int s.val) data) [.mirror]
  | mirrorSnapshot : Needs h .mirrorSnapshot [.mirror]
  | backup {path plain place} (hopens : Mirror.Opens h.files path plain place) :
    Needs h (.backup path) [.mirror]
  | handle {index op transfer needs} (husable : h.device.usable index = .ok ())
    (htransfer : op.transfer? h.device index = some transfer) (hneeds : Needs h transfer needs) :
    Needs h (.handle index op) needs
  | dispatch {command payload cmd op needs} (hname : Command.Named cmd command)
    (horders : Command.Orders cmd payload op) (hneeds : Needs h op needs) :
    Needs h (.dispatch command payload) needs
  | control {command payload needs} (hopen : h.device.isClosed = false)
    (hneeds : Needs h (.dispatch command payload) needs) :
    Needs h (.control command payload) needs

variable {α : Type} {c : Circumstance} {h : Host}

open Op (Asking Enters Lingers)

/-! ## §2 The primary buffer -/

namespace Storage

variable {sector : Value}

/-- An operation on the sector that an argument names: where it names none, nothing is needed. -/
theorem sector_asking {Needs : List Buffer → Prop} {next : Sector → Op α}
    (hneeds : ∀ needs, Needs needs → ∃ s : Sector, sector = .int s.val)
    (hrest : ∀ s : Sector, sector = .int s.val → Asking c h Needs (next s c h)) :
    Asking c h Needs ((do
      let s ← Sector.ofValue sector
      next s : Op α) c h) := by
  apply Asking.judge
  · intro e he needs hsome
    obtain ⟨s, rfl⟩ := hneeds needs hsome
    rw [Sector.ofValue_val] at he
    cases he
  · intro s hs
    exact hrest s (Sector.eq_int_of_ofValue hs)

theorem read_asking (offset length : Value) :
    Asking c h (Operation.Needs h (.read offset length)) (read offset length c h) := by
  unfold read
  apply Asking.judge
  · intro e he needs hneeds
    cases hneeds
    rw [natural_int] at he
    cases he
  intro start hstart
  obtain rfl := eq_int_of_natural hstart
  apply Asking.judge
  · intro e he needs hneeds
    cases hneeds
    rw [natural_int] at he
    cases he
  intro count hcount
  obtain rfl := eq_int_of_natural hcount
  by_cases hnone : (fittingLength start count).toNat = 0
  · rw [if_pos hnone]
    refine .silent ?_ (.refl h)
    intro needs hneeds
    cases hneeds with
    | read hsome => omega
  · rw [if_neg hnone]
    exact .enters [.primary] (.read (by omega)) (Enters.inspect _ _ _)

theorem overwrite_lingers {owned : List Buffer} (offset : Nat) (data : Bytes) (held : Host) :
    Lingers c owned held (overwrite offset data c held) := by
  unfold overwrite
  rw [Op.device_bind_run]
  cases held.device.firstProtected? (span offset data.length) with
  | some s => exact .failed (.tell held _) .locked
  | none =>
    simp only [Op.updateDevice_run]
    exact .quiet () (.updateDevice held _)

theorem write_asking (offset data : Value) :
    Asking c h (Operation.Needs h (.write offset data)) (write offset data c h) := by
  unfold write
  apply Asking.judge
  · intro e he needs hneeds
    cases hneeds
    rw [natural_int] at he
    cases he
  intro start hstart
  obtain rfl := eq_int_of_natural hstart
  by_cases hpast : diskSize ≤ start
  · rw [if_pos hpast]
    refine .silent ?_ (.refl h)
    intro needs hneeds
    -- nothing fits behind the end
    cases hneeds with
    | write _ hsome =>
      rw [fittingLength_of_past (Int.ofNat_le.mpr hpast)] at hsome
      omega
  rw [if_neg hpast]
  apply Asking.judge
  · intro e he needs hneeds
    cases hneeds with
    | write hdata _ =>
      rw [bytesToWrite_of_some hdata] at he
      cases he
  intro bytes hbytes
  have hdata := bytes?_of_bytesToWrite hbytes
  by_cases hnone : (fittingLength start bytes.length).toNat = 0
  · rw [if_pos hnone]
    refine .silent ?_ (.refl h)
    intro needs hneeds
    cases hneeds with
    | write hdata' hsome =>
      cases hdata.symm.trans hdata'
      omega
  · rw [if_neg hnone]
    refine .enters [.primary] (.write hdata (by omega)) ?_
    apply Enters.last (Enters.exclusively _ _ fun held => overwrite_lingers _ _ held)
    intro _ h'
    exact .quiet _ (.refl h')

theorem protect_lingers {owned : List Buffer} (s : Sector) (on : Bool) (held : Host) :
    Lingers c owned held (protect s on c held) :=
  .quiet () (.refl held)

theorem lock_asking (sector : Value) :
    Asking c h (Operation.Needs h (.lock sector)) (lock sector c h) := by
  refine sector_asking ?_ ?_
  · intro needs hneeds
    cases hneeds
    exact ⟨_, rfl⟩
  · rintro s rfl
    refine .enters [.primary] .lock ?_
    apply Enters.last (Enters.exclusively _ _ fun held => protect_lingers s true held)
    intro _ h'
    exact .quiet () (.tell h' _)

theorem unlock_asking (sector key : Value) :
    Asking c h (Operation.Needs h (.unlock sector key)) (unlock sector key c h) := by
  refine sector_asking ?_ ?_
  · intro needs hneeds
    cases hneeds
    exact ⟨_, rfl⟩
  · rintro s rfl
    rw [Op.device_bind_run]
    by_cases hkey : h.device.keys.accepts key = true
    · rw [if_pos hkey]
      refine .enters [.primary] (.unlock (Keyring.accepts_iff.mp hkey)) ?_
      apply Enters.last (Enters.exclusively _ _ fun held => protect_lingers s false held)
      intro _ h'
      exact .quiet () (.tell h' _)
    · rw [if_neg hkey]
      refine .silent ?_ (.tell h _)
      intro needs hneeds
      generalize Value.int s.val = sector at hneeds
      cases hneeds with
      | unlock hiskey => exact hkey (Keyring.accepts_iff.mpr hiskey)

theorem protections_asking : Asking c h (Operation.Needs h .protections) (protections c h) :=
  .enters [.primary] .protections (Enters.inspect _ _ _)

theorem clear_lingers {owned : List Buffer} (s : Sector) (held : Host) :
    Lingers c owned held (clear s c held) := by
  unfold clear
  rw [Op.device_bind_run]
  by_cases hprotected : held.device.protection.bit s = true
  · rw [if_pos hprotected]
    exact .failed (.tell held _) .locked
  · rw [if_neg hprotected, Op.updateDevice_run]
    exact .quiet () (.updateDevice held _)

theorem erase_asking (sector : Value) :
    Asking c h (Operation.Needs h (.erase sector)) (erase sector c h) := by
  refine sector_asking ?_ ?_
  · intro needs hneeds
    cases hneeds
    exact ⟨_, rfl⟩
  · rintro s rfl
    refine .enters [.primary] .erase ?_
    apply Enters.last (Enters.exclusively _ _ fun held => clear_lingers s held)
    intro _ h'
    exact .quiet () (.tell h' _)

theorem snapshot_asking : Asking c h (Operation.Needs h .primarySnapshot) (snapshot c h) :=
  .enters [.primary] .primarySnapshot (Enters.inspect _ _ _)

end Storage

/-! ## §3 The mirror -/

theorem Status.letGo_caller (k : Status) (b b' : Buffer) :
    (k.letGo b).owner b' = some .caller ↔ k.owner b' = some .caller := by
  unfold letGo
  split
  · rename_i hrival
    cases b <;> cases b' <;> simp only [owner] at hrival <;>
      simp only [owned, owner, hrival, reduceCtorEq, Option.some.injEq]
  · rfl

theorem Status.woken_caller (k : Status) (w : Wake) (b : Buffer) :
    (k.woken w).owner b = some .caller ↔ k.owner b = some .caller := by
  cases w with
  | release => exact ((k.letGo .primary).letGo_caller .mirror b).trans (k.letGo_caller .primary b)
  | cancel => exact Iff.rfl
  | interrupt b' => exact Iff.rfl
  | close => cases b <;> exact Iff.rfl

/-- A wait leaves the caller with the locks that it owned. -/
theorem Idle.owner_caller {k k' : Status} (hidle : Idle c k k') (b : Buffer) :
    k'.owner b = some .caller ↔ k.owner b = some .caller := by
  rcases hidle with hsame | ⟨w, -, -, hwoken⟩
  · rw [hsame]
  · rw [hwoken]
    exact Status.woken_caller _ w b

theorem Device.ownedBy_caller_eq {d d' : Device}
    (hsame : ∀ b, d'.status.owner b = some .caller ↔ d.status.owner b = some .caller) :
    d'.ownedBy .caller = d.ownedBy .caller := by
  simp only [ownedBy, lockOf_owner, hsame]

/-- So does an operation, whatever it does. -/
theorem Outcome.ownedBy_eq {deeds : α → List Deed} {out : Except Failure α × Host}
    (hout : Outcome c h.device.status deeds out) :
    out.2.device.ownedBy .caller = h.device.ownedBy .caller := by
  obtain ⟨k, ds, hidle, hstatus⟩ := hout.exists_after
  apply Device.ownedBy_caller_eq
  intro b
  rw [hstatus, Status.after_owner, hidle.owner_caller]

namespace Mirror

theorem deliver_enters (s : Sector) (content : Bytes) :
    Enters c (h.device.ownedBy .caller) h [.mirror] (deliver s content c h) := by
  unfold deliver
  have hbody (held : Host) : Lingers c (h.device.ownedBy .caller) held
      (Op.updateDevice (fun d => { d with mirror := d.mirror.splice s.start content }) c held) := by
    rw [Op.updateDevice_run]
    exact .quiet () (.updateDevice held _)
  apply Enters.last (Enters.exclusively _ _ hbody)
  intro _ h'
  exact .quiet () (.tell h' _)

theorem store_asking (sector data : Value) :
    Asking c h (Operation.Needs h (.store sector data)) (store sector data c h) := by
  refine Storage.sector_asking ?_ ?_
  · intro needs hneeds
    cases hneeds
    exact ⟨_, rfl⟩
  rintro s rfl
  apply Asking.judge
  · intro e he needs hneeds
    generalize Value.int s.val = sector at hneeds
    cases hneeds with
    | store hdata hsize =>
      cases (sectorBytes_eq_ok_iff.mpr ⟨_, hdata, hsize, rfl⟩).symm.trans he
  intro content hcontent
  obtain ⟨bytes, hdata, hsize, -⟩ := sectorBytes_eq_ok_iff.mp hcontent
  exact .enters [.mirror] (.store hdata hsize) (deliver_enters s content)

/-- The lock of the mirror is asked for after that of the primary buffer was let go. -/
theorem capture_asking (sector : Value) :
    Asking c h (Operation.Needs h (.capture sector)) (capture sector c h) := by
  refine Storage.sector_asking ?_ ?_
  · intro needs hneeds
    cases hneeds
    exact ⟨_, rfl⟩
  rintro s rfl
  refine .enters [.primary, .mirror] .capture ?_
  refine Enters.andThen (Enters.inspect .primary "mirror" _) ?_
  intro content _
  -- the copy leaves the locks as they were, so that the delivery asks with nothing more owned
  have howned : (Storage.copyOut s c h).2.device.ownedBy .caller = h.device.ownedBy .caller :=
    (Storage.copyOut_outcome c h s).ownedBy_eq
  rw [← howned]
  exact deliver_enters s content

theorem snapshot_asking : Asking c h (Operation.Needs h .mirrorSnapshot) (snapshot c h) :=
  .enters [.mirror] .mirrorSnapshot (Enters.inspect _ _ _)

/-- A file that was opened is one that the path opens. -/
theorem openFile_opens {path plain : Value} {place : Location}
    (hpath : backupPath path = .ok plain) (hok : (openFile plain c h).1 = .ok place) :
    Opens h.files path plain place :=
  ⟨hpath, (openFile_ok hok).1⟩

theorem failWriting_lingers {owned : List Buffer} {image content : Bytes} {cause : Value}
    (path : Value) (written : Nat) (held : Host)
    (hcause : (c.sink.drain image content).failure = some cause) :
    Lingers c owned held (failWriting path written cause c held) := by
  unfold failWriting
  cases hflaw : cause.flaw? with
  | some e => exact .failed (.refl held) (.flawed hcause hflaw)
  | none => exact .failed (.tell held _) .writeFailed

theorem writeImage_lingers {owned : List Buffer} (path : Value) (place : Location) (held : Host) :
    Lingers c owned held (writeImage path place c held) := by
  unfold writeImage
  simp only [Op.circumstance_bind_run, Op.host_bind_run, Op.update_bind_run]
  cases hcause : (delivery c.sink place held).failure with
  | none => exact .quiet _ (.of_journal_eq rfl)
  | some cause =>
    have hwriting := @failWriting_lingers c owned _ _ cause path
      (delivery c.sink place held).written
      { held with files := held.files.put place (delivery c.sink place held).content } hcause
    exact ⟨(Host.Tells.of_journal_eq rfl).trans hwriting.tells, hwriting.late⟩

/-- The part of a backup that is left once the file was opened. -/
theorem writing_enters (plain : Value) (place : Location) :
    Enters c (h.device.ownedBy .caller) h [.mirror] ((do
      let written ← Op.exclusively .mirror "backup_to_file" (writeImage plain place)
      if written = diskSize then Op.tell (.backedUp plain)
      else
        Op.tell (.backupIncomplete plain written)
        Op.fail (.incomplete plain written) : Op Unit) c h) := by
  apply Enters.last (Enters.exclusively _ _ fun held => writeImage_lingers _ _ held)
  intro written h'
  by_cases hall : written = diskSize
  · rw [if_pos hall]
    exact .quiet () (.tell h' _)
  · rw [if_neg hall]
    exact .failed (.tell h' _) .incomplete

/-- The lock of the mirror is asked for after the file was opened. -/
theorem backup_asking (path : Value) :
    Asking c h (Operation.Needs h (.backup path)) (backup path c h) := by
  unfold backup
  apply Asking.judge
  · intro e he needs hneeds
    cases hneeds with
    | backup hopens =>
      rw [hopens.path] at he
      cases he
  intro plain hplain
  rcases openFile_cases c h plain with ⟨e, -, hrun⟩ | ⟨place, -, hrun⟩
  · rw [Op.bind_of_error (congrArg Prod.fst hrun), hrun]
    refine .silent ?_ (.refl h)
    intro needs hneeds
    cases hneeds with
    | backup hopens =>
      obtain rfl := Except.ok.inj (hplain.symm.trans hopens.path)
      rw [hopens.openFile_run] at hrun
      cases hrun
  · have hopens := openFile_opens hplain (congrArg Prod.fst hrun)
    rw [Op.bind_of_ok (congrArg Prod.fst hrun), hrun]
    refine .enters [.mirror] (.backup hopens) ?_
    -- opening the file neither tells anything nor takes a lock
    have hwriting :=
      writing_enters (c := c) (h := { h with files := h.files.put place [] }) plain place
    have hopening : h.Tells { h with files := h.files.put place [] } := .of_journal_eq rfl
    exact hwriting.after hopening

end Mirror

/-! ## §4 Handles and commands -/

namespace Stream

open Op.AsksNothing

variable {index : Nat}

theorem tell_asksNothing (index : Nat) : (tell index).AsksNothing :=
  device_bind fun _ => result _

theorem advance_asksNothing (index count : Nat) : (advance index count).AsksNothing := by
  unfold advance
  apply andThen (tell_asksNothing index)
  intro cursor
  split
  · exact updateDevice _
  · exact result ()

/-- What a usable handle needs is what its transfer needs. -/
theorem check_asking {op : HandleOperation} {transfer : Operation} {next : Unit → Op α}
    (htransfer : op.transfer? h.device index = some transfer)
    (hrest : Asking c h (transfer.Needs h) (next () c h)) :
    Asking c h (Operation.Needs h (.handle index op)) ((check index >>= next) c h) := by
  cases husable : h.device.usable index with
  | error e =>
    have hrun : (check index c h).1 = .error e := husable
    rw [Op.bind_of_error hrun]
    refine .silent ?_ (.refl h)
    intro needs hneeds
    cases hneeds with
    | handle husable' _ _ =>
      rw [husable'] at husable
      cases husable
  | ok _ =>
    have hrun : (check index c h).1 = .ok () := husable
    rw [Op.bind_of_ok hrun]
    refine hrest.of_iff fun needs => ⟨.handle husable htransfer, fun hneeds => ?_⟩
    cases hneeds with
    | handle _ htransfer' hneeds =>
      rw [htransfer] at htransfer'
      cases htransfer'
      exact hneeds

theorem transfer_asking {Needs : List Buffer → Prop} {op : Op α} {size : α → Nat}
    (hop : Asking c h Needs (op c h)) :
    Asking c h Needs ((do
      let a ← op
      advance index (size a)
      return a : Op α) c h) := by
  have hlast (a : α) (h' : Host) :
      h'.Tells ((do
        advance index (size a)
        return a : Op α) c h').2 :=
    (advance_asksNothing index (size a)).andThen (fun _ => result a) c h'
  have hnever (a : α) (h' : Host) : ((do
        advance index (size a)
        return a : Op α) c h').1 = .ok a := by
    rw [Op.bind_of_ok (congrArg Prod.fst (advance_run c h' index (size a)))]
    rfl
  -- moving the cursor comes last, tells nothing and cannot fail
  cases hop with
  | silent hnone htells =>
    refine .silent hnone ?_
    cases hr : (op c h).1 with
    | error e =>
      rw [Op.bind_of_error hr]
      exact htells
    | ok a =>
      rw [Op.bind_of_ok hr]
      exact htells.trans (hlast a _)
  | enters needs hneeds henters =>
    refine .enters needs hneeds (henters.last fun a h' => ⟨hlast a h', fun hfail => ?_⟩)
    rw [hnever a h'] at hfail
    cases hfail

theorem read_asking (length : Value) :
    Asking c h (Operation.Needs h (.handle index (.read length))) (read index length c h) := by
  unfold read
  apply check_asking rfl
  rw [tell_bind_run]
  exact transfer_asking (Storage.read_asking _ length)

theorem write_asking (data : Value) :
    Asking c h (Operation.Needs h (.handle index (.write data))) (write index data c h) := by
  unfold write
  apply check_asking rfl
  rw [tell_bind_run]
  exact transfer_asking (Storage.write_asking _ data)

theorem seek_asksNothing (index : Nat) (offset whence : Value) :
    (seek index offset whence).AsksNothing := by
  unfold seek
  apply andThen (device_bind fun _ => judge _)
  intro _
  apply andThen (tell_asksNothing index)
  intro cursor
  apply andThen (judge _)
  intro origin
  apply andThen (judge _)
  intro target
  apply andThen (judge _)
  intro cursor
  apply andThen (updateDevice _)
  intro _
  exact result cursor

theorem close_asksNothing (index : Nat) : (close index).AsksNothing := by
  unfold close
  apply device_bind
  intro d
  apply branch (result _)
  apply andThen (updateDevice _)
  intro _
  exact Op.AsksNothing.tell _

end Stream

theorem HandleOperation.perform_asking (index : Nat) (op : HandleOperation) :
    Asking c h (Operation.Needs h (.handle index op)) (op.perform index c h) := by
  -- all but the transfers look at the handle or change it, and ask for nothing
  have hquiet {op : HandleOperation} (hnone : op.transfer? h.device index = none)
      (hop : (op.perform index).AsksNothing) :
      Asking c h (Operation.Needs h (.handle index op)) (op.perform index c h) := by
    refine .silent ?_ (hop c h)
    intro needs hneeds
    cases hneeds with
    | handle _ htransfer _ =>
      rw [hnone] at htransfer
      cases htransfer
  cases op with
  | read length => exact (Stream.read_asking length).giving
  | write data => exact (Stream.write_asking data).giving
  | pread length offset =>
    exact (Stream.check_asking rfl (Storage.read_asking offset length)).giving
  | pwrite data offset => exact (Stream.check_asking rfl (Storage.write_asking offset data)).giving
  | seek offset whence =>
    exact hquiet rfl ((Stream.seek_asksNothing index offset whence).andThen fun _ => .result _)
  | tell => exact hquiet rfl ((Stream.tell_asksNothing index).andThen fun _ => .result _)
  | isClosed => exact hquiet rfl (.device_bind fun _ => .result _)
  | close => exact hquiet rfl ((Stream.close_asksNothing index).andThen fun _ => .result _)
  | useOnce =>
    refine hquiet rfl ((Stream.tell_asksNothing index).andThen fun cursor => ?_)
    exact (Stream.close_asksNothing index).andThen fun _ => .result _

namespace Control

variable {cmd : Command} {op : Operation} {payload : Value}

theorem orders_asking (horders : cmd.Orders payload op) :
    Asking c h (op.Needs h) (op.perform c h) := by
  cases horders with
  | lockSector hsize => exact (Storage.lock_asking _).giving
  | unlockSector hs => exact (Storage.unlock_asking _ _).giving
  | getLockInfo hfalse => exact Storage.protections_asking.giving
  | eraseSector hsize => exact (Storage.erase_asking _).giving
  | mirrorSector hsize => exact (Mirror.capture_asking _).giving
  | backupToFile hcount hheld hnul htext => exact (Mirror.backup_asking _).giving

theorem dispatch_asking (command payload : Value) :
    Asking c h (Operation.Needs h (.dispatch command payload)) (dispatch command payload c h) := by
  -- only a command with a well-formed payload comes to an operation
  by_cases hnamed : ∃ cmd : Command, cmd.Named command
  · obtain ⟨cmd, hname⟩ := hnamed
    by_cases hordered : ∃ op, cmd.Orders payload op
    · obtain ⟨op, horders⟩ := hordered
      obtain ⟨hresult, hregisters⟩ := dispatch_of_orders (c := c) (h := h) hname horders
      have hsame (needs : List Buffer) :
          op.Needs h needs ↔ Operation.Needs h (.dispatch command payload) needs := by
        constructor
        · exact .dispatch hname horders
        · intro hneeds
          cases hneeds with
          | dispatch hname' horders' hneeds =>
            obtain rfl := hname.unique hname'
            obtain rfl := horders.unique horders'
            exact hneeds
      have hasking := (orders_asking (c := c) (h := h) horders).map (f := cmd.answer)
        hregisters.tells
      rw [← hresult] at hasking
      exact hasking.of_iff hsame
    · have hnone : ∀ op, ¬ cmd.Orders payload op := fun op horders => hordered ⟨op, horders⟩
      refine .silent ?_ (dispatch_of_malformed hname hnone).2.tells
      intro needs hneeds
      cases hneeds with
      | dispatch hname' horders' hneeds =>
        obtain rfl := hname.unique hname'
        exact hnone _ horders'
  · have hnone : ∀ cmd : Command, ¬ cmd.Named command := fun cmd hname => hnamed ⟨cmd, hname⟩
    rw [dispatch_of_unnamed hnone]
    refine .silent ?_ (.tell h _)
    intro needs hneeds
    cases hneeds with
    | dispatch hname' horders' hneeds => exact hnone _ hname'

end Control

/-! ## §5 Every operation -/

namespace Device

theorem control_asking (command payload : Value) :
    Asking c h (Operation.Needs h (.control command payload)) (control command payload c h) := by
  unfold control
  by_cases hclosed : h.device.isClosed = true
  · have hrun : (check c h).1 = .error .deviceClosed := by rw [check_run, if_pos hclosed]
    have hhost : (check c h).2 = h := by rw [check_run]
    rw [Op.bind_of_error hrun, hhost]
    refine .silent ?_ (.refl h)
    intro needs hneeds
    cases hneeds with
    | control hopen hneeds =>
      rw [hclosed] at hopen
      cases hopen
  · have hrun : (check c h).1 = .ok () := by rw [check_run, if_neg hclosed]
    have hhost : (check c h).2 = h := by rw [check_run]
    rw [Op.bind_of_ok hrun, hhost]
    refine (Control.dispatch_asking command payload).of_iff fun needs =>
      ⟨.control (Bool.eq_false_iff.mpr hclosed), fun hneeds => ?_⟩
    cases hneeds with
    | control _ hneeds => exact hneeds

theorem close_tells : h.Tells h.closed := by
  unfold Host.closed
  split
  · exact .refl h
  · exact .tell _ _

theorem check_asksNothing : check.AsksNothing :=
  .device_bind fun _ => .branch (.fail _) (.result _)

theorem open_asksNothing : Device.open.AsksNothing := by
  unfold Device.open
  apply check_asksNothing.andThen
  intro _
  apply Op.AsksNothing.device_bind
  intro d
  apply (Op.AsksNothing.updateDevice _).andThen
  intro _
  apply (Op.AsksNothing.tell _).andThen
  intro _
  exact .result _

end Device

/-- **Every operation** asks for the locks that it needs, or for none and then it needs none. -/
theorem Operation.perform_asking (op : Operation) :
    Asking c h (op.Needs h) (op.perform c h) := by
  -- what no rule of `Needs` is about asks for nothing
  have hquiet {op : Operation} (hnone : ∀ needs, ¬ op.Needs h needs)
      (hop : op.perform.AsksNothing) : Asking c h (op.Needs h) (op.perform c h) :=
    .silent hnone (hop c h)
  cases op with
  | openHandle =>
    refine hquiet (fun needs hneeds => ?_) (Device.open_asksNothing.andThen fun _ => .result _)
    cases hneeds
  | control command payload => exact Device.control_asking command payload
  | dispatch command payload => exact Control.dispatch_asking command payload
  | close =>
    refine .silent (fun needs hneeds => ?_) Device.close_tells
    cases hneeds
  | isClosed =>
    refine hquiet (fun needs hneeds => ?_) (.device_bind fun _ => .result _)
    cases hneeds
  | keys =>
    refine hquiet (fun needs hneeds => ?_) (.device_bind fun _ => .result _)
    cases hneeds
  | metrics =>
    refine hquiet (fun needs hneeds => ?_) (.device_bind fun _ => .result _)
    cases hneeds
  | useOnce =>
    refine .silent (fun needs hneeds => ?_) Device.close_tells
    cases hneeds
  | handle index op => exact op.perform_asking index
  | read offset length => exact (Storage.read_asking offset length).giving
  | write offset data => exact (Storage.write_asking offset data).giving
  | lock sector => exact (Storage.lock_asking sector).giving
  | unlock sector key => exact (Storage.unlock_asking sector key).giving
  | protections => exact Storage.protections_asking.giving
  | erase sector => exact (Storage.erase_asking sector).giving
  | capture sector => exact (Mirror.capture_asking sector).giving
  | primarySnapshot => exact Storage.snapshot_asking.giving
  | store sector data => exact (Mirror.store_asking sector data).giving
  | mirrorSnapshot => exact Mirror.snapshot_asking.giving
  | backup path => exact (Mirror.backup_asking path).giving

end SectorDisk
