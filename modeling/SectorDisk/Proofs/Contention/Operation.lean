import SectorDisk.Proofs.Contention

/-!
# Contention in every operation

Everything that can be asked of a device compares to its calm run: operations are built of sections
under locks, and besides them they neither read nor change who owns a lock.
-/

namespace SectorDisk

variable {α : Type}

/-! ## §1 The primary buffer -/

namespace Storage

open Op.Transparent

theorem read_transparent (offset length : Value) : (read offset length).Transparent := by
  unfold read
  apply andThen (judge _)
  intro offset
  apply andThen (judge _)
  intro length
  apply branch (result _)
  exact Op.inspect_transparent _ _ fun _ => rfl

theorem overwrite_transparent (offset : Nat) (data : Bytes) :
    (overwrite offset data).Transparent := by
  unfold overwrite
  refine device_bind (fun d => ?_) fun _ => rfl
  split
  · exact andThen (tell _) fun _ => fail _
  · exact updateDevice fun _ _ _ => rfl

theorem write_transparent (offset data : Value) : (write offset data).Transparent := by
  unfold write
  apply andThen (judge _)
  intro offset
  apply branch (fail _)
  apply andThen (judge _)
  intro data
  apply branch (result _)
  apply andThen (Op.exclusively_transparent _ _ (overwrite_transparent _ _))
  intro _
  exact result _

theorem protect_transparent (s : Sector) (on : Bool) : (protect s on).Transparent :=
  updateDevice fun _ _ _ => rfl

theorem lock_transparent (sector : Value) : (lock sector).Transparent := by
  unfold lock
  apply andThen (judge _)
  intro s
  apply andThen (Op.exclusively_transparent _ _ (protect_transparent s true))
  intro _
  exact tell _

theorem unlock_transparent (sector key : Value) : (unlock sector key).Transparent := by
  unfold unlock
  apply andThen (judge _)
  intro s
  refine device_bind (fun d => branch ?accepted ?refused) fun _ => rfl
  case accepted =>
    apply andThen (Op.exclusively_transparent _ _ (protect_transparent s false))
    intro _
    exact tell _
  case refused => exact andThen (tell _) fun _ => fail _

theorem protections_transparent : protections.Transparent :=
  Op.inspect_transparent _ _ fun _ => rfl

theorem clear_transparent (s : Sector) : (clear s).Transparent := by
  unfold clear
  refine device_bind (fun d => branch ?locked ?free) fun _ => rfl
  case locked => exact andThen (tell _) fun _ => fail _
  case free => exact updateDevice fun _ _ _ => rfl

theorem erase_transparent (sector : Value) : (erase sector).Transparent := by
  unfold erase
  apply andThen (judge _)
  intro s
  apply andThen (Op.exclusively_transparent _ _ (clear_transparent s))
  intro _
  exact tell _

theorem snapshot_transparent : snapshot.Transparent :=
  Op.inspect_transparent _ _ fun _ => rfl

theorem copyOut_transparent (s : Sector) : (copyOut s).Transparent :=
  Op.inspect_transparent _ _ fun _ => rfl

end Storage

/-! ## §2 The mirror -/

namespace Mirror

open Op.Transparent

theorem deliver_transparent (s : Sector) (content : Bytes) : (deliver s content).Transparent := by
  unfold deliver
  apply andThen
  · apply Op.exclusively_transparent
    exact updateDevice fun _ _ _ => rfl
  · intro _
    exact tell _

theorem store_transparent (sector data : Value) : (store sector data).Transparent := by
  unfold store
  apply andThen (judge _)
  intro s
  apply andThen (judge _)
  intro content
  exact deliver_transparent s content

/-- The two locks of a copy are asked for one after the other, so that it may be stopped at either
or pass both. -/
theorem capture_transparent (sector : Value) : (capture sector).Transparent := by
  unfold capture
  apply andThen (judge _)
  intro s
  apply andThen (Storage.copyOut_transparent s)
  intro content
  exact deliver_transparent s content

theorem snapshot_transparent : snapshot.Transparent :=
  Op.inspect_transparent _ _ fun _ => rfl

theorem openFile_transparent (path : Value) : (openFile path).Transparent := by
  unfold openFile
  refine host_bind (fun h => ?_) fun _ => rfl
  apply andThen (judge _)
  intro place
  apply andThen (updateFiles fun _ => rfl)
  intro _
  exact result _

theorem failWriting_transparent (path : Value) (written : Nat) (cause : Value) :
    (failWriting path written cause).Transparent := by
  unfold failWriting
  split
  · exact fail _
  · exact andThen (tell _) fun _ => fail _

theorem writeImage_transparent (path : Value) (place : Location) :
    (writeImage path place).Transparent := by
  unfold writeImage
  refine circumstance_bind (fun c => ?_) fun _ => rfl
  refine host_bind (fun h => ?_) fun _ => rfl
  apply andThen (updateFiles fun _ => rfl)
  intro _
  split
  · exact failWriting_transparent _ _ _
  · exact result _

theorem backup_transparent (path : Value) : (backup path).Transparent := by
  unfold backup
  apply andThen (judge _)
  intro path
  apply andThen (openFile_transparent path)
  intro place
  apply andThen (Op.exclusively_transparent _ _ (writeImage_transparent path place))
  intro written
  apply branch (tell _)
  exact andThen (tell _) fun _ => fail _

end Mirror

/-! ## §3 Handles -/

namespace Stream

open Op.Transparent

theorem tell_transparent (index : Nat) : (tell index).Transparent :=
  device_bind (fun _ => result _) fun _ => rfl

theorem check_transparent (index : Nat) : (check index).Transparent :=
  device_bind (fun _ => judge _) fun _ => rfl

theorem setCursor_transparent (index : Nat) (cursor : Number) :
    (setCursor index cursor).Transparent :=
  updateDevice fun _ _ _ => rfl

theorem advance_transparent (index count : Nat) : (advance index count).Transparent := by
  unfold advance
  apply andThen (tell_transparent index)
  intro cursor
  split
  · exact setCursor_transparent index _
  · exact result ()

/-- A transfer at the cursor reads the cursor before the wait and moves it on after it. -/
theorem transfer_transparent {op : Number → Op α} {size : α → Nat} (index : Nat)
    (hop : ∀ cursor, (op cursor).Transparent) :
    (do
      check index
      let a ← op (← tell index)
      advance index (size a)
      return a : Op α).Transparent := by
  apply andThen (check_transparent index)
  intro _
  apply andThen (tell_transparent index)
  intro cursor
  apply andThen (hop cursor)
  intro a
  apply andThen (advance_transparent index (size a))
  intro _
  exact result a

theorem read_transparent (index : Nat) (length : Value) : (read index length).Transparent :=
  transfer_transparent index fun cursor => Storage.read_transparent (.number cursor) length

theorem write_transparent (index : Nat) (data : Value) : (write index data).Transparent :=
  transfer_transparent index fun cursor => Storage.write_transparent (.number cursor) data

theorem pread_transparent (index : Nat) (length offset : Value) :
    (pread index length offset).Transparent := by
  apply andThen (check_transparent index)
  intro _
  exact Storage.read_transparent offset length

theorem pwrite_transparent (index : Nat) (data offset : Value) :
    (pwrite index data offset).Transparent := by
  apply andThen (check_transparent index)
  intro _
  exact Storage.write_transparent offset data

theorem seek_transparent (index : Nat) (offset whence : Value) :
    (seek index offset whence).Transparent := by
  unfold seek
  apply andThen (check_transparent index)
  intro _
  apply andThen (tell_transparent index)
  intro cursor
  apply andThen (judge _)
  intro origin
  apply andThen (judge _)
  intro target
  apply andThen (judge _)
  intro cursor
  apply andThen (setCursor_transparent index cursor)
  intro _
  exact result cursor

theorem close_transparent (index : Nat) : (close index).Transparent := by
  unfold close
  refine device_bind (fun d => branch (result _) ?_) fun _ => rfl
  apply andThen (updateDevice fun _ _ _ => rfl)
  intro _
  exact Op.Transparent.tell _

end Stream

theorem HandleOperation.perform_transparent (index : Nat) (op : HandleOperation) :
    (op.perform index).Transparent := by
  cases op with
  | read length => exact (Stream.read_transparent index length).giving _
  | write data => exact (Stream.write_transparent index data).giving _
  | pread length offset => exact (Stream.pread_transparent index length offset).giving _
  | pwrite data offset => exact (Stream.pwrite_transparent index data offset).giving _
  | seek offset whence => exact (Stream.seek_transparent index offset whence).giving _
  | tell => exact (Stream.tell_transparent index).giving _
  | isClosed => exact .device_bind (fun _ => .result _) fun _ => rfl
  | close => exact (Stream.close_transparent index).giving _
  | useOnce =>
    apply (Stream.tell_transparent index).andThen
    intro cursor
    apply (Stream.close_transparent index).andThen
    intro _
    exact .result _

/-! ## §4 Control commands -/

namespace Control

open Op.Transparent

theorem carryOut_transparent (command : Command) (payload : Value) :
    (carryOut command payload).Transparent := by
  cases command with
  | lockSector => exact andThen (judge _) fun sector => (Storage.lock_transparent sector).giving _
  | unlockSector => exact andThen (judge _) fun request => (Storage.unlock_transparent _ _).giving _
  | getLockInfo => exact branch (fail _) (Storage.protections_transparent.giving _)
  | eraseSector => exact andThen (judge _) fun sector => (Storage.erase_transparent sector).giving _
  | mirrorSector =>
    exact andThen (judge _) fun sector => (Mirror.capture_transparent sector).giving _
  | backupToFile => exact andThen (judge _) fun path => (Mirror.backup_transparent _).giving _

/-- What is recorded once a command has come to its end. -/
def recorded (command : Command) (latency : Float) (r : Except Failure Value) (h : Host) : Host :=
  match r with
  | .ok _ => record (·.observed command latency) h
  | .error e =>
    record (·.observed command latency)
      ((record (·.failed command e.kind) h).tell (.commandFailed command e))

theorem counted_eq (command : Command) (payload : Value) (c : Circumstance) (h : Host) :
    counted command payload c h =
      ((carryOut command payload c (record (·.started command) h)).1,
        recorded command c.latency (carryOut command payload c (record (·.started command) h)).1
          (carryOut command payload c (record (·.started command) h)).2) := by
  unfold counted
  rcases carryOut command payload c (record (·.started command) h) with ⟨r, h'⟩
  cases r <;> rfl

theorem counted_transparent (command : Command) (payload : Value) :
    (counted command payload).Transparent := by
  intro c h
  have hcarried := carryOut_transparent command payload c (record (·.started command) h)
  have hfinished := hcarried.finish (g := recorded command c.latency)
    (fun r h' => by cases r <;> rfl)
    (fun r h' => by
      cases r with
      | ok answer => exact .refl h'
      | error e => exact ⟨[.notice (.commandFailed command e)], rfl, rfl⟩)
    (fun r h' _ b => by cases r <;> exact Iff.rfl)
  rw [counted_eq, counted_eq]
  -- that the command is counted first neither asks for a lock nor takes one
  exact hfinished.after (.refl h) (fun b hb => by cases hb) fun b => Iff.rfl

theorem dispatch_transparent (command payload : Value) :
    (dispatch command payload).Transparent := by
  unfold dispatch
  split
  · exact counted_transparent _ payload
  · exact andThen (tell _) fun _ => fail _

end Control

/-! ## §5 Every operation -/

namespace Device

open Op.Transparent

theorem check_transparent : check.Transparent :=
  device_bind (fun _ => branch (fail _) (result _)) fun _ => rfl

theorem open_transparent : Device.open.Transparent := by
  unfold Device.open
  apply andThen check_transparent
  intro _
  refine device_bind (fun d => ?_) fun _ => rfl
  apply andThen (updateDevice fun _ _ _ => rfl)
  intro _
  apply andThen (tell _)
  intro _
  exact result _

theorem control_transparent (command payload : Value) : (control command payload).Transparent := by
  apply andThen check_transparent
  intro _
  exact Control.dispatch_transparent command payload

theorem close_transparent : close.Transparent := by
  apply update
  · exact Host.closed_uncontended
  · intro h
    exact Op.asks_settled h (some .close)
  · intro h b
    rw [Host.Rival, Host.Rival, Device.lockOf_owner, Device.lockOf_owner, Host.closed_status]
    cases b <;> exact Iff.rfl

end Device

theorem Operation.perform_transparent (op : Operation) : op.perform.Transparent := by
  cases op with
  | openHandle => exact Device.open_transparent.giving _
  | control command payload => exact Device.control_transparent command payload
  | dispatch command payload => exact Control.dispatch_transparent command payload
  | close => exact Device.close_transparent.giving _
  | isClosed => exact .device_bind (fun _ => .result _) fun _ => rfl
  | keys => exact .device_bind (fun _ => .result _) fun _ => rfl
  | metrics => exact .device_bind (fun _ => .result _) fun _ => rfl
  | useOnce => exact Device.close_transparent.andThen fun _ => .result _
  | handle index op => exact op.perform_transparent index
  | read offset length => exact (Storage.read_transparent offset length).giving _
  | write offset data => exact (Storage.write_transparent offset data).giving _
  | lock sector => exact (Storage.lock_transparent sector).giving _
  | unlock sector key => exact (Storage.unlock_transparent sector key).giving _
  | protections => exact Storage.protections_transparent.giving _
  | erase sector => exact (Storage.erase_transparent sector).giving _
  | capture sector => exact (Mirror.capture_transparent sector).giving _
  | primarySnapshot => exact Storage.snapshot_transparent.giving _
  | store sector data => exact (Mirror.store_transparent sector data).giving _
  | mirrorSnapshot => exact Mirror.snapshot_transparent.giving _
  | backup path => exact (Mirror.backup_transparent path).giving _

end SectorDisk
