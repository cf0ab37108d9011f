import SectorDisk.Proofs.Outcome.Storage

/-!
# Outcomes on handles

A transfer at the cursor does what it does at that offset and moves the cursor on; a failed one
leaves the cursor where it was.
-/

namespace SectorDisk

variable {α : Type}

theorem Device.setHandle_handle (d : Device) (index : Nat) (f : Handle → Handle) :
    d.setHandle index (f (d.handle index)) = { d with handles := d.handles.modify index f } := by
  -- a handle that was never opened is read as closed, and replacing it replaces nothing
  let inhabited : Inhabited Handle := ⟨{ isClosed := true }⟩
  rw [List.modify_eq_set]
  rfl

theorem Device.setHandle_self (d : Device) (index : Nat) :
    d.setHandle index (d.handle index) = d := by
  have hsame := d.setHandle_handle index id
  rw [List.modify_id] at hsame
  exact hsame

theorem Host.updateDevice_congr {h : Host} {f g : Device → Device}
    (hsame : f h.device = g h.device) : h.updateDevice f = h.updateDevice g :=
  congrArg (fun d => { h with device := d }) hsame

/-- The host after the cursor of a handle was set. -/
def Host.sought (h : Host) (index : Nat) (cursor : Number) : Host :=
  h.updateDevice fun d =>
    { d with handles := d.handles.modify index fun e => { e with cursor := cursor } }

/-- The host after the cursor of a handle was moved on. -/
def Host.advanced (h : Host) (index count : Nat) : Host :=
  h.updateDevice fun d => { d with handles := d.handles.modify index (·.advanced count) }

theorem Host.sought_status (h : Host) (index : Nat) (cursor : Number) :
    (h.sought index cursor).device.status = h.device.status.after [.sought index cursor] := rfl

theorem Host.advanced_status (h : Host) (index count : Nat) :
    (h.advanced index count).device.status = h.device.status.after [.advanced index count] := rfl

namespace Stream

variable (c : Circumstance) (h : Host) (index : Nat)

theorem tell_bind_run (next : Number → Op α) :
    (tell index >>= next) c h = next (h.device.handle index).cursor c h := rfl

theorem check_run : check index c h = (h.device.usable index, h) := rfl

theorem check_outcome {next : Unit → Op α} {deeds : α → List Deed}
    (hrest : Outcome c h.device.status deeds (next () c h)) :
    Outcome c h.device.status deeds ((check index >>= next) c h) := by
  have hfirst : Outcome c h.device.status (fun _ => []) (check index c h) := by
    rw [check_run]
    cases h.device.usable index with
    | error e => exact Outcome.failed (Idle.refl c _) e
    | ok _ => exact Outcome.quiet (Idle.refl c _) rfl
  exact hfirst.next fun _ _ => hrest

theorem setCursor_run (cursor : Number) :
    setCursor index cursor c h = (.ok (), h.sought index cursor) :=
  congrArg (Prod.mk (Except.ok ())) <| Host.updateDevice_congr <|
    h.device.setHandle_handle index fun e => { e with cursor := cursor }

/-- Moving the cursor of a handle on never fails. -/
theorem advance_run (count : Nat) : advance index count c h = (.ok (), h.advanced index count) := by
  have hset := h.device.setHandle_handle index (·.advanced count)
  unfold advance
  rw [tell_bind_run]
  cases hcursor : (h.device.handle index).cursor.toInt? with
  | some cursor =>
    simp only [Handle.advanced, hcursor] at hset
    exact congrArg (Prod.mk (Except.ok ())) (Host.updateDevice_congr hset)
  | none =>
    -- a cursor that is no integer stays where it is
    simp only [Handle.advanced, hcursor] at hset
    rw [Device.setHandle_self] at hset
    exact congrArg (Prod.mk (Except.ok ())) (Host.updateDevice_congr (f := id) hset)

/-- A transfer at the cursor does what it does at that offset, and moves the cursor on. -/
theorem transfer_outcome {op : Op α} {size : α → Nat} {deeds : α → List Deed}
    (hop : Outcome c h.device.status deeds (op c h)) :
    Outcome c h.device.status (fun a => deeds a ++ [.advanced index (size a)])
      ((do
        let a ← op
        advance index (size a)
        return a : Op α) c h) := by
  apply hop.last
  intro a h' _
  have hrun := advance_run c h' index (size a)
  refine ⟨a, [.advanced index (size a)], ?_, ?_, fun _ => ⟨trivial, trivial⟩, rfl⟩
  · rw [Op.bind_of_ok (congrArg Prod.fst hrun), Op.pure_run]
  · rw [Op.bind_of_ok (congrArg Prod.fst hrun), Op.pure_run, hrun, Host.advanced_status]

theorem read_outcome (length : Value) :
    Outcome c h.device.status (fun data => [.advanced index data.length])
      (read index length c h) := by
  unfold read
  apply check_outcome
  rw [tell_bind_run]
  exact transfer_outcome c h index (Storage.read_outcome c h _ length)

theorem write_outcome (data : Value) :
    Outcome c h.device.status
      (fun n : Nat => Deed.ofWrite (.number (h.device.handle index).cursor) data n
        ++ [.advanced index n])
      (write index data c h) := by
  unfold write
  apply check_outcome
  rw [tell_bind_run]
  exact transfer_outcome c h index (Storage.write_outcome c h _ data)

theorem pread_outcome (length offset : Value) :
    Outcome c h.device.status (fun _ => []) (pread index length offset c h) :=
  check_outcome c h index (Storage.read_outcome c h offset length)

theorem pwrite_outcome (data offset : Value) :
    Outcome c h.device.status (fun n : Nat => Deed.ofWrite offset data n)
      (pwrite index data offset c h) :=
  check_outcome c h index (Storage.write_outcome c h offset data)

theorem seek_outcome (offset whence : Value) :
    Outcome c h.device.status (fun cursor => [.sought index cursor])
      (seek index offset whence c h) := by
  unfold seek
  apply check_outcome
  rw [tell_bind_run]
  apply Outcome.judge
  intro origin _
  apply Outcome.judge
  intro target _
  apply Outcome.judge
  intro cursor _
  have hrun := setCursor_run c h index cursor
  rw [Op.bind_of_ok (congrArg Prod.fst hrun), hrun]
  exact ⟨_, Idle.refl c _, h.sought_status index cursor, trivial, trivial⟩

/-- Closing a handle never fails; one that was closed stays as it is. -/
theorem close_run :
    ∃ h', close index c h = (.ok (), h') ∧
      h'.device.status = h.device.status.after [.released index] := by
  have hreleased : ({ h.device with
      handles := h.device.handles.modify index fun e => { e with isClosed := true } } :
      Device).status = h.device.status.after [.released index] := rfl
  rw [← h.device.setHandle_handle index fun e => { e with isClosed := true }] at hreleased
  unfold close
  rw [Op.device_bind_run]
  by_cases hclosed : (h.device.handle index).isClosed = true
  · -- it was closed before, and the deed changes nothing
    refine ⟨h, by simp only [if_pos hclosed, Op.pure_run], ?_⟩
    have hsame : { h.device.handle index with isClosed := true } = h.device.handle index := by
      rw [← hclosed]
    rw [hsame, Device.setHandle_self] at hreleased
    exact hreleased
  · simp only [if_neg hclosed, Op.updateDevice_bind_run, Op.tell_run]
    exact ⟨_, rfl, hreleased⟩

end Stream

theorem HandleOperation.perform_outcome (c : Circumstance) (h : Host) (index : Nat)
    (op : HandleOperation) :
    Outcome c h.device.status (op.deeds h.device index) (op.perform index c h) := by
  cases op with
  | read length => exact (Stream.read_outcome c h index length).giving
  | write data => exact (Stream.write_outcome c h index data).giving
  | pread length offset => exact (Stream.pread_outcome c h index length offset).giving
  | pwrite data offset => exact (Stream.pwrite_outcome c h index data offset).giving
  | seek offset whence => exact (Stream.seek_outcome c h index offset whence).giving
  | tell => exact Outcome.quiet (Idle.refl c _) rfl
  | isClosed => exact Outcome.quiet (Idle.refl c _) rfl
  | close =>
    obtain ⟨h', hrun, hstatus⟩ := Stream.close_run c h index
    apply Outcome.giving
    rw [hrun]
    exact ⟨_, Idle.refl c _, hstatus, trivial, trivial⟩
  | useOnce =>
    obtain ⟨h', hrun, hstatus⟩ := Stream.close_run c h index
    refine ⟨_, Idle.refl c _, ?_⟩
    simp only [perform, Stream.tell_bind_run, Op.bind_of_ok (congrArg Prod.fst hrun), Op.pure_run,
      hrun]
    exact ⟨hstatus, trivial, trivial⟩

end SectorDisk
