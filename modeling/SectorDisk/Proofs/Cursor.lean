import SectorDisk.Proofs.Closing

/-!
# Cursors

A transfer at the cursor is the transfer at that offset, after which the cursor moves on by what was
transferred (`Stream.read_eq`, `Stream.write_eq`).  A seek ends where its arguments and the cursor
say, or fails (`Stream.seek_of_usable`).

`Host.callsOf` lists the calls of a handle in a run that succeeded, each with its result.  Such a
call leaves the cursor where its result says (`Host.step_cursor_of_some`), and no other step moves
it (`Host.step_cursor_of_none`).
-/

namespace SectorDisk

variable {α : Type} {c : Circumstance} {h : Host} {index : Nat}

/-! ## §1 Usable handles -/

namespace Stream

theorem check_of_unusable {e : Failure} (hunusable : h.device.usable index = .error e)
    (next : Unit → Op α) : (check index >>= next) c h = (.error e, h) := by
  have hcheck := check_run c h index
  rw [hunusable] at hcheck
  rw [Op.bind_of_error (congrArg Prod.fst hcheck), hcheck]

variable (husable : h.device.usable index = .ok ())
include husable

theorem check_of_usable (next : Unit → Op α) : (check index >>= next) c h = next () c h := by
  have hcheck := check_run c h index
  rw [husable] at hcheck
  rw [Op.bind_of_ok (congrArg Prod.fst hcheck), hcheck]

theorem pread_of_usable (length offset : Value) :
    pread index length offset c h = Storage.read offset length c h :=
  check_of_usable husable _

theorem pwrite_of_usable (data offset : Value) :
    pwrite index data offset c h = Storage.write offset data c h :=
  check_of_usable husable _

theorem perform_pread (length offset : Value) :
    (Operation.handle index (.pread length offset)).perform c h =
      (Storage.read offset length).giving Value.octets c h := by
  simp only [Operation.perform, HandleOperation.perform, Op.giving_run, pread_of_usable husable]

theorem perform_pwrite (data offset : Value) :
    (Operation.handle index (.pwrite data offset)).perform c h =
      (Storage.write offset data).giving countValue c h := by
  simp only [Operation.perform, HandleOperation.perform, Op.giving_run, pwrite_of_usable husable]

end Stream

/-! ## §2 Transfers at the cursor -/

/-- How a transfer ends that has moved the cursor of a handle on by its size. -/
def Host.movedOn (index : Nat) (size : α → Nat) (out : Except Failure α × Host) :
    Except Failure α × Host :=
  (out.1, match out.1 with | .ok a => out.2.advanced index (size a) | .error _ => out.2)

namespace Stream

theorem transfer_run (op : Op α) (size : α → Nat) :
    (do
      let a ← op
      advance index (size a)
      return a : Op α) c h = Host.movedOn index size (op c h) := by
  unfold Host.movedOn
  cases hr : (op c h).1 with
  | error e => rw [Op.bind_of_error hr]
  | ok a =>
    have hrun := advance_run c (op c h).2 index (size a)
    rw [Op.bind_of_ok hr, Op.bind_of_ok (congrArg Prod.fst hrun), hrun, Op.pure_run]

/-- A transfer at the cursor is the one at that offset, after which the cursor is moved on. -/
theorem transfer_at_cursor (op : Value → Op α) (size : α → Nat) :
    (do
      check index
      let a ← op (.number (← tell index))
      advance index (size a)
      return a : Op α) c h =
    Host.movedOn index size ((do
      check index
      op (.number (h.device.handle index).cursor)) c h) := by
  cases husable : h.device.usable index with
  | error e =>
    rw [check_of_unusable husable, check_of_unusable husable]
    rfl
  | ok _ =>
    rw [check_of_usable husable, check_of_usable husable, tell_bind_run]
    exact transfer_run (op _) size

/-- **Reading at the cursor** is reading at that offset and moving the cursor on. -/
theorem read_eq (length : Value) : read index length c h =
    Host.movedOn index List.length
      (pread index length (.number (h.device.handle index).cursor) c h) :=
  transfer_at_cursor (Storage.read · length) List.length

/-- **Writing at the cursor** is writing at that offset and moving the cursor on. -/
theorem write_eq (data : Value) : write index data c h =
    Host.movedOn index id (pwrite index data (.number (h.device.handle index).cursor) c h) :=
  transfer_at_cursor (Storage.write · data) id

end Stream

/-! ## §3 Seeking -/

/-- Where a seek from a cursor ends. -/
def Number.soughtFrom (cursor : Number) (offset whence : Value) : Except Failure Number := do
  let origin ← Origin.ofValue whence
  let target ← seekTarget cursor offset origin
  newCursor target

/-- Judgements one after the other are one judgement. -/
theorem Op.lift_bind {β γ : Type} (r : Except Failure α) (f : α → Except Failure β)
    (next : β → Op γ) : (liftM (r >>= f) >>= next : Op γ) =
      liftM r >>= fun a => liftM (f a) >>= next := by
  cases r <;> rfl

/-- How a seek ends that leads to a number, or fails. -/
def Host.seekEnd (h : Host) (index : Nat) : Except Failure Number → Except Failure Number × Host
  | .ok cursor => (.ok cursor, h.sought index cursor)
  | .error e => (.error e, h)

theorem Stream.seek_of_usable (husable : h.device.usable index = .ok ()) (offset whence : Value) :
    seek index offset whence c h =
      h.seekEnd index ((h.device.handle index).cursor.soughtFrom offset whence) := by
  have hjudged : seek index offset whence c h =
      (liftM ((h.device.handle index).cursor.soughtFrom offset whence) >>= fun cursor => do
        setCursor index cursor
        return cursor : Op Number) c h := by
    unfold seek
    rw [check_of_usable husable, tell_bind_run]
    simp only [Number.soughtFrom, Op.lift_bind]
  rw [hjudged]
  cases (h.device.handle index).cursor.soughtFrom offset whence with
  | error e => rfl
  | ok cursor =>
    have hrun := setCursor_run c h index cursor
    rw [Op.lift_ok_bind_run, Op.bind_of_ok (congrArg Prod.fst hrun), hrun, Op.pure_run,
      Host.seekEnd]

/-! ## §4 What deeds do to a cursor -/

/-- A number moved on by a count; what is no integer stays. -/
def Number.advanced (n : Number) (count : Nat) : Number :=
  match n.toInt? with
  | some place => .int (place + count)
  | none => n

theorem Handle.advanced_cursor (e : Handle) (count : Nat) :
    (e.advanced count).cursor = e.cursor.advanced count := by
  unfold advanced Number.advanced
  cases e.cursor.toInt? <;> rfl

/-- The cursor of a handle by number. -/
def Store.cursor (k : Store) (index : Nat) : Number :=
  ((k.handles[index]?).getD { isClosed := true }).cursor

/-- Whether a deed moves the cursor of a handle. -/
def Deed.moves (index : Nat) : Deed → Bool
  | advanced i _ => i = index
  | sought i _ => i = index
  | _ => false

namespace Store

variable {k : Store}

theorem cursor_congr {k' : Store} (hhandles : k'.handles = k.handles) :
    k'.cursor index = k.cursor index := by
  rw [cursor, hhandles, cursor]

/-- A change of a handle leaves the cursor of another one, or one that it is not about. -/
theorem cursor_modify {i : Nat} {f : Handle → Handle}
    (hkept : i = index → ∀ e, (f e).cursor = e.cursor) :
    (((k.handles.modify i f)[index]?).getD { isClosed := true }).cursor = k.cursor index := by
  unfold cursor
  by_cases hi : i = index
  · subst hi
    rw [List.getElem?_modify_eq]
    cases k.handles[i]? with
    | none => rfl
    | some e => exact hkept rfl e
  · rw [List.getElem?_modify_ne f k.handles hi]

theorem did_cursor {x : Deed} (hstill : x.moves index = false) :
    (k.did x).cursor index = k.cursor index := by
  cases x with
  | opened =>
    -- a handle begins where one that was never opened is said to be
    simp only [cursor, did_handles, Deed.onHandles, List.getElem?_append]
    split
    · rfl
    · rename_i hunopened
      rw [List.getElem?_eq_none (Nat.not_lt.mp hunopened)]
      cases index - k.handles.length <;> rfl
  | advanced i count => exact cursor_modify fun hi => absurd hi (of_decide_eq_false hstill)
  | sought i cursor => exact cursor_modify fun hi => absurd hi (of_decide_eq_false hstill)
  | released i => exact cursor_modify fun _ _ => rfl
  | _ => exact cursor_congr (k.did_handles _)

theorem after_cursor {ds : List Deed} (hstill : ∀ x ∈ ds, x.moves index = false) :
    (k.after ds).cursor index = k.cursor index := by
  induction ds generalizing k with
  | nil => rfl
  | cons x ds ih =>
    obtain ⟨hfirst, hrest⟩ := List.forall_mem_cons.mp hstill
    rw [after_cons, ih hrest, did_cursor hfirst]

variable {e : Handle} (he : k.handles[index]? = some e)
include he

theorem did_advanced_cursor (count : Nat) :
    (k.did (.advanced index count)).cursor index = (k.cursor index).advanced count := by
  simp only [cursor, did_handles, Deed.onHandles, List.getElem?_modify_eq, he,
    Option.map_eq_map, Option.map_some, Option.getD_some, Handle.advanced_cursor]

theorem did_sought_cursor (n : Number) : (k.did (.sought index n)).cursor index = n := by
  simp only [cursor, did_handles, Deed.onHandles, List.getElem?_modify_eq, he,
    Option.map_eq_map, Option.map_some, Option.getD_some]

end Store

/-! ## §5 Calls -/

/-- What is left of a cursor by a call of its handle that succeeded with the given result. -/
def HandleOperation.leaves (cursor : Number) : HandleOperation → Value → Number
  | .read _, .octets data => cursor.advanced data.length
  | .write _, .int count => cursor.advanced count.toNat
  | .seek _ _, .number target => target
  | _, _ => cursor

/-- The call of a handle that a step is, with its result, if it succeeds. -/
def Host.callOf? (h : Host) (index : Nat) : Step → Option (HandleOperation × Value)
  | .operate c (.handle i op) =>
    if i = index then (h.operate c (.handle i op)).1.toOption.map fun result => (op, result)
    else none
  | _ => none

/-- The calls of a handle in a run that succeeded, with their results, in order. -/
def Host.callsOf (h : Host) (index : Nat) : List Step → List (HandleOperation × Value)
  | [] => []
  | step :: rest => (h.callOf? index step).toList ++ (h.step step).callsOf index rest

theorem Device.exists_of_usable {d : Device} (husable : d.usable index = .ok ()) :
    ∃ e, d.handles[index]? = some e := by
  cases he : d.handles[index]? with
  | some e => exact ⟨e, rfl⟩
  | none =>
    -- a handle that was never opened counts as closed
    have hclosed : (d.handle index).isClosed = true := by rw [handle, he, Option.getD_none]
    rw [usable, hclosed] at husable
    split at husable <;> cases husable

theorem HandleOperation.Moves.usable_of_ok {hop : HandleOperation} (hmoves : hop.Moves)
    {result : Value} (hok : ((Operation.handle index hop).perform c h).1 = .ok result) :
    h.device.usable index = .ok () := by
  cases husable : h.device.usable index with
  | ok _ => rfl
  | error e =>
    rw [hmoves.perform_run husable] at hok
    cases hok

theorem Deed.moves_ofWrite {offset data : Value} {count : Int} :
    ∀ x ∈ ofWrite offset data count, x.moves index = false :=
  forall_ofWrite fun _ _ => rfl

/-- What is asked of another handle, or of the device, moves no cursor. -/
theorem Operation.moves_deeds {d : Device} {op : Operation} {result : Value}
    (hother : ∀ hop, op ≠ .handle index hop) : ∀ x ∈ op.deeds d result, x.moves index = false := by
  by_cases hhandle : ∃ i hop, op = .handle i hop
  · obtain ⟨i, hop, rfl⟩ := hhandle
    have hi : decide (i = index) = false := decide_eq_false fun hi => hother hop (hi ▸ rfl)
    exact HandleOperation.forall_deeds_of_handle (fun _ _ => rfl) (fun _ => hi) (fun _ => hi) rfl
  · exact forall_deeds_of_device (fun i hop hop' => hhandle ⟨i, hop, hop'⟩) rfl rfl
      (fun _ _ => rfl) (fun _ => rfl) (fun _ _ => rfl) (fun _ => rfl) (fun _ => rfl)
      fun _ _ _ _ _ => rfl

/-- **A call** of a handle that succeeded leaves its cursor where its result says. -/
theorem HandleOperation.after_deeds_cursor {hop : HandleOperation} {result : Value}
    (hok : ((Operation.handle index hop).perform c h).1 = .ok result) :
    (h.device.store.after (hop.deeds h.device index result)).cursor index =
      hop.leaves (h.device.store.cursor index) result := by
  have hopened (hmoves : hop.Moves) : ∃ e, h.device.store.handles[index]? = some e :=
    Device.exists_of_usable (hmoves.usable_of_ok hok)
  cases hop with
  | read length =>
    obtain ⟨e, he⟩ := hopened .read
    obtain ⟨data, -, rfl⟩ := Op.exists_of_giving_ok hok
    exact Store.did_advanced_cursor he _
  | write data =>
    obtain ⟨e, he⟩ := hopened .write
    obtain ⟨count, -, rfl⟩ := Op.exists_of_giving_ok hok
    -- the bytes are laid first, which is nothing to the handles
    have hhandles (k : Store) (offset : Value) :
        (k.after (Deed.ofWrite offset data count)).handles = k.handles := by
      unfold Deed.ofWrite
      split
      · exact k.did_handles _
      · rfl
    rw [← hhandles] at he
    have hdeeds : (write data).deeds h.device index (countValue count) =
        Deed.ofWrite (.number (h.device.handle index).cursor) data count ++
          [.advanced index count] := rfl
    rw [hdeeds, Store.after_append]
    exact (Store.did_advanced_cursor he _).trans (by rw [Store.cursor_congr (hhandles ..)]; rfl)
  | pwrite data offset =>
    obtain ⟨count, -, rfl⟩ := Op.exists_of_giving_ok hok
    exact Store.after_cursor Deed.moves_ofWrite
  | seek offset whence =>
    obtain ⟨e, he⟩ := hopened .seek
    obtain ⟨target, -, rfl⟩ := Op.exists_of_giving_ok hok
    exact Store.did_sought_cursor he _
  | close => exact Store.after_cursor (List.forall_mem_singleton.mpr rfl)
  | useOnce => exact Store.after_cursor (List.forall_mem_singleton.mpr rfl)
  | pread | tell | isClosed => rfl

/-! ## §6 One step -/

namespace Host

variable {step : Step} {hop : HandleOperation} {result : Value}

theorem callOf?_eq_some (hcall : h.callOf? index step = some (hop, result)) :
    ∃ c, step = .operate c (.handle index hop) ∧
      ((Operation.handle index hop).perform c h).1 = .ok result := by
  unfold callOf? at hcall
  split at hcall
  · rename_i c i op
    split at hcall
    · rename_i hi
      subst hi
      obtain ⟨r, hr, hsame⟩ := Option.map_eq_some_iff.mp hcall
      cases hsame
      have hok : ((Operation.handle i hop).perform c h).1.toOption = some result := hr
      cases hout : ((Operation.handle i hop).perform c h).1 with
      | ok a =>
        rw [hout] at hok
        cases hok
        exact ⟨c, rfl, hout⟩
      | error e =>
        rw [hout] at hok
        cases hok
    · cases hcall
  · cases hcall

/-- What is no call of the handle that succeeded does nothing that moves its cursor. -/
theorem moves_deedsOf (hnone : h.callOf? index step = none) :
    ∀ x ∈ h.deedsOf step, x.moves index = false := by
  cases step with
  | operate c op =>
    simp only [deedsOf]
    split
    · rename_i result hr
      apply Operation.moves_deeds
      rintro hop rfl
      rw [callOf?, if_pos rfl, hr] at hnone
      cases hnone
    · exact List.forall_mem_nil _
  | hold | letGo | interrupt | writeFile | makeDirectory => exact List.forall_mem_nil _

theorem step_cursor_of_none (hnone : h.callOf? index step = none) :
    ((h.step step).device.handle index).cursor = (h.device.handle index).cursor := by
  change (h.step step).device.store.cursor index = h.device.store.cursor index
  rw [(h.step_store step).1, Store.after_cursor (moves_deedsOf hnone)]

theorem step_cursor_of_some (hcall : h.callOf? index step = some (hop, result)) :
    ((h.step step).device.handle index).cursor =
      hop.leaves (h.device.handle index).cursor result := by
  obtain ⟨c, rfl, hok⟩ := callOf?_eq_some hcall
  have hdeeds : h.deedsOf (.operate c (.handle index hop)) =
      hop.deeds h.device index result := by
    have hok' : (h.operate c (.handle index hop)).1 = .ok result := hok
    rw [deedsOf, hok']
    rfl
  change (h.step _).device.store.cursor index = hop.leaves (h.device.store.cursor index) result
  rw [(h.step_store _).1, hdeeds, HandleOperation.after_deeds_cursor hok]

end Host

end SectorDisk
