import SectorDisk.Proofs.Outcome.Operation
import SectorDisk.Proofs.Write

/-!
# Access within bounds

The operations on the bytes and the protection of a device once more, with every access checked: an
index into the protection must be that of a sector, a stretch of a buffer that is read must lie in
the buffer, and one that is assigned must also be as long as what is assigned to it.  Sectors are
looked up by the very number that was given as an argument, and a write walks through the indices of
the sectors that it touches.  Any access out of bounds ends the operation with a given flaw.

No such flaw is ever found: with every access checked the operations are the same
(`Operation.strict_eq`).
-/

namespace SectorDisk

variable {α : Type} {c : Circumstance} {h : Host} {s : Sector}

/-! ## §1 Checked access -/

namespace Strict

variable (flaw : Failure)

/-- The sector with an index, which must be that of a sector. -/
def sectorAt (index : Int) : Except Failure Sector :=
  match Sector.ofIndex? index with
  | some s => .ok s
  | none => .error flaw

/-- An argument as an index, which must be an integer. -/
def indexOf (v : Value) : Except Failure Int :=
  match v with
  | .int n => .ok n
  | _ => .error flaw

/-- The bytes from `first` up to, not including, `past`, which must all be in the buffer. -/
def slice (image : Image) (first past : Int) : Except Failure Bytes :=
  if 0 ≤ first ∧ first ≤ past ∧ past ≤ diskSize then
    .ok (image.slice first.toNat (past - first).toNat)
  else .error flaw

/-- The buffer with other bytes from `first` up to, not including, `past`; they must all be in the
buffer, and there must be as many of them. -/
def assign (image : Image) (first past : Int) (data : Bytes) : Except Failure Image :=
  if 0 ≤ first ∧ first ≤ past ∧ past ≤ diskSize ∧ data.length = past - first then
    .ok (image.splice first.toNat data)
  else .error flaw

/-! ## §2 Checked operations -/

/-- Reads up to `length` bytes from `offset` on. -/
def read (offset length : Value) : Op Bytes := do
  let offset ← natural "offset" offset
  let length ← natural "length" length
  let count := (fittingLength offset length).toNat
  if count = 0 then return []
  Op.exclusively .primary "read" do
    let content ← slice flaw (← Op.device).primary offset (offset + count)
    return content

/-- Refuses a write at `offset` for the first protected one of `count` sectors from `index` on. -/
def walk (offset : Nat) (index : Int) : Nat → Op Unit
  | 0 => return ()
  | count + 1 => do
    let s ← sectorAt flaw index
    if (← Op.device).protection.bit s then
      Op.tell (.writeRefused offset s)
      Op.fail (.locked s .write)
    else walk offset (index + 1) count

/-- Assigns `data` to the `count` bytes from `offset` on, unless a sector of theirs is protected. -/
def overwrite (offset count : Nat) (data : Bytes) : Op Unit := do
  let touched := span offset count
  walk flaw offset touched.first (touched.past - touched.first).toNat
  let image ← assign flaw (← Op.device).primary offset (offset + count) data
  Op.updateDevice fun d => { d with primary := image }

/-- Writes bytes from `offset` on. -/
def write (offset data : Value) : Op Nat := do
  let offset ← natural "offset" offset
  if diskSize ≤ offset then Op.fail (.noSpace offset)
  let data ← Storage.bytesToWrite data
  let count := (fittingLength offset data.length).toNat
  if count = 0 then return 0
  Op.exclusively .primary "write" (overwrite flaw offset count (data.take count))
  return count

/-- Sets the protection of the sector that an argument is the index of. -/
def protect (sector : Value) (on : Bool) : Op Unit := do
  let index ← indexOf flaw sector
  let s ← sectorAt flaw index
  Storage.protect s on

/-- Protects a sector. -/
def lock (sector : Value) : Op Unit := do
  let s ← Sector.ofValue sector
  Op.exclusively .primary "lock" (protect flaw sector true)
  Op.tell (.locked s)

/-- Lifts the protection of a sector, given one of the keys. -/
def unlock (sector key : Value) : Op Unit := do
  let s ← Sector.ofValue sector
  if (← Op.device).keys.accepts key then
    Op.exclusively .primary "unlock" (protect flaw sector false)
    Op.tell (.unlocked s)
  else
    Op.tell (.keyRefused s)
    Op.fail (.keyRefused s)

/-- Fills the sector that an argument is the index of with zeros, unless it is protected. -/
def clear (sector : Value) : Op Unit := do
  let index ← indexOf flaw sector
  let s ← sectorAt flaw index
  if (← Op.device).protection.bit s then
    Op.tell (.eraseRefused s)
    Op.fail (.locked s .erase)
  else
    let image ← assign flaw (← Op.device).primary (sectorSize * index)
      (sectorSize * index + sectorSize) Storage.zeros
    Op.updateDevice fun d => { d with primary := image }

/-- Erases a sector. -/
def erase (sector : Value) : Op Unit := do
  let s ← Sector.ofValue sector
  Op.exclusively .primary "erase" (clear flaw sector)
  Op.tell (.erased s)

/-- A copy of the sector that an argument is the index of. -/
def copyOut (sector : Value) : Op Bytes :=
  Op.exclusively .primary "mirror" do
    let index ← indexOf flaw sector
    let content ← slice flaw (← Op.device).primary (sectorSize * index)
      (sectorSize * index + sectorSize)
    return content

/-- Stores the content of the sector that an argument is the index of. -/
def deliver (sector : Value) (content : Bytes) : Op Unit :=
  Op.exclusively .mirror "mirror_sector" do
    let index ← indexOf flaw sector
    let image ← assign flaw (← Op.device).mirror (sectorSize * index)
      (sectorSize * index + sectorSize) content
    Op.updateDevice fun d => { d with mirror := image }

/-- Stores given bytes as a sector. -/
def store (sector data : Value) : Op Unit := do
  let s ← Sector.ofValue sector
  let content ← Mirror.sectorBytes data
  deliver flaw sector content
  Op.tell (.mirrored s)

/-- Copies a sector of the primary buffer: its bytes are handed over and judged like any others. -/
def capture (sector : Value) : Op Unit := do
  let _ ← Sector.ofValue sector
  let content ← copyOut flaw sector
  store flaw sector (.bytes .view content)

/-- Transfers bytes at the cursor of a handle and moves it on. -/
def atCursor (index : Nat) (op : Value → Op α) (size : α → Nat) : Op α := do
  Stream.check index
  let a ← op (.number (← Stream.tell index))
  Stream.advance index (size a)
  return a

/-- Transfers bytes at a given offset, through a handle. -/
def atOffset (index : Nat) (op : Op α) : Op α := do
  Stream.check index
  op

end Strict

/-- Does what is asked of a handle, with every access checked. -/
def HandleOperation.strict (flaw : Failure) (index : Nat) : HandleOperation → Op Value
  | read length =>
    (Strict.atCursor index (Strict.read flaw · length) List.length).giving Value.octets
  | write data => (Strict.atCursor index (Strict.write flaw · data) id).giving countValue
  | pread length offset =>
    (Strict.atOffset index (Strict.read flaw offset length)).giving Value.octets
  | pwrite data offset => (Strict.atOffset index (Strict.write flaw offset data)).giving countValue
  | op => op.perform index

/-- Does what is asked of a device, with every access to its bytes and its protection checked. -/
def Operation.strict (flaw : Failure) : Operation → Op Value
  | handle index op => op.strict flaw index
  | read offset length => (Strict.read flaw offset length).giving Value.octets
  | write offset data => (Strict.write flaw offset data).giving countValue
  | lock sector => (Strict.lock flaw sector).giving unitValue
  | unlock sector key => (Strict.unlock flaw sector key).giving unitValue
  | erase sector => (Strict.erase flaw sector).giving unitValue
  | capture sector => (Strict.capture flaw sector).giving unitValue
  | store sector data => (Strict.store flaw sector data).giving unitValue
  | op => op.perform

/-! ## §3 No flaw is found -/

namespace Op

/-- After a judgement the rest matters only where it was favourable. -/
theorem judge_bind_ext {β : Type} {r : Except Failure α} {next next' : α → Op β}
    (hnext : ∀ a, r = .ok a → next a = next' a) :
    ((liftM r : Op α) >>= next) = ((liftM r : Op α) >>= next') := by
  cases r with
  | error e => rfl
  | ok a => exact hnext a rfl

theorem bind_ext_of_ok {β : Type} {op : Op α} {next next' : α → Op β}
    (hnext : ∀ a, (op c h).1 = .ok a → next a c (op c h).2 = next' a c (op c h).2) :
    (op >>= next) c h = (op >>= next') c h := by
  cases hr : (op c h).1 with
  | error e => rw [bind_of_error hr, bind_of_error hr]
  | ok a => rw [bind_of_ok hr, bind_of_ok hr, hnext a hr]

/-- Only the device that is found is changed. -/
theorem updateDevice_ext {f g : Device → Device} (hsame : f h.device = g h.device) :
    updateDevice f c h = updateDevice g c h := by
  rw [updateDevice_run, updateDevice_run, Host.updateDevice, Host.updateDevice, hsame]

end Op

namespace Strict

variable {flaw : Failure} {image : Image}

theorem sectorAt_val (s : Sector) : sectorAt flaw s.val = .ok s := by
  have hs := s.isLt
  have hrange : 0 ≤ (s.val : Int) ∧ (s.val : Int) < 8 := by omega
  simp only [sectorAt, Sector.ofIndex?, dif_pos hrange, Int.toNat_natCast, Fin.eta]

/-- There is no ninth sector. -/
example : sectorAt flaw 8 = .error flaw := rfl

theorem slice_ok {first count : Nat} (hroom : first + count ≤ diskSize) :
    slice flaw image first (first + count) = .ok (image.slice first count) := by
  have hcount : ((first : Int) + count - first).toNat = count := by omega
  rw [slice, if_pos ⟨by omega, by omega, by omega⟩, Int.toNat_natCast, hcount]

theorem assign_ok {first count : Nat} {data : Bytes} (hroom : first + count ≤ diskSize)
    (hlength : data.length = count) :
    assign flaw image first (first + count) data = .ok (image.splice first data) := by
  rw [assign, if_pos ⟨by omega, by omega, by omega, by omega⟩, Int.toNat_natCast]

theorem slice_sector (s : Sector) :
    slice flaw image (sectorSize * s.val) (sectorSize * s.val + sectorSize) =
      .ok (image.sector s) :=
  slice_ok s.start_add_le

theorem assign_sector (s : Sector) {data : Bytes} (hlength : data.length = sectorSize) :
    assign flaw image (sectorSize * s.val) (sectorSize * s.val + sectorSize) data =
      .ok (image.splice s.start data) :=
  assign_ok s.start_add_le hlength

/-- The sectors of a stretch on the disk are sectors of the disk. -/
theorem span_inside {offset count : Nat} (hroom : offset + count ≤ diskSize) :
    0 ≤ (span offset count).first ∧ (span offset count).first ≤ (span offset count).past ∧
      (span offset count).past ≤ 8 := by
  by_cases hsome : (0 : Int) < count
  · simp only [diskSize] at hroom
    simp only [span_of_some hsome, sectorSize]
    omega
  · rw [span_of_empty (Int.not_lt.mp hsome)]
    decide

variable {offset : Nat} {count : Nat} {index : Int}

/-- A walk passes over sectors that are not protected. -/
theorem walk_of_none (hlow : 0 ≤ index) (hhigh : index + count ≤ 8)
    (hnone : ∀ t : Sector, index ≤ t.val → t.val < index + count →
      h.device.protection.bit t = false) : walk flaw offset index count c h = (.ok (), h) := by
  induction count generalizing index with
  | zero => rfl
  | succ count ih =>
    -- the index is that of a sector, which is passed over
    obtain ⟨t, rfl⟩ : ∃ t : Sector, index = t.val :=
      ⟨⟨index.toNat, by omega⟩, (Int.toNat_of_nonneg hlow).symm⟩
    have hpassed : h.device.protection.bit t = false := hnone t (by omega) (by omega)
    rw [walk, sectorAt_val, Op.lift_ok_bind_run, Op.device_bind_run, if_neg (by simp [hpassed])]
    exact ih (by omega) (by omega) fun u hfrom hto => hnone u (by omega) (by omega)

/-- A walk ends at the first sector that is protected. -/
theorem walk_of_some (hlow : 0 ≤ index) (hhigh : index + count ≤ 8) (hfrom : index ≤ s.val)
    (hto : s.val < index + count) (hbit : h.device.protection.bit s = true)
    (hleast : ∀ t : Sector, index ≤ t.val → t.val < index + count →
      h.device.protection.bit t = true → s ≤ t) :
    walk flaw offset index count c h =
      (.error (.locked s .write), h.tell (.writeRefused offset s)) := by
  induction count generalizing index with
  | zero => omega
  | succ count ih =>
    obtain ⟨t, rfl⟩ : ∃ t : Sector, index = t.val :=
      ⟨⟨index.toNat, by omega⟩, (Int.toNat_of_nonneg hlow).symm⟩
    rw [walk, sectorAt_val, Op.lift_ok_bind_run, Op.device_bind_run]
    -- the walk has come to the protected sector, or to one before it that is not protected
    by_cases hhere : t = s
    · subst hhere
      rw [if_pos hbit, Op.tell_bind_run, Op.fail_run]
    · have hbelow : t.val < s.val := by
        have hne := Fin.val_ne_of_ne hhere
        omega
      have hpassed : ¬h.device.protection.bit t = true := fun ht =>
        Nat.not_le.mpr hbelow (hleast t (by omega) (by omega) ht)
      rw [if_neg hpassed]
      exact ih (by omega) (by omega) (by omega) (by omega) fun u hlow' hhigh' =>
        hleast u (by omega) (by omega)

theorem guards_iff {d : Device} : d.Guards s offset count ↔
    d.protection.bit s = true ∧ (span offset count).first ≤ s.val ∧
      s.val < (span offset count).past := by
  rw [Device.Guards, ← span_holds_iff, Span.holds_iff]

/-! ## §4 The primary buffer -/

theorem read_eq (offset length : Value) : read flaw offset length = Storage.read offset length := by
  unfold read Storage.read
  refine Op.judge_bind_ext fun start _ => Op.judge_bind_ext fun size _ => ?_
  by_cases hnone : (fittingLength start size).toNat = 0
  · rw [if_pos hnone, if_pos hnone]
  · rw [if_neg hnone, if_neg hnone]
    congr 1
    funext c h
    -- what fits on the disk lies in the buffer
    have hroom : start + (fittingLength start size).toNat ≤ diskSize := by
      rw [toNat_fittingLength] at hnone ⊢
      omega
    rw [Op.device_bind_run, Op.device_bind_run, slice_ok hroom]
    rfl

/-- On the disk the walk finds what the search finds, and what is assigned fits. -/
theorem overwrite_eq {data : Bytes} (hroom : offset + count ≤ diskSize)
    (hlength : data.length = count) :
    overwrite flaw offset count data = Storage.overwrite offset data := by
  subst hlength
  funext c h
  obtain ⟨hlow, hmid, hhigh⟩ := span_inside hroom
  -- how many sectors the walk is to visit
  obtain ⟨reach, hreach, hend⟩ : ∃ reach : Nat,
      ((span offset data.length).past - (span offset data.length).first).toNat = reach ∧
        (span offset data.length).first + reach = (span offset data.length).past :=
    ⟨_, rfl, by omega⟩
  unfold overwrite Storage.overwrite
  simp only [hreach]
  rw [Op.device_bind_run]
  cases hfirst : h.device.firstProtected? (span offset data.length) with
  | none =>
    -- nothing stops the walk, and what is assigned is as long as its place
    have hnone := Device.firstProtected?_eq_none_iff.mp hfirst
    have hpassed : walk flaw offset (span offset data.length).first reach c h = (.ok (), h) :=
      walk_of_none hlow (by omega) fun t hfrom hto => Bool.eq_false_iff.mpr fun hbit =>
        hnone t (guards_iff.mpr ⟨hbit, hfrom, hend ▸ hto⟩)
    rw [Op.bind_of_ok (congrArg Prod.fst hpassed), hpassed, Op.device_bind_run,
      assign_ok hroom rfl, Op.lift_ok_bind_run]
    exact Op.updateDevice_ext rfl
  | some s =>
    -- the search finds the lowest of the protected sectors, at which the walk stops
    obtain ⟨hguards, hleast⟩ := Device.firstProtected?_eq_some_iff.mp hfirst
    obtain ⟨hbit, hfrom, hto⟩ := guards_iff.mp hguards
    have hstopped : walk flaw offset (span offset data.length).first reach c h =
        (.error (.locked s .write), h.tell (.writeRefused offset s)) :=
      walk_of_some hlow (by omega) hfrom (hend ▸ hto) hbit fun t hfrom' hto' ht =>
        hleast t (guards_iff.mpr ⟨ht, hfrom', hend ▸ hto'⟩)
    rw [Op.bind_of_error (congrArg Prod.fst hstopped), hstopped]
    rfl

theorem write_eq (offset data : Value) : write flaw offset data = Storage.write offset data := by
  unfold write Storage.write
  refine Op.judge_bind_ext fun start _ => ?_
  by_cases hpast : diskSize ≤ start
  · rw [if_pos hpast, if_pos hpast]
    rfl
  · rw [if_neg hpast, if_neg hpast]
    refine Op.judge_bind_ext fun bytes _ => ?_
    by_cases hnone : (fittingLength start bytes.length).toNat = 0
    · rw [if_pos hnone, if_pos hnone]
    · -- the bytes that are taken are as many as fit
      have hcount : (fittingLength start bytes.length).toNat =
          min bytes.length (diskSize - start) := toNat_fittingLength
      have hroom : start + (fittingLength start bytes.length).toNat ≤ diskSize := by omega
      have hlength : (bytes.take (fittingLength start bytes.length).toNat).length =
          (fittingLength start bytes.length).toNat := by
        rw [List.length_take]
        omega
      rw [if_neg hnone, if_neg hnone, overwrite_eq hroom hlength]

theorem protect_eq (s : Sector) (on : Bool) :
    protect flaw (.int s.val) on = Storage.protect s on := by
  funext c h
  unfold protect
  rw [indexOf, Op.lift_ok_bind_run, sectorAt_val, Op.lift_ok_bind_run]

theorem clear_eq (s : Sector) : clear flaw (.int s.val) = Storage.clear s := by
  funext c h
  unfold clear Storage.clear
  rw [indexOf, Op.lift_ok_bind_run, sectorAt_val, Op.lift_ok_bind_run, Op.device_bind_run,
    Op.device_bind_run]
  split
  · rfl
  · have hlength : Storage.zeros.length = sectorSize := List.length_replicate
    rw [Op.device_bind_run, assign_sector s hlength, Op.lift_ok_bind_run]
    exact Op.updateDevice_ext rfl

theorem lock_eq (sector : Value) : lock flaw sector = Storage.lock sector := by
  unfold lock Storage.lock
  refine Op.judge_bind_ext fun s hs => ?_
  rw [Sector.eq_int_of_ofValue hs, protect_eq]

theorem unlock_eq (sector key : Value) : unlock flaw sector key = Storage.unlock sector key := by
  unfold unlock Storage.unlock
  refine Op.judge_bind_ext fun s hs => ?_
  rw [Sector.eq_int_of_ofValue hs, protect_eq]

theorem erase_eq (sector : Value) : erase flaw sector = Storage.erase sector := by
  unfold erase Storage.erase
  refine Op.judge_bind_ext fun s hs => ?_
  rw [Sector.eq_int_of_ofValue hs, clear_eq]

/-! ## §5 The mirror -/

theorem copyOut_eq (s : Sector) : copyOut flaw (.int s.val) = Storage.copyOut s := by
  unfold copyOut Storage.copyOut
  congr 1
  funext c h
  rw [indexOf, Op.lift_ok_bind_run, Op.device_bind_run, Op.device_bind_run, slice_sector]
  rfl

theorem deliver_eq (s : Sector) {content : Bytes} (hlength : content.length = sectorSize) :
    (do
      deliver flaw (.int s.val) content
      Op.tell (.mirrored s)) = Mirror.deliver s content := by
  unfold deliver Mirror.deliver
  congr 2
  funext c h
  rw [indexOf, Op.lift_ok_bind_run, Op.device_bind_run, assign_sector s hlength,
    Op.lift_ok_bind_run]
  exact Op.updateDevice_ext rfl

/-- What is judged to be the content of a sector is as long as one. -/
theorem length_of_sectorBytes {data : Value} {content : Bytes}
    (hcontent : Mirror.sectorBytes data = .ok content) : content.length = sectorSize := by
  obtain ⟨bytes, -, hsize, rfl⟩ := Mirror.sectorBytes_eq_ok_iff.mp hcontent
  rw [List.length_take, Nat.min_eq_left hsize]

theorem store_eq (sector data : Value) : store flaw sector data = Mirror.store sector data := by
  unfold store Mirror.store
  refine Op.judge_bind_ext fun s hs => Op.judge_bind_ext fun content hcontent => ?_
  rw [Sector.eq_int_of_ofValue hs, deliver_eq s (length_of_sectorBytes hcontent)]

theorem sectorBytes_of_length {kind : BytesKind} {content : Bytes}
    (hlength : content.length = sectorSize) :
    Mirror.sectorBytes (.bytes kind content) = .ok content :=
  Mirror.sectorBytes_eq_ok_iff.mpr ⟨content, rfl, Nat.le_of_eq hlength.symm,
    (List.take_of_length_le (Nat.le_of_eq hlength)).symm⟩

/-- What was copied out of a buffer passes for the content of a sector. -/
theorem capture_eq (sector : Value) : capture flaw sector = Mirror.capture sector := by
  unfold capture Mirror.capture
  refine Op.judge_bind_ext fun s hs => ?_
  rw [Sector.eq_int_of_ofValue hs, copyOut_eq]
  funext c h
  refine Op.bind_ext_of_ok fun content hcontent => ?_
  have hlength : content.length = sectorSize := by
    rw [Storage.eq_sector_of_copyOut hcontent, Image.length_sector]
  rw [store_eq, Mirror.store, Sector.ofValue_val, Op.lift_ok_bind_run,
    sectorBytes_of_length hlength, Op.lift_ok_bind_run]

/-! ## §6 Handles -/

theorem atCursor_read (index : Nat) (length : Value) :
    atCursor index (read flaw · length) List.length = Stream.read index length := by
  simp only [read_eq]
  rfl

theorem atCursor_write (index : Nat) (data : Value) :
    atCursor index (write flaw · data) id = Stream.write index data := by
  simp only [write_eq]
  rfl

end Strict

theorem HandleOperation.strict_eq (flaw : Failure) (index : Nat) (op : HandleOperation) :
    op.strict flaw index = op.perform index := by
  cases op with
  | read length => rw [strict, Strict.atCursor_read, perform]
  | write data => rw [strict, Strict.atCursor_write, perform]
  | pread length offset =>
    rw [strict, Strict.read_eq]
    rfl
  | pwrite data offset =>
    rw [strict, Strict.write_eq]
    rfl
  | _ => rfl

/-- **No access is out of bounds**: with every access checked the operations are the same, whatever
a flaw would be. -/
theorem Operation.strict_eq (flaw : Failure) (op : Operation) : op.strict flaw = op.perform := by
  cases op with
  | handle index op => exact op.strict_eq flaw index
  | read offset length => rw [strict, Strict.read_eq, perform]
  | write offset data => rw [strict, Strict.write_eq, perform]
  | lock sector => rw [strict, Strict.lock_eq, perform]
  | unlock sector key => rw [strict, Strict.unlock_eq, perform]
  | erase sector => rw [strict, Strict.erase_eq, perform]
  | capture sector => rw [strict, Strict.capture_eq, perform]
  | store sector data => rw [strict, Strict.store_eq, perform]
  | _ => rfl

end SectorDisk
