import SectorDisk.Proofs.Write

/-!
# Erasing as writing zeros

Erasing a sector and writing a sector of zeros to its place take different ways: the one looks up
the protection of the sector, the other one cuts off its data at the end of the disk and looks for
protected sectors among those that it touches.  On every host and under all circumstances they end
alike (`Storage.erase_alike`): both succeed or both fail, for reasons of the same kind, and leave
the same device.

Where no sector is named there is nothing to erase, protect, copy or store, and every operation on a
sector says so before it does anything else (`Operation.Names.refused`).
-/

namespace SectorDisk

variable {α β α' β' : Type} {c : Circumstance} {h : Host} {s : Sector}

/-! ## §1 Runs that end alike -/

/-- Both results are successes, or both are failures of the same kind. -/
inductive SameVerdict : Except Failure α → Except Failure β → Prop
  | succeeded {a b} : SameVerdict (.ok a) (.ok b)
  | failed {e e'} (hkind : e'.kind = e.kind) : SameVerdict (.error e) (.error e')

/-- Two runs both succeed, or both fail for reasons of the same kind, and leave the same device. -/
structure EndAlike (out : Except Failure α × Host) (out' : Except Failure β × Host) : Prop where
  verdict : SameVerdict out.1 out'.1
  device : out'.2.device = out.2.device

namespace EndAlike

variable {op : Op α} {op' : Op β}

/-- What comes last succeeds and leaves the device alone. -/
theorem last {next : α → Op α'} {next' : β → Op β'} (halike : EndAlike (op c h) (op' c h))
    (hlast : ∀ a g, ∃ a' g', next a c g = (.ok a', g') ∧ g'.device = g.device)
    (hlast' : ∀ b g, ∃ b' g', next' b c g = (.ok b', g') ∧ g'.device = g.device) :
    EndAlike ((op >>= next) c h) ((op' >>= next') c h) := by
  obtain ⟨hverdict, hdevice⟩ := halike
  cases hr : (op c h).1 with
  | ok a =>
    cases hr' : (op' c h).1 with
    | error e' =>
      rw [hr, hr'] at hverdict
      cases hverdict
    | ok b =>
      obtain ⟨a', g, hnext, hsame⟩ := hlast a (op c h).2
      obtain ⟨b', g', hnext', hsame'⟩ := hlast' b (op' c h).2
      rw [Op.bind_of_ok hr, Op.bind_of_ok hr', hnext, hnext']
      exact ⟨.succeeded, (hsame'.trans hdevice).trans hsame.symm⟩
  | error e =>
    cases hr' : (op' c h).1 with
    | ok b =>
      rw [hr, hr'] at hverdict
      cases hverdict
    | error e' =>
      rw [hr, hr'] at hverdict
      cases hverdict with
      | failed hkind =>
        rw [Op.bind_of_error hr, Op.bind_of_error hr']
        exact ⟨.failed hkind, hdevice⟩

theorem giving (halike : EndAlike (op c h) (op' c h)) (f : α → Value) (f' : β → Value) :
    EndAlike (op.giving f c h) (op'.giving f' c h) :=
  halike.last (fun _ g => ⟨_, g, rfl, rfl⟩) fun _ g => ⟨_, g, rfl, rfl⟩

end EndAlike

/-! ## §2 Sections for different purposes -/

namespace Op

variable {b : Buffer} {p : String}

theorem retry_purpose (b : Buffer) (p q : String) (ticket : Nat) (c : Circumstance) (h : Host) :
    (∃ g, retry b p ticket c h = (.ok (), g) ∧ retry b q ticket c h = (.ok (), g)) ∨
      ∃ why g, retry b p ticket c h = (.error (.interrupted why b.lockName (some p)), g) ∧
        retry b q ticket c h = (.error (.interrupted why b.lockName (some q)), g) := by
  unfold retry
  cases (h.device.lockOf b).attempt .caller ticket c.cancelledOnWait with
  | granted lock => exact .inl ⟨_, rfl, rfl⟩
  | refused why => exact .inr ⟨why, _, rfl, rfl⟩
  | waits => exact .inr ⟨.interrupted, _, rfl, rfl⟩

/-- What a lock is asked for is told when the wait for it is given up, and nowhere else. -/
theorem acquire_purpose (b : Buffer) (p q : String) (c : Circumstance) (h : Host) :
    (∃ g, acquire b p c h = (.ok (), g) ∧ acquire b q c h = (.ok (), g)) ∨
      ∃ e e' g, acquire b p c h = (.error e, g) ∧ acquire b q c h = (.error e', g) ∧
        e'.kind = e.kind := by
  cases howner : (h.device.lockOf b).owner with
  | none => exact .inl ⟨_, acquire_of_none howner, acquire_of_none howner⟩
  | some party =>
    cases party with
    | caller => exact .inr ⟨_, _, _, acquire_of_caller howner, acquire_of_caller howner, rfl⟩
    | rival =>
      rw [acquire_of_rival howner, acquire_of_rival howner]
      -- a wait that was cancelled before it began is told at once, any other at the second look
      split
      · exact .inr ⟨_, _, _, rfl, rfl, rfl⟩
      · rcases retry_purpose b p q (h.device.lockOf b).interruptions c
            ((asking b h).settled c.wake) with ⟨g, hp, hq⟩ | ⟨why, g, hp, hq⟩
        · exact .inl ⟨g, hp, hq⟩
        · exact .inr ⟨_, _, g, hp, hq, by cases why <;> rfl⟩

/-- Sections for different purposes end alike where their bodies do. -/
theorem exclusively_alike {body : Op α} {body' : Op β} (b : Buffer) (p q : String)
    (hbody : ∀ held, EndAlike (body c held) (body' c held)) :
    EndAlike (exclusively b p body c h) (exclusively b q body' c h) := by
  rw [exclusively_eq, exclusively_eq]
  rcases acquire_purpose b p q c h with ⟨g, hp, hq⟩ | ⟨e, e', g, hp, hq, hkind⟩
  · rw [bind_of_ok (congrArg Prod.fst hp), bind_of_ok (congrArg Prod.fst hq), hp, hq]
    obtain ⟨hverdict, hdevice⟩ := hbody g
    refine ⟨hverdict, ?_⟩
    simp only [releasing, release, Host.updateDevice_device, hdevice]
  · rw [bind_of_error (congrArg Prod.fst hp), bind_of_error (congrArg Prod.fst hq), hp, hq]
    exact ⟨.failed hkind, rfl⟩

/-- A section that is not entered fails for the sake of its lock. -/
theorem exclusively_of_not_admits (p : String) (body : Op α) (hnot : ¬ h.device.Admits b c) :
    (h.device.lockOf b).owner = some .caller ∧
        (exclusively b p body c h).1 = .error (.reentered b.lockName) ∨
      (exclusively b p body c h).1 = .error (.interrupted c.refusal b.lockName (some p)) := by
  rw [exclusively_eq]
  cases howner : (h.device.lockOf b).owner with
  | none => exact absurd (.inl howner) hnot
  | some party =>
    cases party with
    | caller =>
      have hrefused : (acquire b p c h).1 = .error (.reentered b.lockName) := by
        rw [acquire_of_caller howner]
      exact .inl ⟨rfl, by rw [bind_of_error hrefused]⟩
    | rival =>
      have hkept : ¬ c.Releases := fun hreleases => hnot (.inr ⟨howner, hreleases⟩)
      exact .inr (by rw [bind_of_error (acquire_of_kept p howner hkept).2])

/-- A section whose body is refused by the protection of a sector: that it is, or that it is not,
shows in the end just where the lock is to be had. -/
theorem guarded_section {body : Op Unit} {change : Change} (hbody : ∀ held : Host,
      (body c held).1 =
        if held.device.protection.bit s = true then .error (.locked s change) else .ok ()) :
    ((exclusively .primary p body c h).1 = .error (.locked s change) ↔
        h.device.Admits .primary c ∧ h.device.protection.bit s = true) ∧
      ((exclusively .primary p body c h).1 = .ok () ↔
        h.device.Admits .primary c ∧ h.device.protection.bit s = false) := by
  by_cases hadmits : h.device.Admits .primary c
  · obtain ⟨k, held, hadmitted, hrun⟩ : ∃ k held, Admitted .primary c h held k ∧
        exclusively .primary p body c h = ((body c held).1, release .primary (body c held).2) :=
      exclusively_of_admits hadmits
    -- under the lock the protection is that of the host that was found
    have hprotection : held.device.protection = h.device.protection :=
      congrArg Store.protection hadmitted.store
    rw [hrun, hbody, hprotection]
    cases h.device.protection.bit s <;> simp [hadmits]
  · rcases exclusively_of_not_admits p body hadmits with ⟨-, hfail⟩ | hfail <;>
      simp [hfail, hadmits]

theorem bind_result {op : Op α} {next : α → Op β} {f : α → β}
    (hnext : ∀ a g, (next a c g).1 = .ok (f a)) :
    ((op >>= next) c h).1 = (op c h).1.map f := by
  cases hr : (op c h).1 with
  | error e => rw [bind_of_error hr, Except.map]
  | ok a => rw [bind_of_ok hr, hnext, Except.map]

end Op

/-! ## §3 Erasing -/

namespace Storage

/-- A sector alone holds the bytes of a stretch that is its own. -/
theorem guards_sector_iff {d : Device} {t : Sector} :
    d.Guards t s.start zeros.length ↔ t = s ∧ d.protection.bit s = true := by
  have hlength : zeros.length = sectorSize := List.length_replicate
  constructor
  · rintro ⟨hbit, i, hlow, hhigh, ht⟩
    obtain rfl := Sector.eq_of_covers ht ⟨hlow, hlength ▸ hhigh⟩
    exact ⟨rfl, hbit⟩
  · rintro ⟨rfl, hbit⟩
    have hsize : 0 < sectorSize := by decide
    exact ⟨hbit, t.start, Nat.le_refl _, by omega, Nat.le_refl _, by omega⟩

theorem firstProtected?_sector (d : Device) (s : Sector) :
    d.firstProtected? (span s.start zeros.length) =
      if d.protection.bit s = true then some s else none := by
  split
  · rename_i hbit
    rw [Device.firstProtected?_eq_some_iff]
    exact ⟨guards_sector_iff.mpr ⟨rfl, hbit⟩, fun t ht => Fin.ge_of_eq (guards_sector_iff.mp ht).1⟩
  · rename_i hbit
    rw [Device.firstProtected?_eq_none_iff]
    exact fun t ht => hbit (guards_sector_iff.mp ht).2

theorem zeros_fit (s : Sector) (kind : BytesKind) :
    Fits (.int s.start) (.bytes kind zeros) s.start zeros := by
  have hend := s.start_add_le
  have hsize : 0 < sectorSize := by decide
  refine ⟨rfl, by omega, zeros, rfl, ?_⟩
  rw [List.take_of_length_le]
  rw [zeros, List.length_replicate]
  omega

theorem zeros_write_eq (s : Sector) (kind : BytesKind) :
    write (.int s.start) (.bytes kind zeros) = (do
      Op.exclusively .primary "write" (overwrite s.start zeros)
      return zeros.length) :=
  (zeros_fit s kind).write_eq (List.cons_ne_nil _ _)

/-- Under the lock, clearing a sector and laying zeros over it end alike. -/
theorem clear_alike (c : Circumstance) (held : Host) (s : Sector) :
    EndAlike (clear s c held) (overwrite s.start zeros c held) := by
  unfold clear overwrite
  rw [Op.device_bind_run, Op.device_bind_run, firstProtected?_sector]
  split
  · exact ⟨.failed rfl, rfl⟩
  · exact ⟨.succeeded, rfl⟩

theorem clear_result (c : Circumstance) (held : Host) (s : Sector) :
    (clear s c held).1 =
      if held.device.protection.bit s = true then .error (.locked s .erase) else .ok () := by
  unfold clear
  rw [Op.device_bind_run]
  split <;> rfl

theorem overwrite_zeros_result (c : Circumstance) (held : Host) (s : Sector) :
    (overwrite s.start zeros c held).1 =
      if held.device.protection.bit s = true then .error (.locked s .write) else .ok () := by
  unfold overwrite
  rw [Op.device_bind_run, firstProtected?_sector]
  split <;> rfl

/-- **Erasing a sector ends as writing zeros to it does.** -/
theorem erase_alike (c : Circumstance) (h : Host) (s : Sector) (kind : BytesKind) :
    EndAlike (erase (.int s.val) c h) (write (.int s.start) (.bytes kind zeros) c h) := by
  rw [zeros_write_eq]
  unfold erase
  rw [Sector.ofValue_val, Op.lift_ok_bind_run]
  apply EndAlike.last
  · exact Op.exclusively_alike .primary "erase" "write" fun held => clear_alike c held s
  · intro _ g
    exact ⟨(), g.tell (.erased s), rfl, rfl⟩
  · intro _ g
    exact ⟨_, g, rfl, rfl⟩

theorem erase_result (c : Circumstance) (h : Host) (s : Sector) :
    ((Operation.erase (.int s.val)).perform c h).1 =
      (Op.exclusively .primary "erase" (clear s) c h).1.map unitValue := by
  have hrun : erase (.int s.val) c h =
      (Op.exclusively .primary "erase" (clear s) >>= fun _ => Op.tell (.erased s)) c h := by
    unfold erase
    rw [Sector.ofValue_val, Op.lift_ok_bind_run]
  rw [Operation.perform, Op.giving_run, hrun, Op.bind_result (f := id) fun _ _ => rfl]
  cases (Op.exclusively .primary "erase" (clear s) c h).1 <;> rfl

theorem zeros_write_result (c : Circumstance) (h : Host) (s : Sector) (kind : BytesKind) :
    ((Operation.write (.int s.start) (.bytes kind zeros)).perform c h).1 =
      (Op.exclusively .primary "write" (overwrite s.start zeros) c h).1.map
        fun _ => countValue zeros.length := by
  rw [Operation.perform, Op.giving_run, zeros_write_eq,
    Op.bind_result (f := fun _ => zeros.length) fun _ _ => rfl]
  cases (Op.exclusively .primary "write" (overwrite s.start zeros) c h).1 <;> rfl

/-- Erasing a sector is writing zeros to it.  Both end alike, and they succeed just where the lock
is to be had and the sector is not protected; if it is, both say so.  Once the sector is erased it
is all zeros, and nothing else in the store has changed. -/
structure ErasesAsZeros (c : Circumstance) (h : Host) (s : Sector) (kind : BytesKind) : Prop where
  alike : EndAlike ((Operation.erase (.int s.val)).perform c h)
    ((Operation.write (.int s.start) (.bytes kind zeros)).perform c h)
  succeeds : (∃ v, ((Operation.erase (.int s.val)).perform c h).1 = .ok v) ↔
    h.device.Admits .primary c ∧ h.device.protection.bit s = false
  refused : ((Operation.erase (.int s.val)).perform c h).1 = .error (.locked s .erase) ↔
    h.device.Admits .primary c ∧ h.device.protection.bit s = true
  refused' : ((Operation.write (.int s.start) (.bytes kind zeros)).perform c h).1 =
      .error (.locked s .write) ↔
    h.device.Admits .primary c ∧ h.device.protection.bit s = true
  zeroed : ∀ v, ((Operation.erase (.int s.val)).perform c h).1 = .ok v →
    ((Operation.erase (.int s.val)).perform c h).2.device.primary.sector s = zeros
  others : ∀ v, ((Operation.erase (.int s.val)).perform c h).1 = .ok v → ∀ t, t ≠ s →
    ((Operation.erase (.int s.val)).perform c h).2.device.primary.sector t =
      h.device.primary.sector t
  rest : ∀ v, ((Operation.erase (.int s.val)).perform c h).1 = .ok v →
    ((Operation.erase (.int s.val)).perform c h).2.device.store = { h.device.store with
      primary := ((Operation.erase (.int s.val)).perform c h).2.device.primary }

private theorem map_eq_error_iff {r : Except Failure α} {f : α → β} {e : Failure} :
    r.map f = .error e ↔ r = .error e := by
  cases r <;> simp [Except.map]

private theorem exists_map_eq_ok_iff {r : Except Failure Unit} {f : Unit → β} :
    (∃ v, r.map f = .ok v) ↔ r = .ok () := by
  cases r <;> simp [Except.map]

theorem erase_store {v : Value} (hok : ((Operation.erase (.int s.val)).perform c h).1 = .ok v) :
    ((Operation.erase (.int s.val)).perform c h).2.device.store = { h.device.store with
      primary := h.device.primary.splice s.start zeros } := by
  rcases ((Operation.erase (.int s.val)).perform_outcome c h).store_cases with
    ⟨e, hfail, -⟩ | ⟨v', -, hstore, -⟩
  · cases hfail.symm.trans hok
  · rw [hstore, Operation.deeds, Deed.onSector_of_ok (Sector.ofValue_val s)]
    rfl

theorem erasesAsZeros (c : Circumstance) (h : Host) (s : Sector) (kind : BytesKind) :
    ErasesAsZeros c h s kind := by
  have hlength : zeros.length = sectorSize := List.length_replicate
  have hclear := Op.guarded_section (h := h) (p := "erase") (clear_result c · s)
  have hwrite := Op.guarded_section (h := h) (p := "write") (overwrite_zeros_result c · s)
  have hprimary {v : Value} (hok : ((Operation.erase (.int s.val)).perform c h).1 = .ok v) :
      ((Operation.erase (.int s.val)).perform c h).2.device.primary =
        h.device.primary.splice s.start zeros :=
    congrArg Store.primary (erase_store hok)
  refine ⟨(erase_alike c h s kind).giving _ _, ?succeeds, ?refused, ?refused', ?zeroed, ?others,
    ?rest⟩
  case succeeds => rw [erase_result, exists_map_eq_ok_iff, hclear.2]
  case refused => rw [erase_result, map_eq_error_iff, hclear.1]
  case refused' => rw [zeros_write_result, map_eq_error_iff, hwrite.1]
  case zeroed =>
    intro v hok
    rw [hprimary hok, Image.sector_splice_self _ s hlength]
  case others =>
    intro v hok t ht
    rw [hprimary hok, Image.sector_splice_of_ne _ hlength ht]
  case rest =>
    intro v hok
    rw [hprimary hok, erase_store hok]

end Storage

/-! ## §4 Sectors that do not exist -/

/-- The operations on the sector that a value names. -/
inductive Operation.Names (v : Value) : Operation → Prop
  | lock : Names v (.lock v)
  | unlock {key} : Names v (.unlock v key)
  | erase : Names v (.erase v)
  | capture : Names v (.capture v)
  | store {data} : Names v (.store v data)

/-- Where a value names no sector, an operation on it fails for that, whatever its other arguments
are, and nothing at all has happened. -/
theorem Operation.Names.refused {v : Value} {op : Operation} (hop : op.Names v)
    (hnone : ∀ s : Sector, v ≠ .int s.val) (c : Circumstance) (h : Host) :
    ∃ e, op.perform c h = (.error e, h) ∧ e.kind = .invalidSector := by
  cases hv : Sector.ofValue v with
  | ok s => exact absurd (Sector.eq_int_of_ofValue hv) (hnone s)
  | error e =>
    refine ⟨e, ?_, Sector.ofValue_error hv⟩
    cases hop with
    | lock =>
      rw [perform, Storage.lock, hv]
      rfl
    | unlock =>
      rw [perform, Storage.unlock, hv]
      rfl
    | erase =>
      rw [perform, Storage.erase, hv]
      rfl
    | capture =>
      rw [perform, Mirror.capture, hv]
      rfl
    | store =>
      rw [perform, Mirror.store, hv]
      rfl

/-- **Erasing is writing zeros**, and it takes a sector to do either. -/
theorem Storage.erasing (c : Circumstance) (h : Host) :
    (∀ s kind, ErasesAsZeros c h s kind) ∧
      ∀ v : Value, (∀ s : Sector, v ≠ .int s.val) → ∀ op : Operation, op.Names v →
        ∃ e, op.perform c h = (.error e, h) ∧ e.kind = .invalidSector :=
  ⟨erasesAsZeros c h, fun _ hnone _ hop => hop.refused hnone c h⟩

/-- The protected sector is not erased, its neighbour is, and a truth value names neither. -/
theorem Storage.erasing_fenced :
    ErasesAsZeros {} fenced 1 .view ∧
      ((Operation.erase (.int 1)).perform {} fenced).1 = .error (.locked 1 .erase) ∧
      ((Operation.erase (.int 2)).perform {} fenced).1 = .ok .none ∧
      ∃ e, (Operation.store (.bool true) (.octets zeros)).perform {} fenced = (.error e, fenced) ∧
        e.kind = .invalidSector := by
  have hbool : ∀ s : Sector, Value.bool true ≠ .int s.val := by
    intro s hs
    cases hs
  exact ⟨(erasing {} fenced).1 1 .view, rfl, rfl, (erasing {} fenced).2 _ hbool _ .store⟩

end SectorDisk
