import SectorDisk.Proofs.Bounds
import SectorDisk.Proofs.Erasing
import SectorDisk.Proofs.Requests.Order

/-!
# Failures on the data path

The operations on the bytes and the protection of a device fail in six ways only: for a sector, an
offset, a length or data that they cannot use, for a protected sector, for a key, for want of space
and for a wait that was given up.  Only a caller who owned the lock all along would see another
failure, and on a device that was just started nobody does: what an operation takes it lets go, on
every way out.

There is one exception.  Data for a sector of the mirror that lies in several pieces is refused with
a raw failure (`Mirror.Scattered`), where a write refuses it as an argument.
-/

namespace SectorDisk

variable {α β : Type} {c : Circumstance} {h : Host} {e : Failure} {owned : List Buffer}

/-! ## §1 The failures -/

/-- The kinds of failure on the data path. -/
def Kind.ofData : List Kind :=
  [invalidSector, sectorLocked, permissionDenied, outOfSpace, interrupted, invalidArgument]

/-- The operations on the bytes and the protection of a device. -/
inductive Operation.OnDataPath : Operation → Prop
  | read {offset length} : OnDataPath (.read offset length)
  | write {offset data} : OnDataPath (.write offset data)
  | lock {sector} : OnDataPath (.lock sector)
  | unlock {sector key} : OnDataPath (.unlock sector key)
  | protections : OnDataPath .protections
  | erase {sector} : OnDataPath (.erase sector)
  | capture {sector} : OnDataPath (.capture sector)
  | primarySnapshot : OnDataPath .primarySnapshot
  | store {sector data} : OnDataPath (.store sector data)
  | mirrorSnapshot : OnDataPath .mirrorSnapshot
  | readOn {index length} : OnDataPath (.handle index (.read length))
  | writeOn {index data} : OnDataPath (.handle index (.write data))
  | readAt {index length offset} : OnDataPath (.handle index (.pread length offset))
  | writeAt {index data offset} : OnDataPath (.handle index (.pwrite data offset))

/-- A failure is of a kind of the data path, unless it is about a lock that the caller owned. -/
def Reports (owned : List Buffer) (r : Except Failure α) : Prop :=
  ∀ e, r = .error e → e.kind ∈ Kind.ofData ∨ ∃ b ∈ owned, e = .reentered b.lockName

namespace Reports

variable {r : Except Failure α} {op : Op α}

theorem result (a : α) : Reports owned (.ok a) := by
  intro e hfail
  cases hfail

theorem failed (hkind : e.kind ∈ Kind.ofData) :
    Reports owned (.error e : Except Failure α) := by
  intro e' hfail
  cases hfail
  exact .inl hkind

theorem map {f : α → β} (hop : Reports owned r) : Reports owned (r.map f) := by
  intro e hfail
  cases r with
  | ok a => cases hfail
  | error e' =>
    cases hfail
    exact hop e rfl

theorem giving {f : α → Value} (hop : Reports owned (op c h).1) :
    Reports owned (op.giving f c h).1 := by
  rw [Op.giving_run]
  exact hop.map

/-- A judgement goes first. -/
theorem judge {next : α → Op β} (hkind : ∀ e, r = .error e → e.kind ∈ Kind.ofData)
    (hrest : ∀ a, r = .ok a → Reports owned (next a c h).1) :
    Reports owned ((liftM r >>= next : Op β) c h).1 := by
  cases r with
  | error e => exact failed (hkind e rfl)
  | ok a => exact hrest a rfl

theorem andThen {next : α → Op β} (hop : Reports owned (op c h).1)
    (hrest : ∀ a, (op c h).1 = .ok a → Reports owned (next a c (op c h).2).1) :
    Reports owned ((op >>= next) c h).1 := by
  cases hr : (op c h).1 with
  | error e =>
    rw [Op.bind_of_error hr]
    intro e' hfail
    cases hfail
    exact hop e hr
  | ok a =>
    rw [Op.bind_of_ok hr]
    exact hrest a hr

/-- What comes last never fails. -/
theorem last {next : α → Op β} (hop : Reports owned (op c h).1)
    (hlast : ∀ a g, ∃ b, (next a c g).1 = .ok b) : Reports owned ((op >>= next) c h).1 := by
  apply hop.andThen
  intro a _
  obtain ⟨b, hb⟩ := hlast a (op c h).2
  rw [hb]
  exact .result b

/-- A section whose body fails in kinds of the data path. -/
theorem exclusively {body : Op α} (b : Buffer) (p : String)
    (hbody : ∀ held e, (body c held).1 = .error e → e.kind ∈ Kind.ofData) :
    Reports (h.device.ownedBy .caller) (Op.exclusively b p body c h).1 := by
  intro e hfail
  by_cases hadmits : h.device.Admits b c
  · -- the lock is had, and letting it go adds no failure to those of the body
    obtain ⟨k, held, -, hrun⟩ := Op.exclusively_of_admits hadmits
    rw [hrun] at hfail
    exact .inl (hbody held e hfail)
  · -- the lock was the caller's, or the wait for it was given up
    rcases Op.exclusively_of_not_admits p body hadmits with ⟨howner, hrefused⟩ | hrefused
    · cases hfail.symm.trans hrefused
      refine .inr ⟨b, List.mem_filter.mpr ⟨?_, decide_eq_true howner⟩, rfl⟩
      cases b <;> simp only [List.mem_cons, true_or, or_true]
    · cases hfail.symm.trans hrefused
      exact .inl (show Kind.interrupted ∈ Kind.ofData by decide)

/-- A look at the device. -/
theorem inspect (b : Buffer) (p : String) (look : Device → α) :
    Reports (h.device.ownedBy .caller)
      (Op.exclusively b p (do return look (← Op.device)) c h).1 := by
  apply Reports.exclusively
  intro held e hfail
  cases hfail

/-- A change of the device. -/
theorem change (b : Buffer) (p : String) (f : Device → Device) :
    Reports (h.device.ownedBy .caller) (Op.exclusively b p (Op.updateDevice f) c h).1 := by
  apply Reports.exclusively
  intro held e hfail
  cases hfail

end Reports

theorem natural_error_ofData {argument : String} {v : Value}
    (he : natural argument v = .error e) : e.kind ∈ Kind.ofData := by
  have hkind : Kind.invalidArgument ∈ Kind.ofData := by decide
  rcases natural_error he with rfl | rfl
  · exact hkind
  · exact hkind

theorem Sector.ofValue_error_ofData {v : Value} (he : Sector.ofValue v = .error e) :
    e.kind ∈ Kind.ofData := by
  rw [Sector.ofValue_error he]
  decide

/-! ## §2 The primary buffer -/

namespace Storage

theorem read_reports (offset length : Value) :
    Reports (h.device.ownedBy .caller) (read offset length c h).1 := by
  unfold read
  apply Reports.judge fun _ => natural_error_ofData
  intro start _
  apply Reports.judge fun _ => natural_error_ofData
  intro size _
  by_cases hnone : (fittingLength start size).toNat = 0
  · rw [if_pos hnone]
    exact .result []
  · rw [if_neg hnone]
    exact .inspect .primary "read" _

theorem overwrite_error {start : Nat} {data : Bytes}
    (hfail : (overwrite start data c h).1 = .error e) : e.kind ∈ Kind.ofData := by
  unfold overwrite at hfail
  rw [Op.device_bind_run] at hfail
  -- laying bytes over a buffer never fails, so that a sector must have been found
  cases hfirst : h.device.firstProtected? (span start data.length) with
  | some s =>
    rw [hfirst] at hfail
    cases hfail
    exact show Kind.sectorLocked ∈ Kind.ofData by decide
  | none =>
    rw [hfirst] at hfail
    cases hfail

theorem bytesToWrite_error {data : Value} (hfail : bytesToWrite data = .error e) :
    e.kind ∈ Kind.ofData := by
  cases hdata : data.bytes? with
  | some bytes =>
    rw [bytesToWrite_of_some hdata] at hfail
    cases hfail
  | none =>
    rw [bytesToWrite_of_none hdata] at hfail
    cases hfail
    rw [dataFailure_kind]
    decide

theorem write_reports (offset data : Value) :
    Reports (h.device.ownedBy .caller) (write offset data c h).1 := by
  unfold write
  apply Reports.judge fun _ => natural_error_ofData
  intro start _
  by_cases hpast : diskSize ≤ start
  · rw [if_pos hpast, Op.fail_bind_run]
    exact .failed (show Kind.outOfSpace ∈ Kind.ofData by decide)
  rw [if_neg hpast]
  apply Reports.judge fun _ => bytesToWrite_error
  intro bytes _
  by_cases hnone : (fittingLength start bytes.length).toNat = 0
  · rw [if_pos hnone]
    exact .result 0
  · rw [if_neg hnone]
    apply Reports.last
    · exact .exclusively .primary "write" fun held e => overwrite_error
    · exact fun _ _ => ⟨_, rfl⟩

/-- Judging a sector, a section of its own and a word to the operator. -/
theorem sector_reports {sector : Value} {body : Sector → Op Unit} {p : String}
    {notice : Sector → Notice}
    (hbody : ∀ s held e, (body s c held).1 = .error e → e.kind ∈ Kind.ofData) :
    Reports (h.device.ownedBy .caller) ((do
      let s ← Sector.ofValue sector
      Op.exclusively .primary p (body s)
      Op.tell (notice s) : Op Unit) c h).1 := by
  apply Reports.judge fun _ => Sector.ofValue_error_ofData
  intro s _
  apply Reports.last
  · exact .exclusively .primary p (hbody s)
  · exact fun _ _ => ⟨(), rfl⟩

theorem lock_reports (sector : Value) :
    Reports (h.device.ownedBy .caller) (lock sector c h).1 := by
  apply sector_reports
  intro s held e hfail
  cases hfail

theorem unlock_reports (sector key : Value) :
    Reports (h.device.ownedBy .caller) (unlock sector key c h).1 := by
  unfold unlock
  apply Reports.judge fun _ => Sector.ofValue_error_ofData
  intro s _
  rw [Op.device_bind_run]
  -- what is no key is refused before the lock is asked for
  by_cases hkey : h.device.keys.accepts key = true
  · rw [if_pos hkey]
    apply Reports.last
    · exact .change .primary "unlock" _
    · exact fun _ _ => ⟨(), rfl⟩
  · rw [if_neg hkey]
    exact .failed (show Kind.permissionDenied ∈ Kind.ofData by decide)

theorem protections_reports : Reports (h.device.ownedBy .caller) (protections c h).1 :=
  .inspect .primary "get_lock_bitmap" _

theorem erase_reports (sector : Value) :
    Reports (h.device.ownedBy .caller) (erase sector c h).1 := by
  apply sector_reports
  intro s held e hfail
  rw [clear_result] at hfail
  split at hfail
  · cases hfail
    exact show Kind.sectorLocked ∈ Kind.ofData by decide
  · cases hfail

theorem snapshot_reports : Reports (h.device.ownedBy .caller) (snapshot c h).1 :=
  .inspect .primary "snapshot" _

end Storage

/-! ## §3 The mirror -/

namespace Mirror

theorem deliver_reports (s : Sector) (content : Bytes) :
    Reports (h.device.ownedBy .caller) (deliver s content c h).1 := by
  unfold deliver
  apply Reports.last
  · exact .change .mirror "mirror_sector" _
  · exact fun _ _ => ⟨(), rfl⟩

/-- Data for a sector is stored or refused as an argument, if it is not scattered. -/
theorem store_reports {sector data : Value}
    (hwhole : ∀ s : Sector, sector = .int s.val → ¬ Scattered data) :
    Reports (h.device.ownedBy .caller) (store sector data c h).1 := by
  unfold store
  apply Reports.judge fun _ => Sector.ofValue_error_ofData
  intro s hs
  apply Reports.judge
  · intro e he
    rcases sectorBytes_error he with hkind | ⟨-, hscattered⟩
    · rw [hkind]
      decide
    · exact absurd hscattered (hwhole s (Sector.eq_int_of_ofValue hs))
  · intro content _
    exact deliver_reports s content

theorem store_of_scattered {data : Value} (s : Sector) (hscattered : Scattered data) :
    store (.int s.val) data c h = (.error .mirrorSpaced, h) := by
  unfold store
  rw [Sector.ofValue_val, Op.lift_ok_bind_run, sectorBytes_of_scattered hscattered]
  rfl

/-- The copy leaves the caller with the locks that it owned, so that the delivery fails as it would
have failed at the start. -/
theorem capture_reports (sector : Value) :
    Reports (h.device.ownedBy .caller) (capture sector c h).1 := by
  unfold capture
  apply Reports.judge fun _ => Sector.ofValue_error_ofData
  intro s _
  apply Reports.andThen
  · exact .inspect .primary "mirror" _
  · intro content _
    -- the lock of the mirror is asked for on the host that the copy left
    rw [← (Storage.copyOut_outcome c h s).ownedBy_eq]
    exact deliver_reports s content

theorem snapshot_reports : Reports (h.device.ownedBy .caller) (snapshot c h).1 :=
  .inspect .mirror "snapshot" _

end Mirror

/-! ## §4 Handles -/

namespace Stream

theorem usable_error {d : Device} {index : Nat} (hfail : d.usable index = .error e) :
    e.kind ∈ Kind.ofData := by
  have hkind : Kind.invalidArgument ∈ Kind.ofData := by decide
  unfold Device.usable at hfail
  split at hfail
  · cases hfail
    exact hkind
  · split at hfail
    · cases hfail
      exact hkind
    · cases hfail

/-- A handle is judged like an argument, before the transfer. -/
theorem check_reports {index : Nat} {next : Unit → Op α}
    (hrest : Reports owned (next () c h).1) : Reports owned ((check index >>= next) c h).1 := by
  apply Reports.andThen
  · rw [check_run]
    intro e hfail
    exact .inl (usable_error hfail)
  · intro _ _
    exact hrest

/-- A transfer at the cursor fails as the transfer does, since moving the cursor on never fails. -/
theorem transfer_reports {index : Nat} {op : Op α} {size : α → Nat}
    (hop : Reports owned (op c h).1) :
    Reports owned ((do
      let a ← op
      advance index (size a)
      return a : Op α) c h).1 := by
  apply hop.last
  intro a g
  have hmoved : (advance index (size a) c g).1 = .ok () := by rw [advance_run]
  rw [Op.bind_of_ok hmoved]
  exact ⟨a, rfl⟩

theorem read_reports (index : Nat) (length : Value) :
    Reports (h.device.ownedBy .caller) (read index length c h).1 := by
  apply check_reports
  rw [tell_bind_run]
  exact transfer_reports (Storage.read_reports _ length)

theorem write_reports (index : Nat) (data : Value) :
    Reports (h.device.ownedBy .caller) (write index data c h).1 := by
  apply check_reports
  rw [tell_bind_run]
  exact transfer_reports (Storage.write_reports _ data)

end Stream

/-! ## §5 Operations and runs -/

/-- The operation is to store scattered data as a sector. -/
def Operation.StoresScattered (op : Operation) : Prop :=
  ∃ (s : Sector) (data : Value), op = .store (.int s.val) data ∧ Mirror.Scattered data

theorem Operation.StoresScattered.perform_eq {op : Operation} (hop : op.StoresScattered)
    (c : Circumstance) (h : Host) : op.perform c h = (.error .mirrorSpaced, h) := by
  obtain ⟨s, data, rfl, hscattered⟩ := hop
  change (Mirror.store _ _).giving _ c h = _
  rw [Op.giving_run, Mirror.store_of_scattered s hscattered]
  rfl

/-- **Every operation on the data path** fails in its kinds, unless it stores scattered data or the
lock was the caller's. -/
theorem Operation.OnDataPath.reports {op : Operation} (hop : op.OnDataPath)
    (hwhole : ¬ op.StoresScattered) : Reports (h.device.ownedBy .caller) (op.perform c h).1 := by
  cases hop with
  | read => exact (Storage.read_reports _ _).giving
  | write => exact (Storage.write_reports _ _).giving
  | lock => exact (Storage.lock_reports _).giving
  | unlock => exact (Storage.unlock_reports _ _).giving
  | protections => exact Storage.protections_reports.giving
  | erase => exact (Storage.erase_reports _).giving
  | capture => exact (Mirror.capture_reports _).giving
  | primarySnapshot => exact Storage.snapshot_reports.giving
  | store =>
    refine (Mirror.store_reports ?_).giving
    rintro s rfl hscattered
    exact hwhole ⟨s, _, rfl, hscattered⟩
  | mirrorSnapshot => exact Mirror.snapshot_reports.giving
  | readOn => exact (Stream.read_reports _ _).giving
  | writeOn => exact (Stream.write_reports _ _).giving
  | readAt => exact (Stream.check_reports (Storage.read_reports _ _)).giving
  | writeAt => exact (Stream.check_reports (Storage.write_reports _ _)).giving

/-- Another thread takes no lock that the caller owns. -/
theorem Device.taken_caller (d : Device) (b b' : Buffer) :
    (d.taken b).status.owner b' = some .caller ↔ d.status.owner b' = some .caller := by
  unfold taken
  cases howner : (d.lockOf b).owner with
  | some party => rfl
  | none =>
    rw [lockOf_owner] at howner
    rw [setLock_status]
    cases b <;> cases b' <;> simp only [Status.owner] at howner <;>
      simp only [Status.owned, Status.owner, howner, reduceCtorEq, Option.some.injEq]

theorem Host.settled_ownedBy (h : Host) (wake : Option Wake) :
    (h.settled wake).device.ownedBy .caller = h.device.ownedBy .caller := by
  cases wake with
  | none => rfl
  | some w =>
    apply Device.ownedBy_caller_eq
    intro b
    rw [settled, woken_status, Status.woken_caller]

/-- **One step** leaves the caller with the locks that it owned. -/
theorem Host.step_ownedBy (h : Host) (step : Step) :
    (h.step step).device.ownedBy .caller = h.device.ownedBy .caller := by
  cases step with
  | operate c op =>
    -- what was to happen on waiting happens at the end at the latest
    rw [← (op.perform_outcome c h).ownedBy_eq]
    exact Host.settled_ownedBy _ c.wake
  | hold b => exact Device.ownedBy_caller_eq fun b' => h.device.taken_caller b b'
  | letGo b =>
    apply Device.ownedBy_caller_eq
    intro b'
    rw [step, updateDevice_device, Device.letGo_status, Status.letGo_caller]
  | interrupt b =>
    apply Device.ownedBy_caller_eq
    intro b'
    rw [step, updateDevice_device, Device.interrupted_status]
  | writeFile path content => exact congrArg (Device.ownedBy · .caller) (h.withFiles_device _)
  | makeDirectory path => exact congrArg (Device.ownedBy · .caller) (h.withFiles_device _)

/-- **Runs** leave the caller with the locks that it owned, and at the start that is none. -/
theorem Host.run_ownedBy (h : Host) (steps : List Step) :
    (h.run steps).device.ownedBy .caller = h.device.ownedBy .caller := by
  induction steps generalizing h with
  | nil => rfl
  | cons step steps ih => exact (ih (h.step step)).trans (h.step_ownedBy step)

theorem Host.start_ownedBy {keys : Value} {files : Files}
    (hstart : Host.start keys files = .ok h) : h.device.ownedBy .caller = [] := by
  obtain ⟨ring, hdevice⟩ := Host.start_device hstart
  rw [hdevice]
  rfl

/-- **The data path fails in documented ways.**  An operation on it does what it would do with every
access to bytes and protection checked, whatever an access out of bounds were to end with, so that
there is none.  It fails in the kinds of the data path, unless it asks for a lock that the caller
owned all along; and in a run of a device that was just started no caller owns one.  Only storing
scattered data fails raw, and changes nothing. -/
theorem Operation.data_path_documented {op : Operation} (hop : op.OnDataPath) (c : Circumstance)
    (h : Host) :
    (∀ flaw, op.strict flaw c h = op.perform c h) ∧
      (¬ op.StoresScattered → ∀ e, (op.perform c h).1 = .error e →
        e.kind ∈ Kind.ofData ∨ ∃ b ∈ h.device.ownedBy .caller, e = .reentered b.lockName) ∧
      (¬ op.StoresScattered → ∀ keys files start steps, Host.start keys files = .ok start →
        h = start.run steps → ∀ e, (op.perform c h).1 = .error e → e.kind ∈ Kind.ofData) ∧
      (op.StoresScattered → op.perform c h = (.error .mirrorSpaced, h)) := by
  refine ⟨?strict, hop.reports, ?started, fun hscattered => hscattered.perform_eq c h⟩
  case strict =>
    intro flaw
    rw [op.strict_eq flaw]
  case started =>
    rintro hwhole keys files start steps hstart rfl e hfail
    have hnone : (start.run steps).device.ownedBy .caller = [] := by
      rw [start.run_ownedBy, Host.start_ownedBy hstart]
    rcases hop.reports hwhole e hfail with hkind | ⟨b, hb, -⟩
    · exact hkind
    · rw [hnone] at hb
      cases hb

/-- A write across a protected sector fails for that sector after all its accesses were checked, and
text is no data while another thread owns the lock. -/
theorem Operation.data_path_documented_fenced :
    (write (.int 511) (.octets [7, 7])).strict .noRoom {} Storage.fenced =
        (write (.int 511) (.octets [7, 7])).perform {} Storage.fenced ∧
      ((write (.int 511) (.octets [7, 7])).perform {} Storage.fenced).1 =
        .error (.locked 1 .write) ∧
      (Failure.locked 1 .write).kind ∈ Kind.ofData ∧
      ((handle 0 (.write (.string "no data"))).perform {} crowdedHost).1 =
        .error (.writeType "str") ∧
      (Failure.writeType "str").kind ∈ Kind.ofData := by
  have hstart : Host.start .none Files.empty = .ok .fresh := rfl
  have hrun : Storage.fenced = Host.fresh.run [.operate {} (.lock (.int 1))] := rfl
  have hlocked : ((write (.int 511) (.octets [7, 7])).perform {} Storage.fenced).1 =
      .error (.locked 1 .write) := rfl
  have htext : ((handle 0 (.write (.string "no data"))).perform {} crowdedHost).1 =
      .error (.writeType "str") := rfl
  have hwhole {op : Operation} (hother : ∀ sector data, op ≠ .store sector data) :
      ¬ op.StoresScattered := by
    rintro ⟨s, data, rfl, -⟩
    exact hother _ _ rfl
  obtain ⟨hstrict, -, hstarted, -⟩ :=
    data_path_documented (OnDataPath.write : (write (.int 511) (.octets [7, 7])).OnDataPath)
      {} Storage.fenced
  obtain ⟨-, hreports, -, -⟩ :=
    data_path_documented (OnDataPath.writeOn : (handle 0 (.write (.string "no data"))).OnDataPath)
      {} crowdedHost
  have hkind := hstarted (hwhole fun _ _ => Operation.noConfusion) .none Files.empty .fresh _
    hstart hrun _ hlocked
  refine ⟨hstrict .noRoom, hlocked, hkind, htext, ?_⟩
  rcases hreports (hwhole fun _ _ => Operation.noConfusion) _ htext with hkind | ⟨b, hb, -⟩
  · exact hkind
  · cases hb

/-- That every failure on the data path of a device that was just started is of its kinds is too
much to say. -/
theorem Operation.not_data_path_all_documented :
    ¬ ∀ (op : Operation) (c : Circumstance) (e : Failure), op.OnDataPath →
      (op.perform c .fresh).1 = .error e → e.kind ∈ Kind.ofData := by
  intro hall
  have hscattered : (store (.int 0) (.view (.spacedZeros 512))).StoresScattered :=
    ⟨0, _, rfl, _, rfl, View.isSolid_spacedZeros (by decide),
      Nat.le_of_eq (View.length_spacedZeros 512).symm⟩
  have hkind := hall _ {} _ .store (congrArg Prod.fst (hscattered.perform_eq {} .fresh))
  exact absurd hkind (by decide)

end SectorDisk
