import SectorDisk.Console.Act
import SectorDisk.Proofs.Indifference.Operation
import SectorDisk.Proofs.Success

/-!
# The steps of a demonstration

A demonstration has eight steps, each of which asks one thing of the device (`DemoStep.op`).  What a
step has to find to succeed is `DemoStep.Clear`, and what it then does is `DemoStep.deeds`; a step
that fails does nothing to the device.  Steps are done one after the other until one fails, so that
those before it lead from the first host to the one on which it failed (`DemoStep.all_run`).
-/

namespace SectorDisk.Console

/-! ## §1 Steps -/

/-- The steps of a demonstration. -/
inductive DemoStep where
  /-- Write the pattern to the first sector. -/
  | write
  /-- Read it back. -/
  | readBack
  /-- Protect the third sector. -/
  | lock
  /-- Lift its protection again. -/
  | unlock
  /-- Look at the protection of all sectors. -/
  | lockInfo
  /-- Copy the third sector into the mirror. -/
  | mirror
  /-- Write the mirror to a file. -/
  | backup
  /-- Erase the fifth sector. -/
  | erase
  deriving DecidableEq

/-- The steps in order. -/
def demoSteps : List DemoStep :=
  [.write, .readBack, .lock, .unlock, .lockInfo, .mirror, .backup, .erase]

namespace DemoStep

/-- What a step asks of the device; the backup goes to the path, which has to fit a payload. -/
def op (path : String) : DemoStep → Op Unit
  | write => do
    let _ ← Storage.write (.int 0) (.octets demoPattern)
    return ()
  | readBack => do
    let data ← Storage.read (.int 0) (.int sectorSize)
    if data ≠ demoPattern then Op.fail .readBack
  | lock => Storage.lock (.int 2)
  | unlock => Storage.unlock (.int 2) (.string "B")
  | lockInfo => do
    let _ ← Storage.protections
    return ()
  | mirror => Mirror.capture (.int 2)
  | backup => do
    let _ ← Packet.Path.encode (.string path)
    Mirror.backup (.string path)
  | erase => Storage.erase (.int 4)

/-- There are sectors, and so a first, a third and a fifth. -/
local instance someSector : NeZero 8 := ⟨by decide⟩

/-- What a step does to a device with the given primary buffer if it succeeds. -/
def deeds (primary : Image) : DemoStep → List Deed
  | write => [.wrote 0 demoPattern]
  | lock => [.locked 2]
  | unlock => [.unlocked 2 (.string "B")]
  | mirror => [.captured 2 (primary.block 2)]
  | erase => [.erased 4]
  | _ => []

/-- What a step has to find; `sink` is the behaviour of the backup file. -/
def Clear (path : String) (sink : Sink) (h : Host) : DemoStep → Prop
  | write => (h.device.lockOf .primary).owner = none ∧ h.device.protection.bit 0 = false
  | readBack =>
    (h.device.lockOf .primary).owner = none ∧ h.device.primary.sector 0 = demoPattern
  | lock => (h.device.lockOf .primary).owner = none
  | unlock =>
    (h.device.lockOf .primary).owner = none ∧ h.device.keys.accepts (.string "B") = true
  | lockInfo => (h.device.lockOf .primary).owner = none
  | mirror =>
    (h.device.lockOf .primary).owner = none ∧ (h.device.lockOf .mirror).owner = none
  | backup =>
    (∃ payload, Packet.Path.encode (.string path) = .ok payload) ∧
      (∃ plain place, Mirror.Opens h.files (.string path) plain place) ∧
        (h.device.lockOf .mirror).owner = none ∧ sink.Accepts
  | erase => (h.device.lockOf .primary).owner = none ∧ h.device.protection.bit 4 = false

variable {c : Circumstance} {h : Host} {path : String} {step : DemoStep}

theorem length_demoPattern : demoPattern.length = sectorSize := by
  rw [demoPattern, List.length_map, List.length_range]

theorem demoPattern_ne_nil : demoPattern ≠ [] := by
  intro hnil
  have hlength := length_demoPattern
  rw [hnil] at hlength
  cases hlength

theorem demoPattern_fits :
    Storage.Fits (.int 0) (.octets demoPattern) 0 demoPattern := by
  refine ⟨rfl, by decide, demoPattern, rfl, ?_⟩
  rw [List.take_of_length_le]
  rw [length_demoPattern]
  decide

/-- Only the protection of the first sector can refuse the pattern. -/
theorem demoPattern_unguarded_iff {d : Device} :
    (∀ s, ¬ d.Guards s 0 demoPattern.length) ↔ d.protection.bit 0 = false := by
  have hzeros : demoPattern.length = Storage.zeros.length := by
    rw [length_demoPattern, Storage.zeros, List.length_replicate]
  have hstart : 0 = Sector.start 0 := rfl
  rw [hzeros, hstart]
  simp only [Storage.guards_sector_iff, not_and, forall_eq, Bool.not_eq_true]

/-! ## §2 What a step needs and does -/

/-- A step has nothing to do with metrics and handles, and only a backup touches files. -/
theorem op_ignores (path : String) {x : Aside} (hfiles : step = backup → x.files = id) :
    (step.op path).Ignores x := by
  cases step with
  | write => exact .andThen (Storage.write_ignores _ _) fun _ => .result _
  | readBack =>
    refine .andThen (Storage.read_ignores _ _) fun data => ?_
    exact .branch (.fail _) (.result _)
  | lock => exact Storage.lock_ignores _
  | unlock => exact Storage.unlock_ignores _ _
  | lockInfo => exact .andThen Storage.protections_ignores fun _ => .result _
  | mirror => exact Mirror.capture_ignores _
  | backup => exact .andThen (.judge _) fun _ => Mirror.backup_ignores (hfiles rfl) _
  | erase => exact Storage.erase_ignores _

theorem write_outcome (c : Circumstance) (h : Host) :
    SectorDisk.Outcome c h.device.status (fun _ => [.wrote 0 demoPattern]) (op path write c h) := by
  apply (Storage.write_outcome c h _ _).last_quiet
  intro n h' hok
  have hdeeds (bytes : Bytes) :
      Deed.ofWrite (.int 0) (.octets bytes) bytes.length = [.wrote 0 bytes] :=
    congrArg (fun all => [Deed.wrote 0 all]) List.take_length
  refine ⟨(), rfl, rfl, ?_⟩
  -- all of the pattern was written
  rw [demoPattern_fits.eq_length_of_ok hok, hdeeds]

theorem readBack_outcome (c : Circumstance) (h : Host) :
    SectorDisk.Outcome c h.device.status (fun _ => []) (op path readBack c h) := by
  apply (Storage.read_outcome c h _ _).next
  intro data _
  split
  · exact .failed (Idle.refl c _) _
  · exact .quiet (Idle.refl c _) rfl

/-- A step does its deeds if it succeeds, and nothing to the device if it fails. -/
theorem outcome (step : DemoStep) (path : String) (c : Circumstance) (h : Host) :
    SectorDisk.Outcome c h.device.status (fun _ => step.deeds h.device.primary)
      (step.op path c h) := by
  cases step with
  | write => exact write_outcome c h
  | readBack => exact readBack_outcome c h
  | lock => exact Storage.lock_outcome c h _
  | unlock => exact Storage.unlock_outcome c h _ _
  | lockInfo =>
    apply (Storage.protections_outcome c h).last_quiet
    intro _ h' _
    exact ⟨(), rfl, rfl, rfl⟩
  | mirror => exact Mirror.capture_outcome c h _
  | backup =>
    apply SectorDisk.Outcome.judge
    intro _ _
    exact Mirror.backup_outcome c h _
  | erase => exact Storage.erase_outcome c h _

theorem files_eq (hother : step ≠ backup) (c : Circumstance) (h : Host) :
    (step.op path c h).2.files = h.files :=
  Op.Ignores.files_eq (fun _ => op_ignores path fun hbackup => absurd hbackup hother) c h

theorem status_of_ok (hwake : c.wake = none) (hok : (step.op path c h).1 = .ok ()) :
    (step.op path c h).2.device.status = h.device.status.after (step.deeds h.device.primary) :=
  (step.outcome path c h).status_of_ok hwake hok

theorem status_of_error {e : Failure} (hwake : c.wake = none)
    (hfail : (step.op path c h).1 = .error e) :
    (step.op path c h).2.device.status = h.device.status :=
  (step.outcome path c h).status_of_error hwake hfail

/-- No step closes the device. -/
theorem isClosed_eq (step : DemoStep) (path : String) (hwake : c.wake = none) (h : Host) :
    (step.op path c h).2.device.isClosed = h.device.isClosed := by
  cases hr : (step.op path c h).1 with
  | error e => exact congrArg Status.isClosed (status_of_error hwake hr)
  | ok _ =>
    refine (congrArg Status.isClosed (status_of_ok hwake hr)).trans ?_
    cases step <;> rfl

/-- A step succeeds just if it finds what it needs. -/
theorem ok_iff (hwake : c.wake = none) :
    (step.op path c h).1 = .ok () ↔ step.Clear path c.sink h := by
  cases step with
  | write =>
    have hwritten := demoPattern_fits.write_ok_iff (h := h) hwake demoPattern_ne_nil
    rw [demoPattern_unguarded_iff] at hwritten
    rw [Clear, ← hwritten, op, Op.bind_ok_iff]
    -- a write that succeeds returns the count of all the pattern
    constructor
    · rintro ⟨n, hok, -⟩
      rw [← demoPattern_fits.eq_length_of_ok hok]
      exact hok
    · exact fun hok => ⟨_, hok, rfl⟩
  | readBack =>
    have hread {data : Bytes} : (Storage.read (.int 0) (.int sectorSize) c h).1 = .ok data ↔
        (h.device.lockOf .primary).owner = none ∧ h.device.primary.sector 0 = data :=
      Storage.read_ok_iff hwake (by decide)
    -- what was read is compared, which does not look at the host
    have hjudge {data : Bytes} {g : Host} :
        ((if data ≠ demoPattern then Op.fail .readBack else pure () : Op Unit) c g).1 = .ok () ↔
          data = demoPattern := by
      split
      · rename_i hother
        exact iff_of_false (fun hok => by cases hok) hother
      · rename_i hsame
        exact iff_of_true rfl (Classical.not_not.mp hsame)
    rw [Clear, op, Op.bind_ok_iff]
    simp only [hread, hjudge]
    constructor
    · rintro ⟨data, ⟨hfree, hdata⟩, hsame⟩
      exact ⟨hfree, hdata.trans hsame⟩
    · rintro ⟨hfree, hdata⟩
      exact ⟨_, ⟨hfree, rfl⟩, hdata⟩
  | lock => exact Storage.lock_ok_iff 2 hwake
  | unlock => exact Storage.unlock_ok_iff 2 hwake
  | lockInfo =>
    rw [Clear, op, Op.bind_ok_iff]
    simp only [Storage.protections_ok_iff hwake, Op.pure_run, and_true, exists_and_left,
      exists_eq', and_true]
  | mirror => exact Mirror.capture_ok_iff 2 hwake
  | backup =>
    rw [Clear, op]
    cases hencode : Packet.Path.encode (.string path) with
    | error e =>
      refine iff_of_false (fun hok => by cases hok) ?_
      rintro ⟨⟨payload, hpayload⟩, -⟩
      cases hpayload
    | ok payload =>
      rw [Op.lift_ok_bind_run, Mirror.backup_ok_iff hwake]
      exact (and_iff_right ⟨payload, rfl⟩).symm
  | erase => exact Storage.erase_ok_iff 4 hwake

/-! ## §3 Steps one after the other -/

/-- Does steps until one fails. -/
def all (path : String) : List DemoStep → Op Unit
  | [] => return ()
  | step :: rest => do
    step.op path
    all path rest

theorem all_ignores (path : String) {x : Aside} (hfiles : x.files = id) (steps : List DemoStep) :
    (all path steps).Ignores x := by
  induction steps with
  | nil => exact .result ()
  | cons step rest ih => exact .andThen (op_ignores path fun _ => hfiles) fun _ => ih

/-- The steps succeed, one after the other, and lead from the one host to the other. -/
inductive Leads (path : String) (c : Circumstance) : Host → List DemoStep → Host → Prop
  | nil {h : Host} : Leads path c h [] h
  | cons {h h' : Host} {step : DemoStep} {rest : List DemoStep}
    (hok : (step.op path c h).1 = .ok ()) (hrest : Leads path c (step.op path c h).2 rest h') :
    Leads path c h (step :: rest) h'

/-- What no step changes: who owns the locks, the keys, and all protection but that of the third
sector. -/
structure Kept (h h' : Host) : Prop where
  owner : ∀ b, (h'.device.lockOf b).owner = (h.device.lockOf b).owner
  keys : h'.device.keys = h.device.keys
  protection : ∀ s, s ≠ 2 → h'.device.protection.bit s = h.device.protection.bit s

/-- The status after steps, each done to what those before it made. -/
def afterAll (k : Status) (steps : List DemoStep) : Status :=
  steps.foldl (fun k step => k.after (step.deeds k.primary)) k

section Runs

variable {h' : Host} {done rest steps : List DemoStep}

/-- Steps are done to the end, or up to the first that fails on the host to which those before it
lead. -/
theorem all_run (path : String) (c : Circumstance) (h : Host) (steps : List DemoStep) :
    (∃ h', Leads path c h steps h' ∧ all path steps c h = (.ok (), h')) ∨
      ∃ done step rest h' e, steps = done ++ step :: rest ∧ Leads path c h done h' ∧
        (step.op path c h').1 = .error e ∧
        all path steps c h = (.error e, (step.op path c h').2) := by
  induction steps generalizing h with
  | nil => exact .inl ⟨h, .nil, rfl⟩
  | cons step rest ih =>
    cases hr : (step.op path c h).1 with
    | error e => exact .inr ⟨[], step, rest, h, e, rfl, .nil, hr, Op.bind_of_error hr _⟩
    | ok _ =>
      -- the rest begins on the host that the first step left
      have hrun : all path (step :: rest) c h = all path rest c (step.op path c h).2 :=
        Op.bind_of_ok hr _
      rcases ih (step.op path c h).2 with
        ⟨h', hleads, hall⟩ | ⟨done, failing, more, h', e, rfl, hleads, hfail, hall⟩
      · exact .inl ⟨h', .cons hr hleads, hrun.trans hall⟩
      · exact .inr ⟨step :: done, failing, more, h', e, rfl, .cons hr hleads, hfail,
          hrun.trans hall⟩

theorem all_singleton (step : DemoStep) (path : String) : all path [step] = step.op path := by
  funext c h
  cases hr : (step.op path c h).1 with
  | error e =>
    refine (Op.bind_of_error hr _).trans ?_
    rw [← hr]
  | ok _ =>
    refine (Op.bind_of_ok hr _).trans ?_
    rw [all, Op.pure_run, ← hr]

theorem all_append (path : String) (steps more : List DemoStep) :
    all path (steps ++ more) = (all path steps >>= fun _ => all path more) := by
  induction steps with
  | nil => rfl
  | cons step rest ih =>
    rw [List.cons_append, all, all, Op.bind_assoc, ih]

theorem all_isClosed (path : String) (hwake : c.wake = none) (h : Host) (steps : List DemoStep) :
    (all path steps c h).2.device.isClosed = h.device.isClosed := by
  induction steps generalizing h with
  | nil => rfl
  | cons step rest ih =>
    cases hr : (step.op path c h).1 with
    | error e =>
      rw [all, Op.bind_of_error hr]
      exact step.isClosed_eq path hwake h
    | ok _ =>
      rw [all, Op.bind_of_ok hr, ih]
      exact step.isClosed_eq path hwake h

namespace Kept

theorem refl (h : Host) : Kept h h := ⟨fun _ => rfl, rfl, fun _ _ => rfl⟩

theorem trans {h'' : Host} (hfirst : Kept h h') (hthen : Kept h' h'') : Kept h h'' :=
  ⟨fun b => (hthen.owner b).trans (hfirst.owner b), hthen.keys.trans hfirst.keys,
    fun s hs => (hthen.protection s hs).trans (hfirst.protection s hs)⟩

/-- Each step keeps what is to be kept. -/
theorem of_ok (hwake : c.wake = none) (hok : (step.op path c h).1 = .ok ()) :
    Kept h (step.op path c h).2 := by
  have hstatus := status_of_ok hwake hok
  have hstore := congrArg Status.toStore hstatus
  rw [Status.after_toStore, Device.status_toStore, Device.status_toStore] at hstore
  constructor
  · intro b
    rw [Device.lockOf_owner, hstatus, Status.after_owner, Device.lockOf_owner]
  · exact (congrArg Store.keys hstore).trans (Store.after_keys ..)
  · intro s hs
    have hprotection := congrArg Store.protection hstore
    change (step.op path c h).2.device.protection = _ at hprotection
    rw [hprotection]
    -- two steps set a bit, both of them that of the third sector
    cases step with
    | lock => exact (Flags.bit_setBit ..).trans (if_neg (Ne.symm hs))
    | unlock => exact (Flags.bit_setBit ..).trans (if_neg (Ne.symm hs))
    | _ => rfl

end Kept

namespace Leads

theorem all_eq (hleads : Leads path c h steps h') : all path steps c h = (.ok (), h') := by
  induction hleads with
  | nil => rfl
  | cons hok _ ih => exact (Op.bind_of_ok hok _).trans ih

theorem kept (hwake : c.wake = none) (hleads : Leads path c h steps h') : Kept h h' := by
  induction hleads with
  | nil => exact .refl _
  | cons hok _ ih => exact (Kept.of_ok hwake hok).trans ih

theorem status (hwake : c.wake = none) (hleads : Leads path c h steps h') :
    h'.device.status = afterAll h.device.status steps := by
  induction hleads with
  | nil => rfl
  | cons hok _ ih =>
    rw [ih, status_of_ok hwake hok]
    rfl

theorem files (hnone : backup ∉ steps) (hleads : Leads path c h steps h') :
    h'.files = h.files := by
  induction hleads with
  | nil => rfl
  | cons _ _ ih =>
    rw [List.mem_cons, not_or] at hnone
    rw [ih hnone.2, files_eq (Ne.symm hnone.1)]

theorem split (hleads : Leads path c h (done ++ rest) h') :
    ∃ g, Leads path c h done g ∧ Leads path c g rest h' := by
  induction done generalizing h with
  | nil => exact ⟨h, .nil, hleads⟩
  | cons step done ih =>
    cases hleads with
    | cons hok hrest =>
      obtain ⟨g, hdone, hmore⟩ := ih hrest
      exact ⟨g, .cons hok hdone, hmore⟩

/-- Every step of those that succeeded found what it needs. -/
theorem clear_of_mem (hwake : c.wake = none) (hleads : Leads path c h steps h')
    (hmem : step ∈ steps) : ∃ g, Kept h g ∧ step.Clear path c.sink g := by
  induction hleads with
  | nil => cases hmem
  | cons hok _ ih =>
    rcases List.mem_cons.mp hmem with rfl | hlater
    · exact ⟨_, .refl _, (ok_iff hwake).mp hok⟩
    · obtain ⟨g, hkept, hclear⟩ := ih hlater
      exact ⟨g, (Kept.of_ok hwake hok).trans hkept, hclear⟩

end Leads

end Runs

end DemoStep

end SectorDisk.Console
