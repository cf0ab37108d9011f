import Mathlib.Data.Option.Basic
import SectorDisk.Proofs.Contention.Waiting
import SectorDisk.Proofs.Requests.Operation

/-!
# The order of judging and asking

An operation judges its arguments, a key and the file of a backup before it asks for a lock, and it
asks for a lock only when it has let the one before go.  So a failure of that kind does not depend
on other threads, and the mirror keeps nobody waiting who has nothing to do with it.
-/

namespace SectorDisk

/-! ## §1 Early failures -/

/-- Whether failures of the kind are about what was asked for: an argument, a sector, a key, a place
on the disk, a command. -/
def Kind.concernsRequest : Kind → Bool
  | invalidArgument | invalidSector | permissionDenied | outOfSpace | unsupportedOperation => true
  | _ => false

/-- The failures about what was asked for, and that of opening a file. -/
inductive Failure.Early : Failure → Prop
  | judged {e : Failure} (hkind : e.kind.concernsRequest = true) : Early e
  | openFailed {path cause} : Early (.openFailed path cause)

theorem countFlaw?_kind {n : Number} {e : Failure} (hflaw : countFlaw? n = some e) :
    e.kind = .wrongType ∨ e.kind = .wrongValue := by
  unfold countFlaw? at hflaw
  split at hflaw
  · split at hflaw
    · cases hflaw
      exact .inr rfl
    · cases hflaw
  · cases hflaw
  · cases hflaw
    exact .inl rfl

theorem errorFlaw?_kind {type : String} {arguments : List Value} {e : Failure}
    (hflaw : errorFlaw? type arguments = some e) : e.kind = .wrongType ∨ e.kind = .wrongValue := by
  unfold errorFlaw? at hflaw
  split at hflaw
  · split at hflaw
    · exact countFlaw?_kind hflaw
    · cases hflaw
  · cases hflaw

mutual

/-- A value cannot be made because of a type or a value. -/
theorem Value.flaw?_kind {v : Value} {e : Failure} (hflaw : v.flaw? = some e) :
    e.kind = .wrongType ∨ e.kind = .wrongValue := by
  cases v with
  | list items => exact flawOf?_kind hflaw
  | error type arguments =>
    rcases (Option.orElse_eq_some _ _ _).mp hflaw with hinner | ⟨-, hown⟩
    · exact flawOf?_kind hinner
    · exact errorFlaw?_kind hown
  | _ => cases hflaw

theorem flawOf?_kind {items : List Value} {e : Failure} (hflaw : flawOf? items = some e) :
    e.kind = .wrongType ∨ e.kind = .wrongValue := by
  cases items with
  | nil => cases hflaw
  | cons item rest =>
    rcases (Option.orElse_eq_some _ _ _).mp hflaw with hfirst | ⟨-, hrest⟩
    · exact item.flaw?_kind hfirst
    · exact flawOf?_kind hrest

end

theorem Failure.Late.not_early {c : Circumstance} {owned : List Buffer} {e : Failure}
    (hlate : e.Late c owned) : ¬ e.Early := by
  intro hearly
  -- failures of a type or a value are of no early kind either
  cases hlate with
  | flawed hcause hflaw =>
    have hflawed := Value.flaw?_kind hflaw
    cases hearly with
    | judged hkind =>
      rcases hflawed with hflawed | hflawed <;> rw [hflawed] at hkind <;> cases hkind
    | openFailed => rcases hflawed with hflawed | hflawed <;> cases hflawed
  | @locked s change =>
    cases hearly with
    | judged hkind => cases change <;> cases hkind
  | interrupted | reentered hb | writeFailed | incomplete =>
    cases hearly with
    | judged hkind => cases hkind

namespace Operation

variable {c : Circumstance} {h : Host} {op : Operation} {e : Failure}

/-- An operation that fails early when all locks are free does the same when they are not, and does
not even ask for one. -/
theorem perform_of_early (hcalm : (op.perform c.undisturbed h.uncontended).1 = .error e)
    (hearly : e.Early) :
    (op.perform c h).1 = .error e ∧ h.Tells (op.perform c h).2 ∧
      (op.perform c h).2.uncontended = (op.perform c.undisturbed h.uncontended).2 ∧
      ∀ b, (op.perform c h).2.Rival b ↔ h.Rival b := by
  -- the calm run asks for nothing, or else it would have failed late
  have htells : h.Tells (op.perform c.undisturbed h.uncontended).2 := by
    cases op.perform_asking (c := c.undisturbed) (h := h.uncontended) with
    | silent hnone htells => exact htells
    | enters needs hneeds henters =>
      cases henters with
      | through v hok =>
        rw [hok] at hcalm
        cases hcalm
      | stopped e' hfail hlate =>
        rw [hfail] at hcalm
        cases hcalm
        exact absurd hearly hlate.not_early
  have hnothing {before more : List Buffer} {b : Buffer} :
      ¬ h.Asks (op.perform c.undisturbed h.uncontended).2 (before ++ b :: more) := fun hasks =>
    absurd (hasks.unique (htells.asks []).forget)
      (List.append_ne_nil_of_right_ne_nil before (List.cons_ne_nil b more))
  -- so the two runs agree, and the disturbed one asks for nothing either
  cases op.perform_transparent c h with
  | passed asked hrun hfree hresult hhost hrivals =>
    have htold : h.Tells (op.perform c h).2.uncontended := hhost ▸ htells
    exact ⟨hresult.trans hcalm, htold, hhost, hrivals⟩
  | released b before more hasks hbefore hrival hreleases hsame =>
    exact absurd (hsame ▸ hasks) hnothing
  | stopped b before more rest purpose hrun hasks =>
    exact absurd hasks hnothing

/-! ## §2 Operations that involve the mirror -/

/-- The operation copies or stores a sector into the mirror, tells it or writes it to a file. -/
inductive Mirrors : Operation → Prop
  | capture {sector} : Mirrors (.capture sector)
  | store {sector data} : Mirrors (.store sector data)
  | mirrorSnapshot : Mirrors .mirrorSnapshot
  | backup {path} : Mirrors (.backup path)
  | dispatch {command payload cmd} (hname : Command.Named cmd command)
    (hmirror : cmd = .mirrorSector ∨ cmd = .backupToFile) : Mirrors (.dispatch command payload)
  | control {command payload cmd} (hname : Command.Named cmd command)
    (hmirror : cmd = .mirrorSector ∨ cmd = .backupToFile) : Mirrors (.control command payload)

theorem Needs.mirrors {needs : List Buffer} (hneeds : op.Needs h needs)
    (hmirror : .mirror ∈ needs) : op.Mirrors := by
  induction hneeds with
  | read | write | lock | unlock | protections | erase | primarySnapshot =>
    exact absurd hmirror (by decide)
  | capture => exact .capture
  | store => exact .store
  | mirrorSnapshot => exact .mirrorSnapshot
  | backup => exact .backup
  | @handle index op transfer needs husable htransfer hneeds ih =>
    -- a handle reads and writes the primary buffer
    cases op <;> cases htransfer <;> cases ih hmirror
  | @dispatch command payload cmd op needs hname horders hneeds ih =>
    cases horders with
    | mirrorSector => exact .dispatch hname (.inl rfl)
    | backupToFile => exact .dispatch hname (.inr rfl)
    | lockSector | unlockSector | getLockInfo | eraseSector => cases ih hmirror
  | control hopen hneeds ih =>
    cases ih hmirror with
    | dispatch hname hmirror => exact .control hname hmirror

/-- Where the lock of the primary buffer is free, an operation that does not involve the mirror
never waits. -/
theorem never_waits (hfree : ¬ h.Rival .primary) (hother : ¬ op.Mirrors) :
    h.awaited? (op.perform c h).2 = none := by
  cases op.perform_asking (c := c) (h := h) with
  | silent hnone htells =>
    exact Host.awaited?_of_free (htells.asks []).forget fun b hb => by cases hb
  | enters needs hneeds henters =>
    have hprimary : ∀ b ∈ needs, ¬ h.Rival b := by
      intro b hb
      cases b with
      | primary => exact hfree
      | mirror => exact absurd (hneeds.mirrors hb) hother
    cases henters with
    | through v hok hsome hasks => exact Host.awaited?_of_free hasks.forget hprimary
    | stopped e hfail hlate asked hsome hinitial hasks =>
      exact Host.awaited?_of_free hasks.forget fun b hb => hprimary b (hinitial.mem hb)

/-! ## §3 The order -/

/-- **Judging comes before asking.**  An operation asks for the locks that it needs and for no
others, in order and up to one at which it fails, and for each while the caller owns what it owned
before the operation.  What fails about its request when all locks are free fails so whoever owns
them, and without asking.  And while the lock of the primary buffer is free, an operation that does
not involve the mirror ends as with all locks free and does the same. -/
theorem asks_in_order (c : Circumstance) (h : Host) (op : Operation) :
    (∃ asked, h.AsksOwning (op.perform c h).2 (h.device.ownedBy .caller) asked ∧
      ((asked = [] ∧ ∀ needs, ¬ op.Needs h needs) ∨
        ∃ needs, op.Needs h needs ∧ asked ≠ [] ∧ asked <+: needs ∧
          ∀ v, (op.perform c h).1 = .ok v → asked = needs)) ∧
    (∀ e, (op.perform c.undisturbed h.uncontended).1 = .error e → e.Early →
      (op.perform c h).1 = .error e ∧ h.Tells (op.perform c h).2 ∧
        (op.perform c h).2.uncontended = (op.perform c.undisturbed h.uncontended).2 ∧
        ∀ b, (op.perform c h).2.Rival b ↔ h.Rival b) ∧
    (¬ h.Rival .primary → ¬ op.Mirrors →
      (op.perform c h).1 = (op.perform c.undisturbed h.uncontended).1 ∧
        h.awaited? (op.perform c h).2 = none ∧
        (op.perform c h).2.uncontended = (op.perform c.undisturbed h.uncontended).2 ∧
        ∀ b, (op.perform c h).2.Rival b ↔ h.Rival b) := by
  refine ⟨?asks, fun e hcalm hearly => perform_of_early hcalm hearly, ?mirrorBusy⟩
  case asks =>
    cases op.perform_asking (c := c) (h := h) with
    | silent hnone htells => exact ⟨[], htells.asks _, .inl ⟨rfl, hnone⟩⟩
    | enters needs hneeds henters =>
      cases henters with
      | through v hok hsome hasks =>
        exact ⟨needs, hasks, .inr ⟨needs, hneeds, hsome, List.prefix_refl _, fun _ _ => rfl⟩⟩
      | stopped e hfail hlate asked hsome hinitial hasks =>
        refine ⟨asked, hasks, .inr ⟨needs, hneeds, hsome, hinitial, fun v hok => ?_⟩⟩
        rw [hok] at hfail
        cases hfail
  case mirrorBusy =>
    intro hfree hother
    have hnone := never_waits (c := c) hfree hother
    have hcompares := op.perform_transparent c h
    obtain ⟨hresult, hhost, hrivals, -⟩ := hcompares.eq_of_not_awaited hnone hcompares
    exact ⟨hresult, hnone, hhost, hrivals⟩

/-- Both locks are in other hands. -/
def crowdedHost : Host :=
  busyHost.updateDevice fun d => d.taken .primary

/-- A key is refused while both locks are in other hands, and a sector is read while that of the
mirror is. -/
theorem crowdedHost_order :
    ((unlock (.int 2) (.string "?")).perform {} crowdedHost).1 = .error (.keyRefused 2) ∧
      ((read (.int 1024) (.int 512)).perform {} busyHost).1 =
        ((read (.int 1024) (.int 512)).perform {} busyHost.uncontended).1 := by
  obtain ⟨-, hearly, -⟩ := asks_in_order {} crowdedHost (.unlock (.int 2) (.string "?"))
  obtain ⟨-, -, hmirror⟩ := asks_in_order {} busyHost (.read (.int 1024) (.int 512))
  refine ⟨(hearly _ rfl (.judged rfl)).1, (hmirror (by decide) ?_).1⟩
  intro hinvolved
  cases hinvolved

end Operation

end SectorDisk
