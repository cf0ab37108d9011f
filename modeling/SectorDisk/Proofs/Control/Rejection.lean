import Mathlib.Data.List.TakeWhile
import SectorDisk.Proofs.BackupPath
import SectorDisk.Proofs.Requests.Order

/-!
# What commands fail with

A value that is no command, a command without a well-formed payload, and a command whose operation
fails are told apart by the kind of the failure, and the kind is one that the disk reports.
-/

namespace SectorDisk

variable {c : Circumstance} {h : Host} {cmd : Command} {command payload : Value} {op : Operation}
  {e : Failure}

/-! ## §1 Late failures -/

/-- The causes that a genuine file fails with can be made, so that no failure is about them. -/
theorem Sink.Genuine.drain {sink : Sink} {image content : Bytes} {cause : Value}
    (hgenuine : sink.Genuine) (hcause : (sink.drain image content).failure = some cause) :
    cause.flaw? = none := by
  obtain ⟨counts, stop, htakes⟩ := sink.exists_takes 0 image.length
  rw [(htakes.drain_eq content).2] at hcause
  exact hgenuine.failure htakes hcause

/-- A late failure is of a kind that the disk reports, unless the lock was the caller's own. -/
theorem Failure.Late.documented {owned : List Buffer} (hlate : e.Late c owned)
    (hgenuine : c.sink.Genuine) :
    e.kind ∈ Kind.documented ∨ ∃ b ∈ owned, e = .reentered b.lockName := by
  cases hlate with
  | interrupted => exact .inl (show Kind.interrupted ∈ Kind.documented by decide)
  | reentered hb => exact .inr ⟨_, hb, rfl⟩
  | @locked s change =>
    cases change <;> exact .inl (show Kind.sectorLocked ∈ Kind.documented by decide)
  | writeFailed => exact .inl (show Kind.storageIO ∈ Kind.documented by decide)
  | incomplete => exact .inl (show Kind.incompleteWrite ∈ Kind.documented by decide)
  | flawed hcause hflaw =>
    rw [hgenuine.drain hcause] at hflaw
    cases hflaw

/-! ## §2 Early failures -/

/-- The kinds of failure with which a well-formed command may end before it asks for a lock. -/
def Kind.ofOrders : List Kind :=
  [invalidSector, permissionDenied, invalidArgument, storageIO]

theorem Storage.sector_refused {n : Int} {next : Sector → Op Unit}
    (hnone : ∀ s : Sector, n ≠ s.val) :
    ((do
      let s ← Sector.ofValue (.int n)
      next s : Op Unit).giving unitValue c h).1 = .error (.sectorRange n) := by
  have hrefused : Sector.ofValue (.int n) = .error (.sectorRange n) := by
    cases hs : Sector.ofIndex? n with
    | none => rw [Sector.ofValue, hs]
    | some s =>
      have hok : Sector.ofValue (.int n) = .ok s := by rw [Sector.ofValue, hs]
      have hn : (Value.int n) = .int s.val := Sector.eq_int_of_ofValue hok
      cases hn
      exact absurd rfl (hnone s)
  rw [hrefused]
  rfl

theorem Storage.unlock_refused {s : Sector} {key : Value} (hkey : ¬ h.device.keys.IsKey key) :
    ((unlock (.int s.val) key).giving unitValue c h).1 = .error (.keyRefused s) := by
  have hrefused : (unlock (.int s.val) key c h).1 = .error (.keyRefused s) := by
    unfold unlock
    rw [Sector.ofValue_val, Op.lift_ok_bind_run, Op.device_bind_run,
      if_neg fun haccepts => hkey (Keyring.accepts_iff.mp haccepts)]
    rfl
  rw [Op.giving_run, hrefused]
  rfl

namespace Mirror

variable {p : String}

/-- The path that a payload spells either is empty or fails to open, where it opens no file. -/
theorem backup_refused (hplain : ¬ Text.HasNul p)
    (hnone : ∀ place, ¬ Opens h.files (.string p) (.string p) place) :
    ∃ e, ((backup (.string p)).giving unitValue c h).1 = .error e ∧ e.kind ∈ Kind.ofOrders := by
  obtain ⟨e, hshut⟩ : ∃ e, Shut h.files p e :=
    (shut_or_opens h.files p).resolve_right fun ⟨place, hopens⟩ => hnone place hopens
  refine ⟨e, ?_, ?_⟩
  · rw [Op.giving_run, hshut.backup_run]
    rfl
  · cases hshut with
    | empty => exact show Kind.invalidArgument ∈ Kind.ofOrders by decide
    | nul hnul => exact absurd hnul hplain
    | problem => exact show Kind.storageIO ∈ Kind.ofOrders by decide

end Mirror

namespace Command.Orders

/-- The operation of a well-formed command that needs no lock finds fault with its sector, its key
or its path. -/
theorem refused (horders : cmd.Orders payload op) (hnone : ∀ needs, ¬ op.Needs h needs) :
    ∃ e, (op.perform c h).1 = .error e ∧ e.kind ∈ Kind.ofOrders := by
  -- whatever else the arguments are, with them the operation would need a lock
  cases horders with
  | lockSector hsize =>
    refine ⟨_, Storage.sector_refused fun s hs => ?_, List.mem_cons_self⟩
    rw [hs] at hnone
    exact hnone _ .lock
  | @unlockSector kind s k p q hs =>
    by_cases hkey : h.device.keys.IsKey (.string (String.singleton (Key.ofByte k).char))
    · exact absurd (.unlock (s := ⟨s.toNat, hs⟩) hkey) (hnone _)
    · exact ⟨_, Storage.unlock_refused (s := ⟨s.toNat, hs⟩) hkey,
        show Kind.permissionDenied ∈ Kind.ofOrders by decide⟩
  | getLockInfo hfalse => exact absurd .protections (hnone _)
  | eraseSector hsize =>
    refine ⟨_, Storage.sector_refused fun s hs => ?_, List.mem_cons_self⟩
    rw [hs] at hnone
    exact hnone _ .erase
  | mirrorSector hsize =>
    refine ⟨_, Storage.sector_refused fun s hs => ?_, List.mem_cons_self⟩
    rw [hs] at hnone
    exact hnone _ .capture
  | @backupToFile payload data path hcount hheld hnul htext =>
    have hplain : ¬ Text.HasNul path := by
      intro hnul
      have hzero : 0 ∈ Text.Utf8.encode path := Text.Utf8.zero_mem_encode.mpr hnul
      rw [← htext] at hzero
      -- the text ends before the first zero
      have hnonzero := List.mem_takeWhile_imp hzero
      exact absurd rfl (of_decide_eq_true hnonzero)
    exact Mirror.backup_refused hplain fun place hopens => hnone _ (.backup hopens)

/-- However the operation of a well-formed command fails: late, or before it asked for a lock. -/
theorem failure (horders : cmd.Orders payload op) (hfail : (op.perform c h).1 = .error e) :
    e.kind ∈ Kind.ofOrders ∨ e.Late c (h.device.ownedBy .caller) := by
  cases op.perform_asking (c := c) (h := h) with
  | silent hnone htells =>
    obtain ⟨e', hfail', hkind⟩ := horders.refused (c := c) hnone
    rw [hfail] at hfail'
    cases hfail'
    exact .inl hkind
  | enters needs hneeds henters =>
    cases henters with
    | through v hok =>
      rw [hok] at hfail
      cases hfail
    | stopped e' hfail' hlate =>
      rw [hfail] at hfail'
      cases hfail'
      exact .inr hlate

/-- A command that is known is never refused as unknown. -/
theorem supported (horders : cmd.Orders payload op) (hfail : (op.perform c h).1 = .error e) :
    e.kind ≠ .unsupportedOperation := by
  intro hkind
  rcases horders.failure hfail with hearly | hlate
  · rw [hkind] at hearly
    exact absurd hearly (by decide)
  · exact hlate.not_early (.judged (by rw [hkind]; rfl))

theorem documented (horders : cmd.Orders payload op) (hfail : (op.perform c h).1 = .error e)
    (hgenuine : c.sink.Genuine) :
    e.kind ∈ Kind.documented ∨ ∃ b ∈ h.device.ownedBy .caller, e = .reentered b.lockName := by
  have hknown : ∀ k ∈ Kind.ofOrders, k ∈ Kind.documented := by decide
  rcases horders.failure hfail with hearly | hlate
  · exact .inl (hknown _ hearly)
  · exact hlate.documented hgenuine

end Command.Orders

/-! ## §3 Every dispatch -/

namespace Control

/-- Where the failure of a dispatch comes from: there is no such command, its payload is not
well-formed, or its operation fails. -/
inductive Cause (c : Circumstance) (h : Host) (command payload : Value) : Failure → Prop
  | unnamed (hnone : ∀ cmd : Command, ¬ cmd.Named command) :
    Cause c h command payload (.unsupported command)
  | malformed {cmd : Command} {e} (hname : cmd.Named command) (hrefusal : cmd.Refusal payload e) :
    Cause c h command payload e
  | operation {cmd : Command} {op e} (hname : cmd.Named command) (horders : cmd.Orders payload op)
    (hfail : (op.perform c h).1 = .error e) : Cause c h command payload e

/-- The command is judged first, then its payload, and then its operation. -/
theorem dispatch_failure (hfail : (dispatch command payload c h).1 = .error e) :
    Cause c h command payload e := by
  by_cases hnone : ∀ cmd : Command, ¬ cmd.Named command
  · rw [dispatch_of_unnamed hnone] at hfail
    cases hfail
    exact .unnamed hnone
  obtain ⟨cmd, hname⟩ := Classical.not_forall_not.mp hnone
  by_cases hmalformed : ∀ op, ¬ cmd.Orders payload op
  · obtain ⟨⟨e', hfail', hrefusal⟩, -⟩ := dispatch_of_malformed (c := c) (h := h) hname hmalformed
    rw [hfail] at hfail'
    cases hfail'
    exact .malformed hname hrefusal
  obtain ⟨op, horders⟩ := Classical.not_forall_not.mp hmalformed
  rw [(dispatch_of_orders hname horders).1] at hfail
  cases hr : (op.perform c h).1 with
  | error e' =>
    rw [hr] at hfail
    cases hfail
    exact .operation hname horders hr
  | ok v =>
    rw [hr] at hfail
    cases hfail

/-- **Malformed commands come to nothing.**  A dispatch fails as unsupported just if there is no
such command.  A command does what the operation does that its payload orders, and ends as it does.
With a payload that orders none it fails, and then, as for no command at all, buffers, protection,
keys, handles, locks and files are as before and no lock was asked for; the payload is refused as an
argument, unless it is a view that misleads, which is refused for its bytes as they are read.  Where
files fail as files do and no view misleads, every failure is of a kind that the disk reports, but
for a lock that the caller owned all along. -/
theorem dispatch_trichotomy (c : Circumstance) (h : Host) (command payload : Value) :
    ((∃ e, (dispatch command payload c h).1 = .error e ∧ e.kind = .unsupportedOperation) ↔
        ∀ cmd : Command, ¬ cmd.Named command) ∧
      ((∀ cmd : Command, ¬ cmd.Named command) → Registers h (dispatch command payload c h).2) ∧
      (∀ cmd : Command, cmd.Named command →
        (∀ op, cmd.Orders payload op →
          (dispatch command payload c h).1 = (op.perform c h).1.map cmd.answer ∧
            Registers (op.perform c h).2 (dispatch command payload c h).2) ∧
        ((∀ op, ¬ cmd.Orders payload op) →
          (∃ e, (dispatch command payload c h).1 = .error e ∧
            (¬ cmd.Misleads payload → e.kind = .invalidArgument) ∧
            (cmd.Misleads payload → e.kind = .unsolid ∨ e.kind = .unfilled)) ∧
            Registers h (dispatch command payload c h).2)) ∧
      (c.sink.Genuine → ∀ e, (dispatch command payload c h).1 = .error e →
        e.kind ∈ Kind.documented ∨ (∃ b ∈ h.device.ownedBy .caller, e = .reentered b.lockName) ∨
          ∃ cmd : Command, cmd.Named command ∧ cmd.Misleads payload) := by
  refine ⟨⟨?supported, fun hnone => ?unsupported⟩, fun hnone => ?untouched, ?named, ?documented⟩
  case supported =>
    rintro ⟨e, hfail, hkind⟩
    cases dispatch_failure hfail with
    | unnamed hnone => exact hnone
    | malformed _ hrefusal => exact absurd hkind hrefusal.supported
    | operation _ horders hop => exact absurd hkind (horders.supported hop)
  case unsupported =>
    rw [dispatch_of_unnamed hnone]
    exact ⟨_, rfl, rfl⟩
  case untouched =>
    rw [dispatch_of_unnamed hnone]
    exact .tell _ h
  case named =>
    intro cmd hname
    refine ⟨fun op horders => dispatch_of_orders hname horders, fun hmalformed => ?_⟩
    obtain ⟨⟨e, hfail, hrefusal⟩, hregisters⟩ :=
      dispatch_of_malformed (c := c) (h := h) hname hmalformed
    exact ⟨⟨e, hfail, hrefusal.plain, hrefusal.raw⟩, hregisters⟩
  case documented =>
    intro hgenuine e hfail
    cases dispatch_failure hfail with
    | unnamed => exact .inl (show Kind.unsupportedOperation ∈ Kind.documented by decide)
    | @malformed cmd _ hname hrefusal =>
      by_cases hmisleads : cmd.Misleads payload
      · exact .inr (.inr ⟨cmd, hname, hmisleads⟩)
      · rw [hrefusal.plain hmisleads]
        exact .inl (by decide)
    | operation _ horders hop =>
      exact (horders.documented hop hgenuine).imp_right .inl

/-- An unlock request for a ninth sector is refused before anybody waits. -/
theorem crowdedHost_dispatch :
    ∃ e, (dispatch (.int 2) (.octets [8, 65, 0, 0]) {} Operation.crowdedHost).1 = .error e ∧
      e.kind = .invalidArgument ∧ e.kind ∈ Kind.documented ∧
      Registers Operation.crowdedHost
        (dispatch (.int 2) (.octets [8, 65, 0, 0]) {} Operation.crowdedHost).2 := by
  obtain ⟨-, -, hnamed, hdocumented⟩ :=
    dispatch_trichotomy {} Operation.crowdedHost (.int 2) (.octets [8, 65, 0, 0])
  have hmalformed : ∀ op, ¬ Command.Orders .unlockSector (.octets [8, 65, 0, 0]) op := by
    intro op horders
    cases horders with
    | unlockSector hs => exact absurd hs (by decide)
  have hplain (cmd : Command) : ¬ cmd.Misleads (.octets [8, 65, 0, 0]) := by
    rintro ⟨layout, -, hbad⟩
    exact Packet.not_misleads_bytes hbad
  obtain ⟨⟨e, hfail, hkind, -⟩, hregisters⟩ := (hnamed .unlockSector .code).2 hmalformed
  rcases hdocumented Sink.genuine_ample e hfail with hknown | ⟨b, hb, -⟩ | ⟨cmd, -, hbad⟩
  · exact ⟨e, hfail, hkind (hplain _), hknown, hregisters⟩
  · cases hb
  · exact absurd hbad (hplain cmd)

/-- That every payload that is not well-formed is refused as an argument is too much to say. -/
theorem not_all_malformed_refused :
    ¬ ∀ (c : Circumstance) (h : Host) (cmd : Command) (command payload : Value),
      cmd.Named command → (∀ op, ¬ cmd.Orders payload op) →
        ∃ e, (dispatch command payload c h).1 = .error e ∧ e.kind = .invalidArgument := by
  intro hall
  obtain ⟨e, hfail, hkind⟩ := hall {} Operation.crowdedHost .lockSector (.command .lockSector)
    (.view (.spacedZeros 4)) .command (fun op horders => by cases horders)
  cases hfail
  cases hkind

end Control

end SectorDisk
