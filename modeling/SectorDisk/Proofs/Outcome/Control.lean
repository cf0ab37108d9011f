import SectorDisk.Proofs.Outcome.Mirror

/-!
# Outcomes of control commands

A command does what its operation does; counting and timing it adds nothing.
-/

namespace SectorDisk

namespace Control

variable (c : Circumstance) (h : Host)

/-- A command on the sector that a payload names does what its operation does. -/
theorem onPayload_outcome {payload : Value} {op : Value → Op Unit} {deed : Sector → Deed}
    (hop : ∀ sector, Outcome c h.device.status (fun _ => Deed.onSector sector deed)
      (op sector c h)) :
    Outcome c h.device.status (fun _ => Deed.onPayload payload deed)
      ((do
        let sector ← sectorArgument payload
        op sector
        return Value.none : Op Value) c h) := by
  apply Outcome.judge
  intro sector hsector
  apply (hop sector).last_quiet
  intro _ h' _
  exact ⟨.none, rfl, rfl, by simp only [Deed.onPayload, hsector]⟩

theorem carryOut_outcome (command : Command) (payload : Value) :
    Outcome c h.device.status (fun _ => command.deeds h.device payload)
      (carryOut command payload c h) := by
  cases command with
  | lockSector => exact onPayload_outcome c h fun sector => Storage.lock_outcome c h sector
  | unlockSector =>
    apply Outcome.judge
    intro request hrequest
    apply (Storage.unlock_outcome c h _ _).last_quiet
    intro _ h' _
    refine ⟨.none, rfl, rfl, ?_⟩
    simp only [Command.deeds, hrequest, Deed.onSector_of_ok (Sector.ofValue_val request.sector)]
  | getLockInfo =>
    unfold carryOut
    by_cases hexcess : payload.isTrue = true
    · simp only [if_pos hexcess, Op.fail_bind_run]
      exact Outcome.failed (Idle.refl c _) _
    · simp only [if_neg hexcess]
      apply (Storage.protections_outcome c h).last_quiet
      intro flags h' _
      exact ⟨_, rfl, rfl, rfl⟩
  | eraseSector => exact onPayload_outcome c h fun sector => Storage.erase_outcome c h sector
  | mirrorSector => exact onPayload_outcome c h fun sector => Mirror.capture_outcome c h sector
  | backupToFile =>
    apply Outcome.judge
    intro path _
    apply (Mirror.backup_outcome c h _).last_quiet
    intro _ h' _
    exact ⟨.none, rfl, rfl, rfl⟩

/-- Counting a command adds nothing to what the command did. -/
theorem counted_outcome (command : Command) (payload : Value) :
    Outcome c h.device.status (fun _ => command.deeds h.device payload)
      (counted command payload c h) := by
  have hcarried := carryOut_outcome c (record (·.started command) h) command payload
  obtain ⟨k, hidle, hexact⟩ := hcarried
  refine ⟨k, hidle, ?_⟩
  unfold counted
  unfold Exactly at hexact ⊢
  rcases hrun : carryOut command payload c (record (·.started command) h) with ⟨r, h'⟩
  rw [hrun] at hexact
  cases r with
  | error e => exact hexact
  | ok answer => exact hexact

theorem dispatch_outcome (command payload : Value) :
    Outcome c h.device.status (fun _ => Deed.ofCommand h.device command payload)
      (dispatch command payload c h) := by
  unfold dispatch Deed.ofCommand
  cases Command.ofValue command with
  | ok known => exact counted_outcome c h known payload
  | error e =>
    refine Outcome.failed ?_ e
    exact Idle.refl c _

end Control

end SectorDisk
