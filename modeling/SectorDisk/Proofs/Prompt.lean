import SectorDisk.Proofs.Contention
import SectorDisk.Proofs.Outcome.Storage

/-!
# Prompt operations

An operation that finds the lock free that it asks for does not wait, so nobody else comes in
between: what it ends with and what it does are settled by the device that it found.  `Prompt` says
both of one operation, and the rules below put sequences and exclusive sections together.
-/

namespace SectorDisk

variable {α β : Type} {c : Circumstance} {h : Host} {k : Status} {deeds : List Deed}

/-- From the status `k` the result came about at once, and with it the deeds and nothing else. -/
structure Prompt (k : Status) (r : Except Failure α) (deeds : List Deed)
    (out : Except Failure α × Host) : Prop where
  result : out.1 = r
  status : out.2.device.status = k.after deeds

/-! ## §1 Rules -/

namespace Prompt

variable {op : Op α} {a : α} {e : Failure}

theorem failed {next : α → Op β} (hfirst : Prompt k (.error e) deeds (op c h)) :
    Prompt k (.error e) deeds ((op >>= next) c h) := by
  rw [Op.bind_of_error hfirst.result]
  exact ⟨rfl, hfirst.status⟩

/-- What comes last adds no deeds. -/
theorem last {next : α → Op β} {r : Except Failure β} (hfirst : Prompt k (.ok a) deeds (op c h))
    (hlast : ∀ h', Prompt h'.device.status r [] (next a c h')) :
    Prompt k r deeds ((op >>= next) c h) := by
  rw [Op.bind_of_ok hfirst.result]
  have hdone := hlast (op c h).2
  exact ⟨hdone.result, hdone.status.trans hfirst.status⟩

theorem giving {r : Except Failure α} (hop : Prompt k r deeds (op c h)) (g : α → Value) :
    Prompt k (r.map g) deeds (op.giving g c h) := by
  rw [Op.giving_run]
  exact ⟨congrArg (Except.map g) hop.result, hop.status⟩

/-- A section under a free lock: what its body does is done, and the lock is free again. -/
theorem exclusively {b : Buffer} (purpose : String) {body : Op α} {r : Except Failure α}
    (hfree : (h.device.lockOf b).owner = none)
    (hbody : ∀ held : Host, held.device.store = h.device.store →
      Prompt held.device.status r deeds (body c held)) :
    Prompt h.device.status r deeds (Op.exclusively b purpose body c h) := by
  have hacquired : Op.acquire b purpose c h = (.ok (), Op.owning b (Op.asking b h)) :=
    Op.acquire_of_none hfree
  have hentered : (Op.owning b (Op.asking b h)).device.status =
      h.device.status.owned b (some .caller) := Device.setLock_status ..
  -- the body runs with the lock in the hands of the caller, which its deeds do not see
  have hdone := hbody (Op.owning b (Op.asking b h)) <| by
    rw [← Device.status_toStore, hentered, Status.owned_toStore, Device.status_toStore]
  rw [Op.exclusively_eq, Op.bind_of_ok (congrArg Prod.fst hacquired), hacquired]
  refine ⟨hdone.result, ?_⟩
  rw [Op.releasing, Op.release_status, hdone.status, hentered]
  exact Status.owned_after_owned ((Device.lockOf_owner ..).symm.trans hfree) deeds _

end Prompt

/-! ## §2 The primary buffer -/

namespace Storage

theorem read_prompt (hfree : (h.device.lockOf .primary).owner = none) (offset length : Nat) :
    Prompt h.device.status
      (.ok (h.device.primary.slice offset (min length (diskSize - offset)))) []
      (read (.int offset) (.int length) c h) := by
  unfold read
  rw [natural_int, natural_int, Op.lift_ok_bind_run, Op.lift_ok_bind_run, toNat_fittingLength]
  by_cases hnone : min length (diskSize - offset) = 0
  · -- nothing to read, so that the lock is not asked for
    rw [if_pos hnone, hnone]
    exact ⟨congrArg Except.ok (List.take_zero ..).symm, rfl⟩
  · rw [if_neg hnone]
    apply Prompt.exclusively _ hfree
    intro held hstore
    have hprimary : held.device.primary = h.device.primary := congrArg Store.primary hstore
    rw [← hprimary]
    exact ⟨rfl, rfl⟩

variable {start : Nat} {data : Value} {bytes : Bytes} {s : Sector}

/-- A write that has a place on the disk and something to write is a section in which as much is
laid over the buffer as fits. -/
theorem write_eq (hstart : start < diskSize) (hdata : data.bytes? = some bytes)
    (hsome : bytes ≠ []) :
    write (.int start) data = (do
      Op.exclusively .primary "write" (overwrite start (bytes.take (diskSize - start)))
      return (bytes.take (diskSize - start)).length) := by
  have hroom : ¬diskSize ≤ start := Nat.not_le.mpr hstart
  have hlength : (bytes.take (diskSize - start)).length = min bytes.length (diskSize - start) := by
    rw [List.length_take, Nat.min_comm]
  have hcount : min bytes.length (diskSize - start) ≠ 0 := by
    have hpos := List.length_pos_iff.mpr hsome
    omega
  have htake : bytes.take (min bytes.length (diskSize - start)) =
      bytes.take (diskSize - start) := by
    rw [← hlength, List.length_take, List.take_eq_take_iff]
    omega
  funext c h
  unfold write
  rw [natural_int, Op.lift_ok_bind_run, if_neg hroom, bytesToWrite_of_some hdata]
  simp only [Op.lift_ok_bind_run, toNat_fittingLength, if_neg hcount, htake, hlength]

/-- What a write comes to that has a place on the disk and something to write. -/
theorem write_prompt {r : Except Failure Unit} (hfree : (h.device.lockOf .primary).owner = none)
    (hstart : start < diskSize) (hdata : data.bytes? = some bytes) (hsome : bytes ≠ [])
    (hbody : ∀ held : Host, held.device.store = h.device.store →
      Prompt held.device.status r deeds
        (overwrite start (bytes.take (diskSize - start)) c held)) :
    Prompt h.device.status (r.map fun _ => (bytes.take (diskSize - start)).length) deeds
      (write (.int start) data c h) := by
  have hwritten := Prompt.exclusively "write" hfree hbody
  rw [write_eq hstart hdata hsome]
  cases r with
  | error e => exact hwritten.failed
  | ok _ => exact hwritten.last fun h' => ⟨rfl, rfl⟩

theorem overwrite_prompt_refused {held : Host} {content : Bytes}
    (hfirst : held.device.firstProtected? (span start content.length) = some s) :
    Prompt held.device.status (.error (.locked s .write)) [] (overwrite start content c held) := by
  unfold overwrite
  rw [Op.device_bind_run, hfirst]
  exact ⟨rfl, rfl⟩

theorem overwrite_prompt {held : Host} {content : Bytes}
    (hnone : held.device.firstProtected? (span start content.length) = none) :
    Prompt held.device.status (.ok ()) [.wrote start content] (overwrite start content c held) := by
  unfold overwrite
  rw [Op.device_bind_run, hnone]
  exact ⟨rfl, rfl⟩

/-- A key lifts protection. -/
theorem unlock_prompt {sector key : Value} (hfree : (h.device.lockOf .primary).owner = none)
    (hs : Sector.ofValue sector = .ok s) (hkey : h.device.keys.accepts key = true) :
    Prompt h.device.status (.ok ()) [.unlocked s key] (unlock sector key c h) := by
  unfold unlock
  rw [hs, Op.lift_ok_bind_run, Op.device_bind_run, if_pos hkey]
  apply Prompt.last
  · apply Prompt.exclusively _ hfree
    intro held _
    exact ⟨rfl, rfl⟩
  · intro h'
    exact ⟨rfl, rfl⟩

/-- What is no key is refused before the lock is asked for. -/
theorem unlock_prompt_refused {sector key : Value} (hs : Sector.ofValue sector = .ok s)
    (hkey : h.device.keys.accepts key = false) :
    Prompt h.device.status (.error (.keyRefused s)) [] (unlock sector key c h) := by
  unfold unlock
  rw [hs, Op.lift_ok_bind_run, Op.device_bind_run, if_neg (Bool.eq_false_iff.mp hkey)]
  exact ⟨rfl, rfl⟩

end Storage

end SectorDisk
