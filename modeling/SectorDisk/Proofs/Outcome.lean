import SectorDisk.Proofs.Deed
import SectorDisk.Proofs.Exclusion

/-!
# Outcomes of operations

Every operation either fails and has done nothing, or succeeds and has done its deeds, which the
store admitted; in both cases other threads may have done their part while it waited.  `Outcome`
says this of one operation.

The rules below put outcomes of sequences and exclusive sections together.  The modules under
`Outcome` give the outcome of each operation, by the part of the device that it is about, and end
with the outcome of everything that can be asked of a device (`Operation.perform_outcome`).
-/

namespace SectorDisk

variable {α β : Type}

/-! ## §1 Outcomes -/

/-- From the status `k` the result came about at once, and with it `deeds` and nothing else; a
failure did nothing. -/
def Exactly (k : Status) (deeds : α → List Deed) (out : Except Failure α × Host) : Prop :=
  match out.1 with
  | .ok a => out.2.device.status = k.after (deeds a) ∧ k.toStore.Permits (deeds a)
  | .error _ => out.2.device.status = k

/-- From the status `k`, and perhaps after a wait, the result came about, and with it `deeds` and
nothing else; a failure did nothing. -/
def Outcome (c : Circumstance) (k : Status) (deeds : α → List Deed)
    (out : Except Failure α × Host) : Prop :=
  ∃ k', Idle c k k' ∧ Exactly k' deeds out

/-- What an operation makes of the store, whatever a wait did to the status. -/
theorem Outcome.store_cases {c : Circumstance} {h : Host} {deeds : α → List Deed}
    {out : Except Failure α × Host} (hout : Outcome c h.device.status deeds out) :
    (∃ e, out.1 = .error e ∧ out.2.device.store = h.device.store) ∨
      ∃ a, out.1 = .ok a ∧ out.2.device.store = h.device.store.after (deeds a) ∧
        h.device.store.Permits (deeds a) := by
  obtain ⟨k, hidle, hexact⟩ := hout
  have hk : k.toStore = h.device.store := hidle.toStore
  rw [← Device.status_toStore out.2.device, ← hk]
  unfold Exactly at hexact
  cases hr : out.1 with
  | error e =>
    simp only [hr] at hexact
    exact .inl ⟨e, rfl, by rw [hexact]⟩
  | ok a =>
    simp only [hr] at hexact
    obtain ⟨hstatus, hpermits⟩ := hexact
    exact .inr ⟨a, rfl, by rw [hstatus, Status.after_toStore], hpermits⟩

/-- What happened was a wait, perhaps, and then some deeds. -/
theorem Outcome.exists_after {c : Circumstance} {k : Status} {deeds : α → List Deed}
    {out : Except Failure α × Host} (hout : Outcome c k deeds out) :
    ∃ k' ds, Idle c k k' ∧ out.2.device.status = k'.after ds := by
  obtain ⟨k', hidle, hexact⟩ := hout
  unfold Exactly at hexact
  cases hr : out.1 with
  | error e =>
    simp only [hr] at hexact
    exact ⟨k', [], hidle, hexact⟩
  | ok a =>
    simp only [hr] at hexact
    exact ⟨k', deeds a, hidle, hexact.1⟩

/-! ## §2 Rules -/

namespace Outcome

variable {c : Circumstance} {k : Status} {h h' : Host}

/-- A failure after which nothing but the wait has happened. -/
theorem failed {deeds : α → List Deed} (hidle : Idle c k h'.device.status) (e : Failure) :
    Outcome c k deeds (.error e, h') :=
  ⟨_, hidle, rfl⟩

theorem quiet {deeds : α → List Deed} {a : α} (hidle : Idle c k h'.device.status)
    (hnone : deeds a = []) : Outcome c k deeds (.ok a, h') := by
  refine ⟨_, hidle, ?_⟩
  simp only [Exactly, hnone]
  exact ⟨rfl, trivial⟩

/-- A judgement goes first: where it fails, nothing has happened. -/
theorem judge {r : Except Failure α} {next : α → Op β} {deeds : β → List Deed}
    (hrest : ∀ a, r = .ok a → Outcome c h.device.status deeds (next a c h)) :
    Outcome c h.device.status deeds ((liftM r >>= next : Op β) c h) := by
  cases r with
  | error e => exact failed (Idle.refl c _) e
  | ok a => exact hrest a rfl

/-- An operation without deeds goes first: the rest begins where it ended. -/
theorem next {op : Op α} {next : α → Op β} {deeds : β → List Deed}
    (hfirst : Outcome c k (fun _ => []) (op c h))
    (hrest : ∀ a, (op c h).1 = .ok a →
      Outcome c (op c h).2.device.status deeds (next a c (op c h).2)) :
    Outcome c k deeds ((op >>= next) c h) := by
  obtain ⟨k', hidle, hexact⟩ := hfirst
  cases hr : (op c h).1 with
  | error e =>
    rw [Op.bind_of_error hr]
    simp only [Exactly, hr] at hexact
    exact failed (hexact ▸ hidle) e
  | ok a =>
    rw [Op.bind_of_ok hr]
    simp only [Exactly, hr, Status.after_nil] at hexact
    -- the rest may wait as well, which is no more than one wait together with the first
    obtain ⟨k'', hidle', hexact'⟩ := hrest a hr
    rw [hexact.1] at hidle'
    exact ⟨k'', hidle.trans hidle', hexact'⟩

/-- What comes last never fails and adds deeds that every store admits. -/
theorem last {op : Op α} {next : α → Op β} {deeds : α → List Deed} {all : β → List Deed}
    (hfirst : Outcome c k deeds (op c h))
    (hlast : ∀ a h', (op c h).1 = .ok a → ∃ b more, (next a c h').1 = .ok b ∧
      (next a c h').2.device.status = h'.device.status.after more ∧
      (∀ k : Store, k.Permits more) ∧ all b = deeds a ++ more) :
    Outcome c k all ((op >>= next) c h) := by
  obtain ⟨k', hidle, hexact⟩ := hfirst
  cases hr : (op c h).1 with
  | error e =>
    rw [Op.bind_of_error hr]
    simp only [Exactly, hr] at hexact
    exact failed (hexact ▸ hidle) e
  | ok a =>
    rw [Op.bind_of_ok hr]
    simp only [Exactly, hr] at hexact
    obtain ⟨hstatus, hpermits⟩ := hexact
    obtain ⟨b, more, hb, hmore, hfree, hall⟩ := hlast a (op c h).2 hr
    refine ⟨k', hidle, ?_⟩
    simp only [Exactly, hb, hall]
    refine ⟨?_, (Store.permits_append ..).mpr ⟨hpermits, hfree _⟩⟩
    rw [hmore, hstatus, Status.after_append]

theorem last_quiet {op : Op α} {next : α → Op β} {deeds : α → List Deed} {all : β → List Deed}
    (hfirst : Outcome c k deeds (op c h))
    (hlast : ∀ a h', (op c h).1 = .ok a → ∃ b, (next a c h').1 = .ok b ∧
      (next a c h').2.device.status = h'.device.status ∧ all b = deeds a) :
    Outcome c k all ((op >>= next) c h) := by
  apply hfirst.last
  intro a h' hr
  obtain ⟨b, hb, hsame, hall⟩ := hlast a h' hr
  exact ⟨b, [], hb, hsame, fun _ => trivial, by rw [hall, List.append_nil]⟩

theorem giving {op : Op α} {f : α → Value} {deeds : Value → List Deed}
    (hop : Outcome c k (fun a => deeds (f a)) (op c h)) :
    Outcome c k deeds (op.giving f c h) := by
  obtain ⟨k', hidle, hexact⟩ := hop
  rw [Op.giving_run]
  refine ⟨k', hidle, ?_⟩
  unfold Exactly at hexact ⊢
  cases hr : (op c h).1 with
  | error e => simpa only [hr, Except.map] using hexact
  | ok a => simpa only [hr, Except.map] using hexact

/-- A section under the lock of a buffer: what its body does at once is done, and the lock is let
go again. -/
theorem exclusively {body : Op α} {deeds : α → List Deed} (b : Buffer) (purpose : String)
    (hbody : ∀ held : Host, held.device.store = h.device.store →
      Exactly held.device.status deeds (body c held)) :
    Outcome c h.device.status deeds (Op.exclusively b purpose body c h) := by
  rcases Op.exclusively_cases b purpose body c h with
    ⟨e, h', hrun, hgave⟩ | ⟨k, held, hadmitted, hrun⟩
  · rw [hrun]
    exact failed hgave.idle e
  · rw [hrun]
    refine ⟨k, hadmitted.idle, ?_⟩
    have hdone := hbody held hadmitted.store
    unfold Exactly at hdone ⊢
    cases hr : (body c held).1 with
    | error e =>
      simp only [hr] at hdone ⊢
      rw [Op.release_status, hdone, hadmitted.taken]
      exact Status.owned_after_owned hadmitted.free [] _
    | ok a =>
      simp only [hr] at hdone ⊢
      obtain ⟨hstatus, hpermits⟩ := hdone
      rw [hadmitted.taken] at hstatus hpermits
      rw [Status.owned_toStore] at hpermits
      refine ⟨?_, hpermits⟩
      -- the body ran with the lock in the hands of the caller, which its deeds do not see
      rw [Op.release_status, hstatus]
      exact Status.owned_after_owned hadmitted.free (deeds a) _

theorem inspect {deeds : α → List Deed} (b : Buffer) (purpose : String) (f : Device → α)
    (hnone : ∀ a, deeds a = []) :
    Outcome c h.device.status deeds
      (Op.exclusively b purpose (do return f (← Op.device)) c h) := by
  apply exclusively
  intro held _
  simp only [Exactly, Op.device_bind_run, Op.pure_run, hnone]
  exact ⟨rfl, trivial⟩

end Outcome

end SectorDisk
