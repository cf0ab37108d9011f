import SectorDisk.Device.State
import SectorDisk.Sink

/-!
# Operations

An operation runs on a host under given circumstances.  It ends with a result or a failure, and what
it did before it failed stays done.

`exclusively` runs a body while the caller owns the lock of a buffer, and lets the lock go on every
way out.  Where another thread owns the lock the operation waits.  Its circumstances say what
happens then; a wait that this does not end is ended by an interruption of that lock.
-/

namespace SectorDisk

/-! ## §1 Circumstances -/

/-- What happens as soon as an operation waits. -/
inductive Wake where
  /-- The cancel event of the operation is set. -/
  | cancel
  /-- The lock of a buffer is interrupted. -/
  | interrupt (b : Buffer)
  /-- The device is closed. -/
  | close
  /-- The other thread lets all locks go. -/
  | release
  deriving DecidableEq, Repr

/-- The circumstances of an operation. -/
structure Circumstance where
  /-- Whether its cancel event is set from the start. -/
  cancelled : Bool := false
  /-- What happens as soon as it waits. -/
  wake : Option Wake := none
  /-- How a backup file behaves. -/
  sink : Sink := Sink.ample
  /-- The seconds that a control command takes. -/
  latency : Float := 0.0

/-- Whether the cancel event is set once the operation waits. -/
def Circumstance.cancelledOnWait (c : Circumstance) : Bool :=
  c.cancelled || c.wake = some .cancel

/-- The host after what happens when an operation waits. -/
def Host.woken (h : Host) : Wake → Host
  | .cancel => h
  | .interrupt b => h.updateDevice fun d => d.interrupted b
  | .close => h.closed
  | .release => h.updateDevice fun d => (d.letGo .primary).letGo .mirror

/-! ## §2 Operations -/

/-- An operation. -/
def Op (α : Type) : Type :=
  Circumstance → Host → Except Failure α × Host

namespace Op

variable {α β : Type}

/-- Continues an operation with its result; a failure ends both. -/
def andThen (op : Op α) (next : α → Op β) : Op β := fun c h =>
  match op c h with
  | (.ok a, h) => next a c h
  | (.error e, h) => (.error e, h)

instance : Monad Op where
  pure a := fun _ h => (.ok a, h)
  bind := andThen

/-- Ends with a failure. -/
def fail (e : Failure) : Op α := fun _ h => (.error e, h)

/-- Ends as a judgement says. -/
def judge (r : Except Failure α) : Op α := fun _ h => (r, h)

instance : MonadLift (Except Failure) Op where
  monadLift := judge

/-- The host as it is. -/
def host : Op Host := fun _ h => (.ok h, h)

/-- The device as it is. -/
def device : Op Device := fun _ h => (.ok h.device, h)

/-- The circumstances. -/
def circumstance : Op Circumstance := fun c h => (.ok c, h)

/-- Changes the host. -/
def update (f : Host → Host) : Op Unit := fun _ h => (.ok (), f h)

/-- Changes the device. -/
def updateDevice (f : Device → Device) : Op Unit :=
  update fun h => h.updateDevice f

/-- Tells the operator something. -/
def tell (n : Notice) : Op Unit :=
  update fun h => h.tell n

/-! ## §3 Exclusive sections -/

/-- The second look at a lock, after the operation was woken. -/
def retry (b : Buffer) (purpose : String) (ticket : Nat) : Op Unit := fun c h =>
  match (h.device.lockOf b).attempt .caller ticket c.cancelledOnWait with
  | .granted lock => (.ok (), h.updateDevice fun d => d.setLock b lock)
  | .refused why => (.error (.interrupted why b.lockName (some purpose)), h)
  | .waits =>
    (.error (.interrupted .interrupted b.lockName (some purpose)),
      h.updateDevice fun d => d.interrupted b)

/-- Takes the lock of a buffer, waiting for it if another thread owns it. -/
def acquire (b : Buffer) (purpose : String) : Op Unit := fun c h =>
  let lock := h.device.lockOf b
  let h := h.enter (.request b (h.device.ownedBy .caller))
  if lock.owner = some .caller then (.error (.reentered b.lockName), h)
  else
    match lock.attempt .caller lock.interruptions c.cancelled with
    | .granted lock => (.ok (), h.updateDevice fun d => d.setLock b lock)
    | .refused why => (.error (.interrupted why b.lockName (some purpose)), h)
    | .waits =>
      let h := match c.wake with | some wake => h.woken wake | none => h
      retry b purpose lock.interruptions c h

/-- Lets the lock of a buffer go. -/
def release (b : Buffer) : Host → Host := fun h =>
  h.updateDevice fun d => d.setLock b (d.lockOf b).freed

/-- Runs a body while the caller owns the lock of a buffer. -/
def exclusively (b : Buffer) (purpose : String) (body : Op α) : Op α := fun c h =>
  match acquire b purpose c h with
  | (.error e, h) => (.error e, h)
  | (.ok (), h) =>
    let (r, h) := body c h
    (r, release b h)

end Op

end SectorDisk
