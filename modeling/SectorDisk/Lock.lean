/-!
# Interruptible locks

An exclusive lock that knows its owner and is not reentrant.  A party that finds it taken waits; it
gives up when its own cancel event is set or when the lock is interrupted.  Interruptions are
counted, and a waiting party remembers the count at which it came (its *ticket*), so that an
interruption ends exactly the waits that were under way.

`Lock.attempt` is the one look at the lock that a party takes on coming and after every wake-up.
-/

namespace SectorDisk

/-- A lock that parties of type `τ` compete for. -/
structure Lock (τ : Type) where
  /-- Who owns it. -/
  owner : Option τ := none
  /-- How often it has been interrupted. -/
  interruptions : Nat := 0
  deriving DecidableEq, Repr

/-- Why a party gave up waiting. -/
inductive Refusal where
  /-- Its cancel event was set. -/
  | cancelled
  /-- The lock was interrupted. -/
  | interrupted
  deriving DecidableEq, Repr

/-- What one look at a lock leads to. -/
inductive Attempt (τ : Type) where
  /-- The party owns the lock now. -/
  | granted (lock : Lock τ)
  /-- The party gives up. -/
  | refused (why : Refusal)
  /-- The party goes on waiting. -/
  | waits

namespace Lock

variable {τ : Type}

/-- One look at the lock by a party that came with the given ticket: a free lock is taken, whatever
else has happened; at a taken one the cancel event counts before an interruption. -/
def attempt (lock : Lock τ) (party : τ) (ticket : Nat) (cancelled : Bool) : Attempt τ :=
  match lock.owner with
  | none => .granted { lock with owner := some party }
  | some _ =>
    if cancelled then .refused .cancelled
    else if lock.interruptions ≠ ticket then .refused .interrupted
    else .waits

/-- The lock after its owner let go. -/
def freed (lock : Lock τ) : Lock τ :=
  { lock with owner := none }

/-- The lock after an interruption. -/
def interrupted (lock : Lock τ) : Lock τ :=
  { lock with interruptions := lock.interruptions + 1 }

/-- Whether anybody owns the lock. -/
def isTaken (lock : Lock τ) : Bool :=
  lock.owner.isSome

end Lock

end SectorDisk
