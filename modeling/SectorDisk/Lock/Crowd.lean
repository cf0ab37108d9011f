import SectorDisk.Failure

/-!
# Threads around a lock

Any number of named threads compete for one lock.  The steps below are the pieces that the lock
makes atomic: a thread comes, a waiting thread looks again, the owner lets go, the lock is
interrupted, a cancel event is set or cleared.  They may follow each other in any order; a waiting
thread may look again at any time.

`Crowd.settle` lets every waiting thread look once; `Crowd.act` is a step after which everything
settles.
-/

namespace SectorDisk

/-! ## §1 State -/

/-- A thread that waits, with what it brought along. -/
structure Waiter where
  /-- The thread. -/
  thread : String
  /-- The event that cancels its wait. -/
  cancel : Option String
  /-- What it wants the lock for. -/
  operation : Option String
  /-- The interruptions it had seen when it came. -/
  ticket : Nat
  /-- Whether it comes to enter a context, which it leaves later. -/
  entering : Bool
  deriving DecidableEq, Repr

/-- A lock with the threads around it. -/
structure Crowd where
  /-- The name of the lock. -/
  name : String := "lock"
  /-- The lock. -/
  lock : Lock String := {}
  /-- The cancel events that are set. -/
  events : List String := []
  /-- The waiting threads, in the order in which they came. -/
  waiting : List Waiter := []
  /-- The entered contexts by thread, the latest first. -/
  scopes : List String := []
  deriving DecidableEq, Repr

/-- What ended for a thread. -/
abbrev Ending := String × Except Failure Unit

/-- One step around the lock. -/
inductive Move where
  /-- A thread asks for the lock, as itself or to enter a context. -/
  | acquire (thread : String) (cancel operation : Option String) (entering : Bool)
  /-- A waiting thread looks at the lock again. -/
  | recheck (thread : String)
  /-- A thread lets the lock go. -/
  | release (thread : String)
  /-- A thread leaves the context it entered last. -/
  | leave (thread : String)
  /-- The lock is interrupted. -/
  | interrupt
  /-- A cancel event is set. -/
  | set (event : String)
  /-- A cancel event is cleared. -/
  | clear (event : String)
  deriving DecidableEq, Repr

namespace Crowd

/-! ## §2 Steps -/

/-- Whether a thread's cancel event is set. -/
def cancelled (c : Crowd) (w : Waiter) : Bool :=
  match w.cancel with
  | some event => c.events.contains event
  | none => false

/-- The refusal of a waiting thread. -/
def refusal (c : Crowd) (w : Waiter) (why : Refusal) : Failure :=
  .interrupted why c.name w.operation

/-- The crowd without a thread among the waiting. -/
def without (c : Crowd) (thread : String) : Crowd :=
  { c with waiting := c.waiting.filter fun w => decide (w.thread ≠ thread) }

/-- The crowd after a thread got the lock; a context counts as entered. -/
def granted (c : Crowd) (w : Waiter) (lock : Lock String) : Crowd :=
  { c with lock := lock, scopes := if w.entering then w.thread :: c.scopes else c.scopes }

/-- One look of a thread at the lock.  While it waits on, the crowd is `waits`. -/
def look (c : Crowd) (w : Waiter) (waits : Crowd) : Crowd × List Ending :=
  match c.lock.attempt w.thread w.ticket (c.cancelled w) with
  | .granted lock => (c.granted w lock, [(w.thread, .ok ())])
  | .refused why => (c, [(w.thread, .error (c.refusal w why))])
  | .waits => (waits, [])

/-- A thread comes for the lock. -/
def arrive (c : Crowd) (w : Waiter) : Crowd × List Ending :=
  if c.lock.owner = some w.thread then (c, [(w.thread, .error (.reentered c.name))])
  else c.look w { c with waiting := c.waiting ++ [w] }

/-- A waiting thread looks again; one that does not wait does nothing. -/
def recheck (c : Crowd) (thread : String) : Crowd × List Ending :=
  match c.waiting.find? fun w => decide (w.thread = thread) with
  | some w => (c.without thread).look w c
  | none => (c, [])

/-- A thread lets the lock go. -/
def release (c : Crowd) (thread : String) : Crowd × List Ending :=
  if c.lock.owner = some thread then ({ c with lock := c.lock.freed }, [(thread, .ok ())])
  else (c, [(thread, .error (.notOwner c.name))])

/-- A thread leaves its latest context, which lets the lock go; without a context nothing
happens. -/
def leave (c : Crowd) (thread : String) : Crowd × List Ending :=
  if c.scopes.contains thread then
    release { c with scopes := c.scopes.erase thread } thread
  else (c, [])

/-- One step. -/
def step (c : Crowd) : Move → Crowd × List Ending
  | .acquire thread cancel operation entering =>
    c.arrive ⟨thread, cancel, operation, c.lock.interruptions, entering⟩
  | .recheck thread => c.recheck thread
  | .release thread => c.release thread
  | .leave thread => c.leave thread
  | .interrupt => ({ c with lock := c.lock.interrupted }, [])
  | .set event => ({ c with events := event :: c.events }, [])
  | .clear event => ({ c with events := c.events.filter fun e => decide (e ≠ event) }, [])

/-! ## §3 Settled steps -/

/-- Lets the given threads look again, one after the other. -/
def settleAll (c : Crowd) : List Waiter → Crowd × List Ending
  | [] => (c, [])
  | w :: rest =>
    let (c, ended) := c.recheck w.thread
    let (c, more) := c.settleAll rest
    (c, ended ++ more)

/-- Lets every waiting thread look again. -/
def settle (c : Crowd) : Crowd × List Ending :=
  c.settleAll c.waiting

/-- A step, after which everything settles. -/
def act (c : Crowd) (move : Move) : Crowd × List Ending :=
  let (c, ended) := c.step move
  let (c, more) := c.settle
  (c, ended ++ more)

end Crowd

end SectorDisk
