import KeyedDelivery.Lock.Registry
import KeyedDelivery.Outcome

/-!
# Actions under a lock

An action is run while a named lock is held: at most once, only after the lock was granted, and the
lock is released on every path. `LockService` is what a mutex asks of the locks, as functions on the
state `σ` of the world the locks live in, with handles `η`.

A panic of the action is caught. One of the attempt to take the lock is not: the call panics itself,
before the action.
-/

namespace KeyedDelivery

/-- A source of named locks in a world of states `σ`. -/
structure LockService (σ η : Type) where
  obtain : String → σ → Except LockError η × σ
  tryLock : Nat → η → σ → Outcome (Except LockError Bool) × η × σ
  unlock : η → σ → Except LockError Unit × η × σ

/-- The locks of a registry. `last` is the greatest reading of their clock, if there is one. -/
def LockRegistry.service {σ : Type} (get : σ → LockRegistry) (set : LockRegistry → σ → σ)
    (last : Option Nat := none) : LockService σ LockHandle where
  obtain key s :=
    let (h, r) := (get s).obtain key
    (.ok h, set r s)
  tryLock timeout h s :=
    let (answer, h, r) := (get s).tryLock h timeout last
    (answer, h, set r s)
  unlock h s :=
    let (answer, h, r) := (get s).unlock h
    (answer, h, set r s)

/-- Mutual exclusion over a source of locks. -/
structure LockMutex (σ η : Type) where
  service : LockService σ η
  /-- How long an acquire waits when nothing else is said. -/
  defaultTimeout : Nat := Time.seconds 5

namespace LockMutex

variable {σ η α : Type}

/-- Takes a lock: the handle that holds it. -/
def acquire (m : LockMutex σ η) (key : String) (timeout : Nat) (s : σ) :
    Outcome (Except SkipReason η) × σ :=
  match m.service.obtain key s with
  | (.error e, s) => (.returned (.error (.failed e.message)), s)
  | (.ok h, s) =>
    match m.service.tryLock timeout h s with
    | (.returned (.ok true), h, s) => (.returned (.ok h), s)
    | (.returned (.ok false), _, s) => (.returned (.error .notAcquired), s)
    | (.returned (.error e), _, s) => (.returned (.error (.ofError e)), s)
    | (.panicked p, _, s) => (.panicked p, s)

/-- Gives a lock back. What the registry says about it changes nothing. -/
def release (m : LockMutex σ η) (h : η) (s : σ) : σ := (m.service.unlock h s).2.2

/-- Runs an action under a lock, and says why it has no result. -/
def tryWithLock (m : LockMutex σ η) (key : String) (timeout : Nat)
    (action : σ → Outcome α × σ) (s : σ) : Outcome (Except SkipReason α) × σ :=
  if key.isEmpty then (.returned (.error (.invalidArgument (.empty "lock_key"))), s)
  else if timeout = 0 then
    (.returned (.error (.invalidArgument (.notPositive "acquire_timeout"))), s)
  else match m.acquire key timeout s with
    | (.panicked p, s) => (.panicked p, s)
    | (.returned (.error skip), s) => (.returned (.error skip), s)
    | (.returned (.ok h), s) =>
      let (outcome, s) := action s
      let s := m.release h s
      match outcome with
      | .returned a => (.returned (.ok a), s)
      | .panicked p => (.returned (.error (.actionPanicked p.message)), s)

/-- Runs an action under a lock. -/
def withLock (m : LockMutex σ η) (key : String) (timeout : Nat)
    (action : σ → Outcome α × σ) (s : σ) : Outcome (Option α) × σ :=
  let (result, s) := m.tryWithLock key timeout action s
  (result.map (·.toOption), s)

/-- Runs a test under a lock; one without a result is false. -/
def testWithLock (m : LockMutex σ η) (key : String) (timeout : Nat)
    (test : σ → Outcome Bool × σ) (s : σ) : Outcome Bool × σ :=
  let (result, s) := m.withLock key timeout test s
  (result.map (·.getD false), s)

end LockMutex

end KeyedDelivery
