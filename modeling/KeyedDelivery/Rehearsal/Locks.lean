import KeyedDelivery.Rehearsal.LockAction

/-!
# A registry with named handles and guards

Several owners at one registry: handles that are locked and unlocked by hand, guards that a mutex
hands out, and a second thread that waits for a lock while something happens.
-/

namespace KeyedDelivery.Rehearsal

/-- A registry, the handles and the guards on it, and how many actions ran. -/
structure Locks where
  registry : LockRegistry
  handles : Table String LockHandle := []
  guards : Table String LockHandle := []
  actions : Nat := 0

/-- What happens while a second thread waits. -/
inductive Meanwhile where
  | interrupt
  /-- The handle of a name is unlocked, if there is one. -/
  | unlock (other : String)
  deriving DecidableEq, Repr

namespace Locks

def service : LockService Locks LockHandle :=
  LockRegistry.service (·.registry) (fun r s => { s with registry := r }) (some Time.lastReading)

def obtain (s : Locks) (name key : String) : LockHandle × Locks :=
  let (h, r) := s.registry.obtain key
  (h, { s with registry := r, handles := s.handles.put name h })

/-- Stores the end of an operation of a handle. -/
def settled {α : Type} (s : Locks) (name : String) : α × LockHandle × LockRegistry → α × Locks
  | (a, h, r) => (a, { s with registry := r, handles := s.handles.put name h })

/-- Tries to take the lock of a handle. -/
def tryLock? (s : Locks) (name : String) (timeout : Nat) :
    Option (Outcome (Except LockError Bool) × Locks) :=
  (s.handles.find? name).map fun h =>
    s.settled name (s.registry.tryLock h timeout (some Time.lastReading))

def unlock? (s : Locks) (name : String) : Option (Except LockError Unit × Locks) :=
  (s.handles.find? name).map fun h => s.settled name (s.registry.unlock h)

/-- The other handle's part: what its unlocking answered. The handle of the waiting thread is not at
hand. -/
def unlockOther (s : Locks) (waiting : String) : Meanwhile → Option (Except LockError Unit) × Locks
  | .interrupt => (none, s)
  | .unlock other =>
    if other = waiting then (none, s)
    else match s.unlock? other with
      | none => (none, s)
      | some (answer, s) => (some answer, s)

/-- A second thread tries to take the lock of a handle. While it waits it is interrupted, or another
handle is unlocked; if it need not wait, the other handle is unlocked afterwards. -/
def wait? (s : Locks) (name : String) (timeout : Nat) (meanwhile : Meanwhile) :
    Option ((Outcome (Except LockError Bool) × Option (Except LockError Unit)) × Locks) :=
  (s.handles.find? name).map fun h =>
    match s.registry.beginWait h timeout (some Time.lastReading) with
    | (.panicked p, r) =>
      let (other, s) := { s with registry := r }.unlockOther name meanwhile
      ((.panicked p, other), s)
    | (.returned (.error e), r) =>
      let (other, s) := { s with registry := r }.unlockOther name meanwhile
      ((.returned (.error e), other), s)
    | (.returned (.ok w), r) =>
      let s := { s with registry := r }
      match r.look w with
      | .waits _ =>
        let (other, s) := s.unlockOther name meanwhile
        let r := if meanwhile = .interrupt then s.registry.interrupt else s.registry
        let (answer, s) := s.settled name (r.await w)
        ((answer, other), s)
      | _ =>
        let (answer, s) := s.settled name (r.await w)
        let (other, s) := s.unlockOther name meanwhile
        ((answer, other), s)

/-- Takes a lock through a mutex and keeps the guard under a name. A guard that was kept under this
name before is given up then. -/
def acquire (s : Locks) (m : LockMutex Locks LockHandle) (name key : String) (timeout : Nat) :
    Outcome (Except SkipReason LockHandle) × Locks :=
  match m.acquire key timeout s with
  | (.panicked p, s) => (.panicked p, s)
  | (.returned (.error skip), s) => (.returned (.error skip), s)
  | (.returned (.ok h), s) =>
    let s := match s.guards.find? name with
      | some old => m.release old s
      | none => s
    (.returned (.ok h), { s with guards := s.guards.put name h })

/-- Gives up a guard, if there is one of this name. -/
def release? (s : Locks) (m : LockMutex Locks LockHandle) (name : String) : Option Locks :=
  (s.guards.find? name).map fun h =>
    let s := m.release h s
    { s with guards := s.guards.erase name }

end Locks

end KeyedDelivery.Rehearsal
