import KeyedDelivery.Lock.Mutex
import KeyedDelivery.Text.Numeral

/-!
# Locks that answer as told

A source of locks whose three operations give fixed answers and keep a record of the calls.
-/

namespace KeyedDelivery.Rehearsal

/-- A call that a source of locks received. -/
inductive LockCall where
  | obtain (key : String)
  | tryLock (timeout : Nat)
  | unlock
  deriving DecidableEq, Repr

def LockCall.display : LockCall → String
  | .obtain key => "obtain " ++ key
  | .tryLock timeout => "try_lock " ++ Text.natural (Time.toMillis timeout) ++ "ms"
  | .unlock => "unlock"

/-- What the operations answer. -/
structure LockScript where
  obtain : Except LockError Unit := .ok ()
  tryLock : Except LockError Bool := .ok true
  unlock : Except LockError Unit := .ok ()

/-- The calls received, whether the lock is held, and how many actions ran. -/
structure ScriptedLocks where
  calls : List LockCall := []
  held : Bool := false
  actions : Nat := 0
  deriving Repr

def LockScript.service (script : LockScript) : LockService ScriptedLocks Unit where
  obtain key s := (script.obtain, { s with calls := s.calls ++ [.obtain key] })
  tryLock timeout _ s :=
    let granted := match script.tryLock with
      | .ok b => b
      | .error _ => false
    (.returned script.tryLock, (), { s with calls := s.calls ++ [.tryLock timeout], held := s.held || granted })
  unlock _ s := (script.unlock, (), { s with calls := s.calls ++ [.unlock], held := false })

end KeyedDelivery.Rehearsal
