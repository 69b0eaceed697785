import KeyedDelivery.Lock.Mutex

/-!
# Scripted actions under a lock

Actions that are told what to do: give a value, panic, look whether a key is locked, or take another
lock with an action of its own. `LockStage` is a mutex together with what such actions need of its
world.
-/

namespace KeyedDelivery.Rehearsal

/-- How an action is run under a lock. -/
inductive LockForm where
  /-- Saying why there is no result. -/
  | explained
  | optional
  | test
  deriving DecidableEq, Repr

/-- An action with results in `α`. -/
inductive LockAction (α : Type) where
  | value (a : α)
  | panic (p : PanicPayload)
  | isLocked (key : String)
  | nested (form : LockForm) (key : String) (timeout : Nat) (action : LockAction α)
  deriving Inhabited

/-- What came of an action under a lock. -/
inductive LockAnswer (α : Type) where
  | explained (result : Except SkipReason α)
  | optional (result : Option α)
  | test (result : Bool)

/-- A mutex, how its world counts actions and tells what is locked, and how truth values and answers
are results. -/
structure LockStage (σ η α : Type) where
  mutex : LockMutex σ η
  isLocked : String → σ → Bool
  countAction : σ → σ
  ofBool : Bool → α
  isTrue : α → Bool
  ofAnswer : LockAnswer α → α

namespace LockStage

variable {σ η α : Type}

/-- Runs code under a lock in one of the forms. -/
def under (t : LockStage σ η α) (form : LockForm) (key : String) (timeout : Nat)
    (action : σ → Outcome α × σ) (s : σ) : Outcome (LockAnswer α) × σ :=
  match form with
  | .explained =>
    let (r, s) := t.mutex.tryWithLock key timeout action s
    (r.map .explained, s)
  | .optional =>
    let (r, s) := t.mutex.withLock key timeout action s
    (r.map .optional, s)
  | .test =>
    let (r, s) := t.mutex.testWithLock key timeout
      (fun s => let (o, s) := action s; (o.map t.isTrue, s)) s
    (r.map .test, s)

def perform (t : LockStage σ η α) : LockAction α → σ → Outcome α × σ
  | .value a, s => (.returned a, t.countAction s)
  | .panic p, s => (.panicked p, t.countAction s)
  | .isLocked key, s => (.returned (t.ofBool (t.isLocked key s)), t.countAction s)
  | .nested form key timeout action, s =>
    let (answer, s) := t.under form key timeout (t.perform action) (t.countAction s)
    (answer.map t.ofAnswer, s)

def run (t : LockStage σ η α) (form : LockForm) (key : String) (timeout : Nat)
    (action : LockAction α) (s : σ) : Outcome (LockAnswer α) × σ :=
  t.under form key timeout (t.perform action) s

end LockStage

end KeyedDelivery.Rehearsal
