import KeyedDelivery.Validation

/-!
# Failures of locks, and why an action under a lock did not finish
-/

namespace KeyedDelivery

/-- Why a lock operation failed. -/
inductive LockError where
  | interrupted (key : String)
  | notHeld (key : String)
  | backend (reason : String)
  | validation (error : ValidationError)
  deriving DecidableEq, Repr

def LockError.kind : LockError → String
  | .interrupted _ => "Interrupted"
  | .notHeld _ => "NotHeld"
  | .backend _ => "Backend"
  | .validation _ => "Validation"

def LockError.message : LockError → String
  | .interrupted key => "interrupted while waiting for lock " ++ key
  | .notHeld key => "lock " ++ key ++ " is not held by this owner"
  | .backend reason => "lock backend error: " ++ reason
  | .validation error => error.message

/-- Why an action under a lock has no result. -/
inductive SkipReason where
  | notAcquired
  | interrupted
  | failed (reason : String)
  | actionPanicked (message : String)
  | invalidArgument (error : ValidationError)
  deriving DecidableEq, Repr

def SkipReason.kind : SkipReason → String
  | .notAcquired => "NotAcquired"
  | .interrupted => "Interrupted"
  | .failed _ => "Failed"
  | .actionPanicked _ => "ActionPanicked"
  | .invalidArgument _ => "InvalidArgument"

def SkipReason.message : SkipReason → String
  | .notAcquired => "lock not acquired within timeout"
  | .interrupted => "interrupted while waiting for lock"
  | .failed reason => "lock acquisition failed: " ++ reason
  | .actionPanicked m => "action panicked under lock: " ++ m
  | .invalidArgument error => "invalid lock request: " ++ error.message

/-- The reason that a failed acquire gives. -/
def SkipReason.ofError : LockError → SkipReason
  | .interrupted _ => .interrupted
  | e => .failed e.message

end KeyedDelivery
