import KeyedDelivery.Config.Environment

/-!
# What a worker pool refuses, and what becomes of a task
-/

namespace KeyedDelivery

/-- Why a pool does not take a task, or cannot be made. -/
inductive PoolError where
  | shutDown (pool : String)
  | rejected (pool : String)
  | spawn (pool reason : String)
  | config (error : ConfigError)
  deriving DecidableEq, Repr

def PoolError.kind : PoolError → String
  | .shutDown _ => "ShutDown"
  | .rejected _ => "Rejected"
  | .spawn .. => "Spawn"
  | .config _ => "Config"

def PoolError.message : PoolError → String
  | .shutDown pool => "pool " ++ pool ++ " is shut down"
  | .rejected pool => "pool " ++ pool ++ " is saturated; task rejected"
  | .spawn pool reason => "pool " ++ pool ++ " could not start a worker thread: " ++ reason
  | .config error => error.message

/-- Why a submitted task has no value. -/
inductive TaskError where
  | panicked (message : String)
  | discarded
  | timeout
  deriving DecidableEq, Repr

def TaskError.kind : TaskError → String
  | .panicked _ => "Panicked"
  | .discarded => "Discarded"
  | .timeout => "Timeout"

def TaskError.message : TaskError → String
  | .panicked m => "task panicked: " ++ m
  | .discarded => "task was discarded before it ran"
  | .timeout => "timed out waiting for task"

end KeyedDelivery
