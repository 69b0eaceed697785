import KeyedDelivery.Config.Environment
import KeyedDelivery.Time

/-!
# Settings of a worker pool
-/

namespace KeyedDelivery

/-- What a saturated pool does with a new task. -/
inductive OverloadPolicy where
  /-- Drop the oldest queued task and queue the new one. -/
  | discardOldest
  /-- Drop the new task. -/
  | discard
  /-- Refuse the new task. -/
  | abort
  /-- Run the new task on the submitting thread. -/
  | callerRuns
  deriving DecidableEq, Repr, Inhabited

def OverloadPolicy.name : OverloadPolicy → String
  | .discardOldest => "DiscardOldest"
  | .discard => "Discard"
  | .abort => "Abort"
  | .callerRuns => "CallerRuns"

/-- The name of a policy as it is normalised: trimmed, in lower case ASCII, with hyphens. -/
def OverloadPolicy.normalised (cs : List Char) : List Char :=
  (Text.trim cs).map fun c => if c = '_' then '-' else c.toLower

def OverloadPolicy.parse (text : String) : Except String OverloadPolicy :=
  match String.ofList (normalised text.toList) with
  | "discard-oldest" => .ok .discardOldest
  | "discard" => .ok .discard
  | "abort" => .ok .abort
  | "caller-runs" => .ok .callerRuns
  | other => .error ("unknown overload policy '" ++ other ++ "'")

/-- The settings of a worker pool. -/
structure PoolConfig where
  /-- Workers are named after the pool. -/
  name : String := "worker"
  /-- Threads kept while idle. -/
  coreSize : Nat := 1
  /-- The most threads, reached only when the queue is full. -/
  maxSize : Nat := 1
  /-- How long a surplus thread stays idle. -/
  keepAlive : Nat := Time.seconds 60
  queueCapacity : Nat := 10000
  policy : OverloadPolicy := .discardOldest
  deriving DecidableEq, Repr

namespace PoolConfig

/-- The pool of a producer: one thread, so that sends leave in the order of their submission. -/
def producer : PoolConfig := { name := "producer" }

def consumer : PoolConfig := { name := "consumer", coreSize := 10, maxSize := 20 }

def validate (c : PoolConfig) : Except ConfigError Unit := do
  ConfigError.unless (isFilled c.name) "pool.name" "must not be empty"
  ConfigError.unless (0 < c.maxSize) "pool.max_size" "must be at least 1"
  ConfigError.unless (c.coreSize ≤ c.maxSize) "pool.core_size"
    (Text.natural c.coreSize ++ " exceeds max_size " ++ Text.natural c.maxSize)
  ConfigError.unless (0 < c.queueCapacity) "pool.queue_capacity" "must be at least 1"

/-- The variable of a setting in a scope. -/
def settingVariable (scope setting : String) : String :=
  "LOCKMQ_" ++ String.ofList (scope.toList.map Char.toUpper) ++ "_POOL_" ++ setting

/-- The settings `base` overlaid by the variables of a scope. -/
def fromEnvironment (base : PoolConfig) (scope : String) (env : Environment) :
    Except ConfigError PoolConfig := do
  let name := env.text (settingVariable scope "NAME") base.name
  let coreSize ← env.parsed (settingVariable scope "CORE_SIZE") "usize" count64? base.coreSize
  let maxSize ← env.parsed (settingVariable scope "MAX_SIZE") "usize" count64? base.maxSize
  let queueCapacity ←
    env.parsed (settingVariable scope "QUEUE_CAPACITY") "usize" count64? base.queueCapacity
  let keepAlive ← env.parsed (settingVariable scope "KEEP_ALIVE_MS") "u64"
    (fun cs => (count64? cs).map Time.millis) base.keepAlive
  let policy ← env.parsed (settingVariable scope "OVERLOAD_POLICY") "overload policy"
    (fun cs => (OverloadPolicy.parse (String.ofList cs)).toOption) base.policy
  let c : PoolConfig := { name, coreSize, maxSize, keepAlive, queueCapacity, policy }
  c.validate
  return c

end PoolConfig

end KeyedDelivery
