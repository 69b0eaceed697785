import KeyedDelivery.Config.Environment
import KeyedDelivery.Time

/-!
# Settings of the locks
-/

namespace KeyedDelivery

/-- The settings of a lock registry and of the mutex over it. -/
structure LockConfig where
  /-- The name under which all keys of the registry live. -/
  registryKey : String := "custom-redis-lock"
  /-- How long a lock that nobody releases is held. -/
  expireAfter : Nat := Time.seconds 60
  /-- How long an acquire waits. -/
  acquireTimeout : Nat := Time.seconds 5
  /-- How often a waiting acquire looks again. -/
  pollInterval : Nat := Time.millis 10
  deriving DecidableEq, Repr

namespace LockConfig

def validate (c : LockConfig) : Except ConfigError Unit := do
  ConfigError.unless (isFilled c.registryKey) "lock.registry_key" "must not be empty"
  ConfigError.unless (0 < c.expireAfter) "lock.expire_after" "must be positive"
  ConfigError.unless (0 < c.acquireTimeout) "lock.acquire_timeout" "must be positive"
  ConfigError.unless (0 < c.pollInterval) "lock.poll_interval" "must be positive"

/-- The default settings overlaid by the variables of an environment. -/
def fromEnvironment (env : Environment) : Except ConfigError LockConfig := do
  let base : LockConfig := {}
  let millis (cs : List Char) : Option Nat := (count64? cs).map Time.millis
  let registryKey := env.text "LOCKMQ_LOCK_REGISTRY_KEY" base.registryKey
  let expireAfter ← env.parsed "LOCKMQ_LOCK_EXPIRE_MS" "u64" millis base.expireAfter
  let acquireTimeout ←
    env.parsed "LOCKMQ_LOCK_ACQUIRE_TIMEOUT_MS" "u64" millis base.acquireTimeout
  let pollInterval ← env.parsed "LOCKMQ_LOCK_POLL_MS" "u64" millis base.pollInterval
  let c : LockConfig := { registryKey, expireAfter, acquireTimeout, pollInterval }
  c.validate
  return c

end LockConfig

end KeyedDelivery
