import KeyedDelivery.Config.Environment
import KeyedDelivery.Time
import KeyedDelivery.Message

/-!
# Settings of a producer
-/

namespace KeyedDelivery

/-- The prefixes of lock keys that producers share. -/
structure KeyPrefixes where
  common : String := "common:utils:"
  packageChange : String := "package:change:msg:key:"
  deriving DecidableEq, Repr

/-- The prefix of the lock keys of package changes. -/
def KeyPrefixes.packageChangeLock (p : KeyPrefixes) : String := p.common ++ p.packageChange

/-- The settings of a producer. -/
structure ProducerConfig where
  group : String := "package-bind-op-producer-group"
  topic : String := "package-bind-op-topic"
  tag : String := "package-bind-op"
  /-- Stands before the message key in the key of its lock. -/
  lockKeyPrefix : String := KeyPrefixes.packageChangeLock {}
  /-- The budget of a send and its retries: no attempt starts after it has run out. -/
  sendTimeout : Nat := Time.seconds 3
  /-- How many more attempts follow a failed one. -/
  retryTimes : UInt32 := 2
  deriving DecidableEq, Repr

namespace ProducerConfig

def validate (c : ProducerConfig) : Except ConfigError Unit := do
  ConfigError.unless (isFilled c.group) "producer.group" "must not be empty"
  ConfigError.unless (isFilled c.topic) "producer.topic" "must not be empty"
  match validateTag c.tag with
  | .error e => throw (.invalid "producer.tag" e.message)
  | .ok _ => pure ()
  ConfigError.unless (0 < c.sendTimeout) "producer.send_timeout" "must be positive"

/-- The default settings overlaid by the variables of an environment. -/
def fromEnvironment (env : Environment) : Except ConfigError ProducerConfig := do
  let base : ProducerConfig := {}
  let group := env.text "LOCKMQ_PRODUCER_GROUP" base.group
  let topic := env.text "LOCKMQ_PRODUCER_TOPIC" base.topic
  let tag := env.text "LOCKMQ_PRODUCER_TAG" base.tag
  let lockKeyPrefix := env.text "LOCKMQ_PRODUCER_LOCK_KEY_PREFIX" base.lockKeyPrefix
  let sendTimeout ← env.parsed "LOCKMQ_PRODUCER_SEND_TIMEOUT_MS" "u64"
    (fun cs => (count64? cs).map Time.millis) base.sendTimeout
  let retryTimes ← env.parsed "LOCKMQ_PRODUCER_RETRY_TIMES" "u32" count32? base.retryTimes
  let c : ProducerConfig := { group, topic, tag, lockKeyPrefix, sendTimeout, retryTimes }
  c.validate
  return c

end ProducerConfig

end KeyedDelivery
