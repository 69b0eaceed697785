import KeyedDelivery.Config.Environment

/-!
# Settings of a consumer
-/

namespace KeyedDelivery

/-- The settings of a consumer. -/
structure ConsumerConfig where
  group : String := "package-bind-op-consumer-group"
  topic : String := "package-bind-op-topic"
  /-- The subscription: `*` or tags between double bars. -/
  tagFilter : String := "*"
  /-- How many redeliveries are requested before a failing message is given up. -/
  maxRetryTimes : UInt32 := 3
  /-- How many messages may be with the handler at once. -/
  maxConcurrent : Nat := 10
  deriving DecidableEq, Repr

namespace ConsumerConfig

def validate (c : ConsumerConfig) : Except ConfigError Unit := do
  ConfigError.unless (isFilled c.group) "consumer.group" "must not be empty"
  ConfigError.unless (isFilled c.topic) "consumer.topic" "must not be empty"
  ConfigError.unless (0 < c.maxConcurrent) "consumer.max_concurrent" "must be at least 1"

/-- The default settings overlaid by the variables of an environment. -/
def fromEnvironment (env : Environment) : Except ConfigError ConsumerConfig := do
  let base : ConsumerConfig := {}
  let group := env.text "LOCKMQ_CONSUMER_GROUP" base.group
  let topic := env.text "LOCKMQ_CONSUMER_TOPIC" base.topic
  let tagFilter := env.text "LOCKMQ_CONSUMER_TAG_FILTER" base.tagFilter
  let maxRetryTimes ←
    env.parsed "LOCKMQ_CONSUMER_MAX_RETRY_TIMES" "u32" count32? base.maxRetryTimes
  let maxConcurrent ←
    env.parsed "LOCKMQ_CONSUMER_MAX_CONCURRENT" "usize" count64? base.maxConcurrent
  let c : ConsumerConfig := { group, topic, tagFilter, maxRetryTimes, maxConcurrent }
  c.validate
  return c

end ConsumerConfig

end KeyedDelivery
