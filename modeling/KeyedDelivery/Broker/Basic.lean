import KeyedDelivery.Broker.Delivery
import KeyedDelivery.Broker.Error
import KeyedDelivery.Delay.Table
import KeyedDelivery.Table

/-!
# The in-memory broker

A broker keeps a log for every queue of every topic, and for every consumer group how far it has
read each log. Messages that are not due yet are scheduled: a delayed message for its queue's log,
a redelivered copy for the retry queue of the group that asked for it.
-/

namespace KeyedDelivery

/-- The settings of a broker. -/
structure BrokerConfig where
  name : String
  queuesPerTopic : Nat := 4
  /-- The most deliveries in a batch. -/
  batchMax : Nat := 32
  /-- Whether a topic is created when it is first used. -/
  autoCreate : Bool := true
  delays : DelayTable := .standard
  deriving Repr

/-- One queue: its log, and the offset of the next message it accepts. -/
structure QueueLog where
  nextOffset : Nat := 0
  log : List Delivery := []
  deriving DecidableEq, Repr, Inhabited

/-- A consumer group: how far it has read the logs of each topic, and the copies that were
redelivered to it. -/
structure GroupState where
  cursors : Table String (List Nat) := []
  retry : List Delivery := []
  deriving DecidableEq, Repr, Inhabited

/-- A delivery that is not due yet. -/
structure Scheduled where
  due : Nat
  /-- The group it is for; without one it goes to the log of its queue. -/
  group : Option String
  delivery : Delivery
  deriving DecidableEq, Repr

/-- The state of a broker. -/
structure Broker where
  config : BrokerConfig
  topics : Table String (List QueueLog) := []
  groups : Table String GroupState := []
  scheduled : List Scheduled := []
  /-- The redeliveries requested, in the order of the requests. -/
  redeliveries : List Redelivery := []
  /-- How many messages were accepted. -/
  sent : Nat := 0
  /-- How many of the next sends are refused. -/
  failNext : Nat := 0
  deriving Repr

namespace BrokerConfig

/-- The settings with at least one queue per topic and one delivery per batch. -/
def clamped (c : BrokerConfig) : BrokerConfig :=
  { c with queuesPerTopic := max c.queuesPerTopic 1, batchMax := max c.batchMax 1 }

end BrokerConfig

namespace Broker

/-- A broker without topics. -/
def ofConfig (c : BrokerConfig) : Broker := { config := c.clamped }

def queues? (b : Broker) (topic : String) : Option (List QueueLog) := b.topics.find? topic

def createTopic (b : Broker) (topic : String) : Broker :=
  match b.queues? topic with
  | some _ => b
  | none => { b with topics := b.topics.put topic (List.replicate b.config.queuesPerTopic {}) }

/-- Makes the next `n` sends fail. -/
def failingSends (b : Broker) (n : Nat) : Broker := { b with failNext := n }

/-- Makes sure that a topic can be used: it is created, or has to exist. -/
def openTopic (b : Broker) (topic : String) : Except TransportError (List QueueLog) × Broker :=
  let b := if b.config.autoCreate then b.createTopic topic else b
  match b.queues? topic with
  | some qs => (.ok qs, b)
  | none => (.error (.topicNotFound topic), b)

def queueNames (b : Broker) (topic : String) : Except TransportError (List Queue) × Broker :=
  match b.openTopic topic with
  | (.error e, b) => (.error e, b)
  | (.ok qs, b) =>
    (.ok ((List.range qs.length).map fun i => ⟨topic, b.config.name, UInt32.ofNat i⟩), b)

/-- The state of a group; one never seen before has read nothing. -/
def group (b : Broker) (name : String) : GroupState := (b.groups.find? name).getD {}

end Broker

end KeyedDelivery
