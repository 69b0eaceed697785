import KeyedDelivery.Broker.Backlog
import KeyedDelivery.Rehearsal.Consumers
import KeyedDelivery.Rehearsal.Sends

/-!
# A broker between a producer and consumers

A producer and consumers on clients of one broker. What is due is delivered in rounds, in which
every consumer takes one batch and handles it, until nothing is due for anybody. The broker is
handed from one to the other; its clock stands still.
-/

namespace KeyedDelivery.Rehearsal

/-- A consumer's way to the broker. -/
structure BrokerLink where
  broker : Broker
  client : ConsumerClient

namespace BrokerLink

def transport : ConsumerTransport (ConsumerWorld BrokerLink) :=
  .inMemory (·.link.broker) (fun broker w => { w with link := { w.link with broker } })
    (·.link.client) (fun client w => { w with link := { w.link with client } }) fun _ => 0

end BrokerLink

/-- A producer and consumers of its messages. -/
structure Pipeline where
  producer : ProducerRun SendWorld LockHandle
  consumers : List (ConsumerStage BrokerLink) := []

namespace Pipeline

/-- The broker. -/
def broker (p : Pipeline) : Broker := p.producer.world.broker

/-- Lets a consumer do something with the broker. -/
def lend {α : Type} (b : Broker) (f : ConsumerStage BrokerLink → α × ConsumerStage BrokerLink)
    (c : ConsumerStage BrokerLink) : α × ConsumerStage BrokerLink × Broker :=
  let (a, c) := f { c with world := { c.world with link := { c.world.link with broker := b } } }
  (a, c, c.world.link.broker)

def withBroker (p : Pipeline) (b : Broker) : Pipeline :=
  { p with producer := { p.producer with world := { p.producer.world with broker := b } } }

/-- Starts a consumer and adds it. -/
def add (p : Pipeline) (c : ConsumerStage BrokerLink) : Except ConsumerError Pipeline :=
  match lend p.broker ConsumerStage.start c with
  | (.error e, _, _) => .error e
  | (.ok _, c, b) => .ok { p.withBroker b with consumers := p.consumers ++ [c] }

/-- What the running client of a consumer takes next, if something is due. -/
def take? (b : Broker) (c : ConsumerClient) : Option (List Delivery × Broker) :=
  match c.subscription with
  | none => none
  | some s =>
    if c.running && b.hasDue 0 s.topic c.group then some (b.takeBatch 0 s.topic c.group s.filter)
    else none

/-- One round: whether anybody took something, the consumers and the broker. -/
def round : List (ConsumerStage BrokerLink) → Broker →
    Bool × List (ConsumerStage BrokerLink) × Broker
  | [], b => (false, [], b)
  | c :: cs, b =>
    match take? b c.world.link.client with
    | none =>
      let (any, cs, b) := round cs b
      (any, c :: cs, b)
    | some (batch, b) =>
      let (_, c, b) := lend b (fun c => c.deliver batch false) c
      let (_, cs, b) := round cs b
      (true, c :: cs, b)

/-- At most so many rounds. -/
def rounds : Nat → List (ConsumerStage BrokerLink) → Broker →
    List (ConsumerStage BrokerLink) × Broker
  | 0, cs, b => (cs, b)
  | n + 1, cs, b =>
    match round cs b with
    | (false, cs, b) => (cs, b)
    | (true, cs, b) => rounds n cs b

/-- Delivers until nothing is due. Every consumer gets each message once, and once more for each
retry. -/
def settle (p : Pipeline) : Pipeline :=
  let limit := p.consumers.foldl (fun n c => n + c.run.consumer.config.maxRetryTimes.toNat + 1) 0
  let (consumers, b) := rounds (p.broker.sent * limit + 1) p.consumers p.broker
  { p.withBroker b with consumers }

end Pipeline

end KeyedDelivery.Rehearsal
