import KeyedDelivery.Rehearsal.Drain
import KeyedDelivery.Routing

/-!
# Named clients of one broker

Producer clients and consumer clients under names, and the deliveries they were handed so far.
-/

namespace KeyedDelivery.Rehearsal

/-- Where a message is to be sent. -/
inductive Addressee where
  /-- The queue of its key. -/
  | ofKey
  /-- The queue of its topic with this number. -/
  | numbered (id : UInt32)
  | queue (q : Queue)
  deriving DecidableEq, Repr

/-- Sends a message to where it is addressed, if there is a queue. -/
def sendTo (c : ProducerClient) (b : Broker) (now : Nat) (m : Message) (a : Addressee) :
    Option (Except TransportError Receipt) × Broker :=
  let sendInto (q : Queue) (b : Broker) : Option (Except TransportError Receipt) × Broker :=
    let (r, b) := c.send b now m q
    (some r, b)
  match a with
  | .queue q => sendInto q b
  | .numbered id => sendInto ⟨m.topic, b.config.name, id⟩ b
  | .ofKey =>
    match c.queues b m.topic with
    | (.error e, b) => (some (.error e), b)
    | (.ok queues, b) =>
      match selectQueue queues m.key with
      | none => (none, b)
      | some q => sendInto q b

/-- A broker with its clients. -/
structure BrokerStage where
  broker : Broker
  producers : Table String ProducerClient := []
  consumers : Table String ConsumerClient := []
  /-- The last delivery of each message. -/
  delivered : Table MessageId Delivery := []

namespace BrokerStage

def note (s : BrokerStage) (batches : List (List Delivery)) : BrokerStage :=
  { s with delivered := batches.flatten.foldl (fun t d => t.put d.id d) s.delivered }

/-! ### Producer clients -/

/-- The producer client of a name, which is new if it was never used. -/
def producer (s : BrokerStage) (name : String) : ProducerClient :=
  (s.producers.find? name).getD {}

/-- Stores a producer client. -/
def withProducer (s : BrokerStage) (name : String) (c : ProducerClient) : BrokerStage :=
  { s with producers := s.producers.put name c }

/-- Starts a producer client. -/
def startProducer (s : BrokerStage) (name : String) : Except TransportError Unit × BrokerStage :=
  let (r, c) := (s.producer name).start
  (r, s.withProducer name c)

/-- Shuts a producer client down. -/
def shutdownProducer (s : BrokerStage) (name : String) : BrokerStage :=
  s.withProducer name (s.producer name).shutdown

def queues (s : BrokerStage) (name topic : String) :
    Except TransportError (List Queue) × BrokerStage :=
  let (r, broker) := (s.producer name).queues s.broker topic
  (r, { s with broker })

def send (s : BrokerStage) (name : String) (m : Message) (a : Addressee) :
    Option (Except TransportError Receipt) × BrokerStage :=
  let (r, broker) := sendTo (s.producer name) s.broker 0 m a
  (r, { s with broker })

/-! ### Consumer clients -/

/-- Stores a consumer client. -/
def withConsumer (s : BrokerStage) (name : String) (c : ConsumerClient) : BrokerStage :=
  { s with consumers := s.consumers.put name c }

/-- Makes a client of a group under a name that has none; a client that is there keeps its group. -/
def introduce (s : BrokerStage) (name : String) (group : Option String) : BrokerStage :=
  match s.consumers.find? name, group with
  | none, some group => s.withConsumer name { group }
  | _, _ => s

/-- Subscribes a consumer client. -/
def subscribe (s : BrokerStage) (name : String) (c : ConsumerClient) (topic tags : String) :
    Except TransportError Unit × BrokerStage :=
  match c.subscribe s.broker topic tags with
  | (.error e, broker) => (.error e, { s with broker })
  | (.ok c, broker) => (.ok (), { s.withConsumer name c with broker })

/-- Drains the subscription of a consumer client. -/
def drain (s : BrokerStage) (name : String) (c : ConsumerClient) (l : ListenerScript) :
    Except TransportError Drained × BrokerStage :=
  match Rehearsal.drain l 0 c s.broker with
  | .error e => (.error e, s)
  | .ok d => (.ok d, { s.withConsumer name d.client with broker := d.broker }.note d.batches)

/-- Asks for a message to be delivered again as it was delivered last, if it was. -/
def reconsumeLater? (s : BrokerStage) (c : ConsumerClient) (delivered : MessageId → Bool)
    (level : DelayLevel) : Option (Except TransportError Unit × BrokerStage) :=
  (List.find? (fun e => delivered e.1) s.delivered).map fun (_, d) =>
    let (r, broker) := c.reconsumeLater s.broker 0 d level
    (r, { s with broker })

end BrokerStage

/-- Drains a topic with a new client of a group. -/
def drainFresh (b : Broker) (group topic tags : String) (l : ListenerScript) :
    Except TransportError Drained × Broker :=
  match ConsumerClient.subscribe { group } b topic tags with
  | (.error e, b) => (.error e, b)
  | (.ok c, b) =>
    match drain l 0 c b with
    | .error e => (.error e, b)
    | .ok d => (.ok d, d.broker)

end KeyedDelivery.Rehearsal
