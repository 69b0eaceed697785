import KeyedDelivery.Broker.Accept
import KeyedDelivery.Broker.Take

/-!
# Clients of the in-memory broker

A producer client may ask and send between its start and its shutdown. A consumer client belongs to
a group; it is subscribed and given a listener before it starts, and asks for redeliveries until it
is shut down.
-/

namespace KeyedDelivery

/-- A producer client. -/
structure ProducerClient where
  started : Bool := false
  isShutDown : Bool := false
  deriving DecidableEq, Repr, Inhabited

namespace ProducerClient

def start (c : ProducerClient) : Except TransportError Unit × ProducerClient :=
  if c.isShutDown then (.error .shutdown, c) else (.ok (), { c with started := true })

def shutdown (c : ProducerClient) : ProducerClient := { c with isShutDown := true }

/-- Refuses to work before the start and after the shutdown. -/
def checkOpen (c : ProducerClient) : Except TransportError Unit :=
  if c.isShutDown then .error .shutdown
  else if !c.started then .error .notStarted
  else .ok ()

def queues (c : ProducerClient) (b : Broker) (topic : String) :
    Except TransportError (List Queue) × Broker :=
  match c.checkOpen with
  | .error e => (.error e, b)
  | .ok _ => b.queueNames topic

def send (c : ProducerClient) (b : Broker) (now : Nat) (m : Message) (queue : Queue) :
    Except TransportError Receipt × Broker :=
  match c.checkOpen with
  | .error e => (.error e, b)
  | .ok _ => b.accept now m queue

end ProducerClient

/-- A topic a client is subscribed to, and the tags it takes. -/
structure Subscription where
  topic : String
  filter : TagFilter
  deriving DecidableEq, Repr

/-- A consumer client of a group. -/
structure ConsumerClient where
  group : String
  subscription : Option Subscription := none
  hasListener : Bool := false
  running : Bool := false
  isShutDown : Bool := false
  deriving DecidableEq, Repr

namespace ConsumerClient

/-- Subscribes the client to a topic, which the broker has to have. -/
def subscribe (c : ConsumerClient) (b : Broker) (topic tags : String) :
    Except TransportError ConsumerClient × Broker :=
  if c.isShutDown then (.error .shutdown, b)
  else match b.queueNames topic with
    | (.error e, b) => (.error e, b)
    | (.ok _, b) => (.ok { c with subscription := some ⟨topic, TagFilter.parse tags⟩ }, b)

def listen (c : ConsumerClient) : ConsumerClient := { c with hasListener := true }

/-- Starts the delivery of the subscription. A second start changes nothing. -/
def start (c : ConsumerClient) : Except TransportError (ConsumerClient × Subscription) :=
  if c.isShutDown then .error .shutdown
  else match c.subscription with
    | none => .error .notSubscribed
    | some s => if c.hasListener then .ok ({ c with running := true }, s) else .error .noListener

/-- Asks for a delivery to come back to the group. -/
def reconsumeLater (c : ConsumerClient) (b : Broker) (now : Nat) (d : Delivery)
    (level : DelayLevel) : Except TransportError Unit × Broker :=
  if c.isShutDown then (.error .shutdown, b)
  else (.ok (), b.scheduleRedelivery now c.group d level)

def shutdown (c : ConsumerClient) : ConsumerClient :=
  { c with running := false, isShutDown := true }

def describe (c : ConsumerClient) : String :=
  "InMemoryConsumerClient \x7b group: " ++ Text.quoted c.group ++ ", running: " ++
    (if c.running then "true" else "false") ++ " \x7d"

end ConsumerClient

end KeyedDelivery
