import KeyedDelivery.Broker.Event
import KeyedDelivery.Producer.Traffic

/-!
# Producers around one broker

Any number of producers send to one in-memory broker, each through one of the broker's clients;
those with locks take them from one registry. Their sends take their steps in any order, and in
between the broker does whatever else it is asked for: groups take batches and ask for redeliveries,
what is due is promoted, sends are made to fail. Messages reach the broker through the producers
only.

A producer whose locks are in another registry is one without locks, whose steps are taken when that
registry lets it.
-/

namespace KeyedDelivery

/-- A broker with the clients that producers have of it, by number, and the clocks. -/
structure PostOffice where
  broker : Broker
  client : Nat → ProducerClient := fun _ => {}
  /-- The clock that the broker schedules by. -/
  brokerNow : Nat := 0
  /-- The clock that the budgets of sends are measured by. -/
  now : Nat := 0

namespace PostOffice

def setBroker (b : Broker) (s : PostOffice) : PostOffice := { s with broker := b }

def setClient (n : Nat) (c : ProducerClient) (s : PostOffice) : PostOffice :=
  { s with client := fun i => if i = n then c else s.client i }

/-- The transport of a client. -/
def transport (n : Nat) : SendTransport PostOffice :=
  .inMemory (·.broker) setBroker (·.client n) (setClient n) (·.brokerNow) (·.now)

/-- A producer on a client, with locks when it is given a time to wait for them. -/
def sender (n : Nat) (c : ProducerConfig) (patience : Option Nat) : Sender PostOffice :=
  ⟨c, transport n, patience⟩

/-- What can happen. -/
inductive Event where
  /-- A producer on a client begins to send a message. -/
  | send (client : Nat) (c : ProducerConfig) (patience : Option Nat) (m : Message)
  /-- The send of a number, counted from the first, takes its next step. -/
  | proceed (i : Nat)
  | locks (e : Contention.Event)
  /-- The broker is asked for something else than to accept a message. -/
  | broker (e : Broker.Event)
  | start (client : Nat)
  | shutdown (client : Nat)
  | clocks (brokerNow now : Nat)

/-- What the broker is asked for apart from the sends: an acceptance is not among it. -/
def askBroker (s : PostOffice) : Broker.Event → PostOffice
  | .accept .. => s
  | e => s.setBroker (s.broker.apply e)

/-- An event in the traffic of the sends. -/
def Event.inTraffic : Event → Traffic.Event PostOffice
  | .send client c patience m => .begin (sender client c patience) m
  | .proceed i => .proceed i
  | .locks e => .locks e
  | .broker e => .elsewhere (·.askBroker e)
  | .start client => .elsewhere fun s => ((transport client).start s).2
  | .shutdown client => .elsewhere (transport client).shutdown
  | .clocks brokerNow now => .elsewhere fun s => { s with brokerNow, now }

/-- A new broker, without sends. -/
def opened (c : BrokerConfig) (l : LockConfig) : Traffic PostOffice :=
  .start l { broker := .ofConfig c }

def step (x : Traffic PostOffice) (e : Event) : Traffic PostOffice := x.step e.inTraffic

def run (x : Traffic PostOffice) (es : List Event) : Traffic PostOffice := es.foldl step x

/-- The first delivery of an accepted message, as its receipt tells it. -/
def stamped (m : Message) (r : Receipt) : Delivery := ⟨r.id, m, r.queue, r.offset, 0⟩

/-- The first delivery of the message that a send is told was accepted in an event, if one is. -/
def accepted (x : Traffic PostOffice) (e : Event) : List Delivery :=
  ((x.receipt? e.inTraffic).map fun (m, r) => stamped m r).toList

/-- The first deliveries of the messages that sends are told were accepted, in this order. -/
def acceptances (x : Traffic PostOffice) : List Event → List Delivery
  | [] => []
  | e :: es => accepted x e ++ acceptances (step x e) es

/-- What the take did that an event is, if it is one. -/
def took (x : Traffic PostOffice) : Event → Option Broker.Take
  | .broker e => x.world.broker.took e
  | _ => none

/-- What the takes of all groups did, in order. -/
def takes (x : Traffic PostOffice) : List Event → List Broker.Take
  | [] => []
  | e :: es => (took x e).toList ++ takes (step x e) es

/-- What the takes of one group on one topic did, whichever clients made them. -/
def takesOf (x : Traffic PostOffice) (es : List Event) (topic group : String) : List Broker.Take :=
  (takes x es).filter fun k => k.topic == topic && k.group == group

end PostOffice

end KeyedDelivery
