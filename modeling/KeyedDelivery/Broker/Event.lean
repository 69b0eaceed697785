import KeyedDelivery.Broker.Accept
import KeyedDelivery.Broker.Take

/-!
# Runs of a broker

Everything that happens to a broker is one of these events, in any order. Every client of the broker
acts through them, and each is one step: nothing else happens to the broker meanwhile. A client that
takes a batch and finds nothing waits for a while and takes once more, which is a second `take`.

* `run` is the broker after a list of events, `acceptances` are the messages it accepted on the way.
* `takes` lists what the takes of a run did: over which log entries each moved the cursors of its
  group, and which batch it handed over.
* `requests` lists the deliveries that were asked for again in a run.
-/

namespace KeyedDelivery

/-- Whether a delivery is the first one of a message of queue number `i` of a topic. -/
def Delivery.isFirstOf (d : Delivery) (topic : String) (i : Nat) : Bool :=
  d.reconsumed == 0 && d.queue.topic == topic && d.queue.id.toNat == i

/-- The first delivery of the message that is delivered. -/
def Delivery.first (d : Delivery) : Delivery := { d with reconsumed := 0 }

namespace Broker

/-- The log of queue number `i` of a topic. -/
def log (b : Broker) (topic : String) (i : Nat) : List Delivery :=
  (((b.queues? topic).getD []).getD i {}).log

/-- How far a group has read the logs of a topic's queues; a missing cursor has read nothing. -/
def cursors (b : Broker) (topic group : String) : List Nat :=
  ((b.group group).cursors.find? topic).getD []

/-- How many entries of the log of queue number `i` a group has read. -/
def cursor (b : Broker) (topic group : String) (i : Nat) : Nat :=
  (b.cursors topic group).getD i 0

/-- What can happen to a broker. -/
inductive Event where
  | createTopic (topic : String)
  /-- A client asks for the queues of a topic. -/
  | askQueues (topic : String)
  | failSends (n : Nat)
  | accept (now : Nat) (m : Message) (queue : Queue)
  | promote (now : Nat)
  | redeliver (now : Nat) (group : String) (d : Delivery) (level : DelayLevel)
  | take (now : Nat) (topic group : String) (filter : TagFilter)
  | drain (topic group : String) (filter : TagFilter) (room : Nat)

/-- The group that asks or takes in an event, if one does. -/
def Event.group? : Event → Option String
  | .redeliver _ group _ _ => some group
  | .take _ _ group _ => some group
  | .drain _ group _ _ => some group
  | _ => none

/-- The first delivery of the message that is accepted in an event, if one is. -/
def accepted (b : Broker) : Event → List Delivery
  | .accept now m queue =>
    match (b.accept now m queue).1 with
    | .ok receipt => [⟨receipt.id, m, receipt.queue, receipt.offset, 0⟩]
    | .error _ => []
  | _ => []

def apply (b : Broker) : Event → Broker
  | .createTopic topic => b.createTopic topic
  | .askQueues topic => (b.queueNames topic).2
  | .failSends n => b.failingSends n
  | .accept now m queue => (b.accept now m queue).2
  | .promote now => b.promoteDue now
  | .redeliver now group d level => b.scheduleRedelivery now group d level
  | .take now topic group filter => (b.takeBatch now topic group filter).2
  | .drain topic group filter room => (b.drainReady topic group filter room).2

def run (b : Broker) (es : List Event) : Broker := es.foldl apply b

/-- The first deliveries of the messages that are accepted in a run, in the order of acceptance. -/
def acceptances (b : Broker) : List Event → List Delivery
  | [] => []
  | e :: es => b.accepted e ++ acceptances (b.apply e) es

/-! ### What the takes of a run did -/

/-- What one take did: how far its group had read the queues of the topic before and after it, and
the batch it handed over. -/
structure Take where
  topic : String
  group : String
  filter : TagFilter
  before : List Nat
  after : List Nat
  batch : List Delivery

namespace Take

/-- The indices of the log entries of queue number `i` that a take examined: those its group's
cursor passed. -/
def examined (k : Take) (i : Nat) : List Nat :=
  List.range' (k.before.getD i 0) (k.after.getD i 0 - k.before.getD i 0)

/-- What a take handed over from the log of queue number `i`: the first deliveries of that queue. -/
def fresh (k : Take) (i : Nat) : List Delivery := k.batch.filter (·.isFirstOf k.topic i)

/-- The entries of a log that a take examined in queue number `i` and whose tag it takes. -/
def matching (k : Take) (i : Nat) (log : List Delivery) : List Delivery :=
  ((k.examined i).filterMap (log[·]?)).filter (k.filter.accepts ·.message.tag)

/-- The redelivered copies that a take handed over. -/
def copies (k : Take) : List Delivery := k.batch.filter (·.reconsumed ≠ 0)

end Take

/-- What the take did that led from one broker to another. -/
def recordTake (b : Broker) (topic group : String) (filter : TagFilter)
    (result : List Delivery × Broker) : Take :=
  ⟨topic, group, filter, b.cursors topic group, result.2.cursors topic group, result.1⟩

/-- What the take did that an event is, if it is one. -/
def took (b : Broker) : Event → Option Take
  | .take now topic group filter =>
    some (b.recordTake topic group filter (b.takeBatch now topic group filter))
  | .drain topic group filter room =>
    some (b.recordTake topic group filter (b.drainReady topic group filter room))
  | _ => none

def takes (b : Broker) : List Event → List Take
  | [] => []
  | e :: es => (b.took e).toList ++ takes (b.apply e) es

/-- What the takes of one group on one topic did, whichever clients made them. -/
def takesOf (b : Broker) (es : List Event) (topic group : String) : List Take :=
  (b.takes es).filter fun k => k.topic == topic && k.group == group

/-- The redelivered copies that the takes of one group handed over, of whatever topic. -/
def copiesHanded (b : Broker) (es : List Event) (group : String) : List Delivery :=
  ((b.takes es).filter (·.group == group)).flatMap (·.copies)

/-! ### What was asked for again -/

/-- A request of a group to have a delivery once more. -/
structure Request where
  group : String
  delivery : Delivery
  level : DelayLevel

def Request.record (r : Request) : Redelivery :=
  ⟨r.group, r.delivery.id, r.delivery.message.key, r.delivery.again.reconsumed, r.level⟩

def Event.request? : Event → Option Request
  | .redeliver _ group d level => some ⟨group, d, level⟩
  | _ => none

def requests (es : List Event) : List Request := es.filterMap (·.request?)

def requestsOf (es : List Event) (group : String) : List Request :=
  (requests es).filter (·.group == group)

end Broker

end KeyedDelivery
