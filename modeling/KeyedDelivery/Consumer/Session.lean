import KeyedDelivery.Broker.Event
import KeyedDelivery.Consumer.Event

/-!
# Consumers of an in-memory broker

A consumer on a client of an in-memory broker. A thread of the client takes batches of what the
client is subscribed to, one after the other, and hands each to the consumer's listener, which offers
the deliveries to the pool. Meanwhile others use the broker in any way, also as clients of the same
group, and time passes.

* `Site` — the world of such a consumer: the broker and the client, and a part that belongs to its
  handler and its sink.
* `Session` — the consumer at work and the delivery thread of its client. Where the thread stands is
  a value (`DeliveryThread`), so that anything may happen between two of its moves.
* `Logbook` — a session with what the broker accepted, what was handed to the listener and what was
  reported so far.
-/

namespace KeyedDelivery

/-- The world of a consumer of an in-memory broker. -/
structure Site (ω : Type) where
  broker : Broker
  client : ConsumerClient
  /-- The reading of the clock. -/
  now : Nat := 0
  /-- What belongs to the handler and the sink. -/
  own : ω
  /-- What the sink got, if there is one. -/
  letters : List DeadLetter := []

/-- A destination of what is given up. -/
abbrev Sink (ω : Type) := DeadLetter → ω → Outcome Unit × ω

namespace Site

variable {ω : Type}

def withBroker (s : Site ω) (broker : Broker) : Site ω := { s with broker }

def transport : ConsumerTransport (Site ω) :=
  .inMemory (·.broker) (fun broker s => s.withBroker broker) (·.client)
    (fun client s => { s with client }) (·.now)

def handler (h : Handler ω) : Handler (Site ω) where
  ask hook body s :=
    let (answer, own) := h.ask hook body s.own
    (answer, { s with own })

/-- A sink that acts on its own part of the world. Its letters are written down. -/
def sink (k : Sink ω) (letter : DeadLetter) (s : Site ω) : Outcome Unit × Site ω :=
  let (outcome, own) := k letter s.own
  (outcome, { s with own, letters := s.letters ++ [letter] })

end Site

/-- A consumer of an in-memory broker before it is started: the settings, the group of its client,
and what it works with. -/
structure Deployment (ω : Type) where
  config : ConsumerConfig
  pool : PoolConfig
  broker : BrokerConfig
  group : String
  handler : Handler ω
  sink : Option (Sink ω) := none

namespace Deployment

variable {ω : Type}

def consumer (D : Deployment ω) : Consumer (Site ω) where
  config := D.config
  transport := Site.transport
  handler := Site.handler D.handler
  sink := D.sink.map Site.sink

/-- The world of a deployment in the beginning: nobody has used the broker yet. -/
def site (D : Deployment ω) (own : ω) : Site ω :=
  { broker := .ofConfig D.broker, client := { group := D.group }, own }

end Deployment

/-- Where the delivery thread of a client stands. -/
inductive DeliveryThread where
  /-- It was not started, or has ended. -/
  | absent
  /-- Before it looks whether the client still runs. -/
  | polling
  /-- Before it takes a batch; when it finds nothing it waits and takes once more. -/
  | taking (again : Bool)
  /-- With the listener, which has still to offer these deliveries. -/
  | handing (left : List Delivery)
  deriving DecidableEq

/-- A consumer of an in-memory broker at work, and the delivery thread of its client. -/
structure Session (ω : Type) extends Workplace (Site ω) where
  thread : DeliveryThread := .absent

namespace Session

variable {ω : Type}

/-- What can happen to a consumer of an in-memory broker. -/
inductive Event (ω : Type) where
  | start
  /-- The delivery thread looks whether the client still runs. -/
  | look
  /-- The delivery thread takes a batch. -/
  | take
  /-- The listener offers the next delivery of the batch. -/
  | offer
  /-- The same, when the system has no thread for the worker that should run it. -/
  | offerUnstarted (reason : String)
  /-- The listener accepts the batch. -/
  | answer
  | pick (worker : Nat)
  | work (worker : Nat)
  | workOnCaller (number : Nat)
  | retire (worker : Nat)
  | leave (worker : Nat)
  | stop
  | shutdownPool
  | discardQueue
  /-- Somebody else uses the broker. -/
  | others (e : Broker.Event)
  | clock (now : Nat)
  /-- Something happens to what belongs to the handler and the sink. -/
  | own (f : ω → ω)

/-- The next batch of what the client is subscribed to, and the broker it leaves. -/
def batch? (x : Session ω) : Option (List Delivery × Broker) :=
  x.world.client.subscription.map fun s =>
    x.world.broker.takeBatch x.world.now s.topic x.world.client.group s.filter

/-- What the delivery thread has in hand. -/
def left (x : Session ω) : List Delivery :=
  match x.thread with
  | .handing ds => ds
  | _ => []

/-- What an event is for the consumer, if it is possible for others than the consumer. The listening
thread goes on only when it has nothing to run. -/
def inner (x : Session ω) : Event ω → Option (Workplace.Event (Site ω))
  | .start => some .start
  | .look => some (.elsewhere id)
  | .take => x.batch?.map fun (_, broker) => .elsewhere (·.withBroker broker)
  | .offer => if x.run.pool.onCaller.isEmpty then x.left.head?.map .receive else none
  | .offerUnstarted reason =>
    if x.run.pool.onCaller.isEmpty then x.left.head?.map (.receiveUnstarted · reason) else none
  | .answer => if x.run.pool.onCaller.isEmpty then some (.elsewhere id) else none
  | .pick n => some (.pick n)
  | .work n => some (.work n)
  | .workOnCaller n => some (.workOnCaller n)
  | .retire n => some (.retire n)
  | .leave n => some (.leave n)
  | .stop => some .stop
  | .shutdownPool => some .shutdownPool
  | .discardQueue => some .discardQueue
  | .others e => some (.elsewhere fun s => s.withBroker (s.broker.apply e))
  | .clock now => some (.elsewhere fun s => { s with now })
  | .own f => some (.elsewhere fun s => { s with own := f s.own })

/-- Where the delivery thread stands after an event, if it is possible for the thread. -/
def threadAfter (x : Session ω) : Event ω → Option DeliveryThread
  | .start =>
    match (x.run.start x.world).1 with
    | .ok _ => some .polling
    | .error _ => some x.thread
  | .look =>
    match x.thread with
    | .polling => some (if x.world.client.running then .taking false else .absent)
    | _ => none
  | .take =>
    match x.thread, x.batch? with
    | .taking _, some (d :: ds, _) => some (.handing (d :: ds))
    | .taking again, some ([], _) => some (if again then .polling else .taking true)
    | _, _ => none
  | .offer | .offerUnstarted _ =>
    match x.thread with
    | .handing (_ :: ds) => some (.handing ds)
    | _ => none
  | .answer =>
    match x.thread with
    | .handing [] => some .polling
    | _ => none
  | _ => some x.thread

def step (x : Session ω) (e : Event ω) : Option (Session ω) := do
  let thread ← x.threadAfter e
  let inner ← x.inner e
  let work ← x.toWorkplace.step inner
  return { toWorkplace := work, thread }

/-- The first delivery of the message that the broker accepts in an event, if it does. -/
def acceptedBy (x : Session ω) : Event ω → List Delivery
  | .others e => x.world.broker.accepted e
  | _ => []

/-- Whether somebody else asks or takes for the group of the client in an event. -/
def sharesBy (x : Session ω) : Event ω → Bool
  | .others e => e.group? == some x.world.client.group
  | _ => false

/-- What is handed to the listener in an event. -/
def handedBy (x : Session ω) : Event ω → List Delivery
  | .take => (x.batch?.map (·.1)).getD []
  | _ => []

/-- What is seen of deliveries in an event. -/
def reportsBy (x : Session ω) (e : Event ω) : List Report :=
  match x.inner e with
  | none => []
  | some e => x.toWorkplace.reports e

end Session

/-- A session, with what happened so far. -/
structure Logbook (ω : Type) where
  session : Session ω
  /-- The first deliveries of what the broker accepted. -/
  accepted : List Delivery := []
  /-- What was handed to the listener. -/
  handed : List Delivery := []
  reports : List Report := []
  /-- Whether somebody else asked or took for the group of the client. -/
  shared : Bool := false

namespace Logbook

variable {ω : Type}

def step (l : Logbook ω) (e : Session.Event ω) : Option (Logbook ω) :=
  (l.session.step e).map fun session =>
    { session
      accepted := l.accepted ++ l.session.acceptedBy e
      handed := l.handed ++ l.session.handedBy e
      reports := l.reports ++ l.session.reportsBy e
      shared := l.shared || l.session.sharesBy e }

/-- The logbook after a list of events, if each is possible when it happens. -/
def run (l : Logbook ω) (es : List (Session.Event ω)) : Option (Logbook ω) := es.foldlM step l

/-- The logbooks that a deployment can reach. -/
inductive Reachable (D : Deployment ω) : Logbook ω → Prop where
  | start {pool : WorkerPool Delivery Unit} {run : ConsumerRun (Site ω)} (own : ω)
      (hpool : WorkerPool.ofConfig D.pool = .ok pool)
      (hrun : ConsumerRun.create D.consumer pool = .ok run) :
      Reachable D { session := { run, world := D.site own } }
  | step {l l' : Logbook ω} {e : Session.Event ω} (reached : Reachable D l)
      (next : l.step e = some l') : Reachable D l'

end Logbook

end KeyedDelivery
