import KeyedDelivery.Broker.Basic
import KeyedDelivery.TagFilter

/-!
# Handing deliveries out

A group takes batches of a topic. Before each batch everything that is due leaves the schedule
(`promoteDue`). A batch holds the redelivered copies of the topic first, then what is new in the
logs, queue by queue, up to the size limit (`drainReady`). A new message whose tag the subscription
does not take is passed over; it counts as read.
-/

namespace KeyedDelivery.Broker

/-- Schedules the copy of a delivery that a group asked for again. -/
def scheduleRedelivery (b : Broker) (now : Nat) (group : String) (d : Delivery)
    (level : DelayLevel) : Broker :=
  { b with
    redeliveries := b.redeliveries ++
      [⟨group, d.id, d.message.key, d.again.reconsumed, level⟩]
    scheduled := b.scheduled ++ [⟨now + b.config.delays.duration level, some group, d.again⟩] }

/-- Schedules every delivery of a batch again, each one level above its count. -/
def scheduleBatch (b : Broker) (now : Nat) (group : String) (batch : List Delivery) : Broker :=
  batch.foldl (fun b d => b.scheduleRedelivery now group d (.forRetry d.reconsumed)) b

/-! ### What is due -/

def appendLog (b : Broker) (d : Delivery) : Broker :=
  match b.queues? d.queue.topic with
  | none => b
  | some slots =>
    match slots[d.queue.id.toNat]? with
    | none => b
    | some slot =>
      let slots := slots.set d.queue.id.toNat { slot with log := slot.log ++ [d] }
      { b with topics := b.topics.put d.queue.topic slots }

def appendRetry (b : Broker) (group : String) (d : Delivery) : Broker :=
  let g := b.group group
  { b with groups := b.groups.put group { g with retry := g.retry ++ [d] } }

/-- Moves a delivery that is due to where it is read from. -/
def promote (b : Broker) (s : Scheduled) : Broker :=
  match s.group with
  | none => b.appendLog s.delivery
  | some g => b.appendRetry g s.delivery

/-- Moves everything that is due, in the order in which it was scheduled. -/
def promoteDue (b : Broker) (now : Nat) : Broker :=
  (b.scheduled.filter (·.due ≤ now)).foldl promote
    { b with scheduled := b.scheduled.filter (¬ ·.due ≤ now) }

/-! ### Taking a batch -/

/-- Takes up to `room` copies of a topic out of a retry queue: those taken and those left. -/
def takeRetry (topic : String) : Nat → List Delivery → List Delivery × List Delivery
  | _, [] => ([], [])
  | 0, ds => ([], ds)
  | room + 1, d :: ds =>
    if d.message.topic = topic then
      let (taken, left) := takeRetry topic room ds
      (d :: taken, left)
    else
      let (taken, left) := takeRetry topic (room + 1) ds
      (taken, d :: left)

/-- Reads a log until `room` deliveries are taken: those taken, and how many were read. -/
def takeLog (filter : TagFilter) : Nat → List Delivery → List Delivery × Nat
  | _, [] => ([], 0)
  | 0, _ => ([], 0)
  | room + 1, d :: ds =>
    if filter.accepts d.message.tag then
      let (taken, n) := takeLog filter room ds
      (d :: taken, n + 1)
    else
      let (taken, n) := takeLog filter (room + 1) ds
      (taken, n + 1)

/-- Reads the logs of the queues one after the other, each from its cursor: what is taken, and the
cursors afterwards. -/
def takeLogs (filter : TagFilter) : Nat → List QueueLog → List Nat → List Delivery × List Nat
  | room, q :: qs, c :: cs =>
    let (taken, n) := takeLog filter room (q.log.drop c)
    let (more, cursors) := takeLogs filter (room - taken.length) qs cs
    (taken ++ more, (c + n) :: cursors)
  | _, _, cs => ([], cs)

/-- Takes up to `room` deliveries of a topic that are ready for a group. -/
def drainReady (b : Broker) (topic group : String) (filter : TagFilter) (room : Nat) :
    List Delivery × Broker :=
  let g := b.group group
  let (copies, retry) := takeRetry topic room g.retry
  match b.queues? topic with
  | none => (copies, { b with groups := b.groups.put group { g with retry } })
  | some slots =>
    let cursors := (g.cursors.find? topic).getD (List.replicate slots.length 0)
    let (fresh, cursors) := takeLogs filter (room - copies.length) slots cursors
    (copies ++ fresh,
      { b with groups := b.groups.put group { cursors := g.cursors.put topic cursors, retry } })

/-- Takes the next batch of a topic for a group: what is due is promoted first. -/
def takeBatch (b : Broker) (now : Nat) (topic group : String) (filter : TagFilter) :
    List Delivery × Broker :=
  (b.promoteDue now).drainReady topic group filter b.config.batchMax

end KeyedDelivery.Broker
