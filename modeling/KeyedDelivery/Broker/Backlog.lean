import KeyedDelivery.Broker.Basic

/-!
# What a group has not received yet

The backlog of a topic for a group counts what is unread in the logs, the copies in the group's
retry queue, and what is scheduled for the topic's logs or for this group.
-/

namespace KeyedDelivery.Broker

/-- How many entries of the logs lie behind the cursors; a missing cursor has read nothing. -/
def unread : List QueueLog → List Nat → Nat
  | [], _ => 0
  | q :: qs, [] => q.log.length + unread qs []
  | q :: qs, c :: cs => (q.log.length - c) + unread qs cs

/-- Whether a scheduled delivery of a topic will reach a group. -/
def isFor (topic group : String) (s : Scheduled) : Bool :=
  s.delivery.message.topic == topic && (s.group.all (· == group))

/-- How many scheduled deliveries of a topic will reach a group. -/
def pending (b : Broker) (topic group : String) : Nat := b.scheduled.countP (isFor topic group)

/-- How many deliveries of a topic a group has not received yet. -/
def backlog (b : Broker) (topic group : String) : Nat :=
  let g := b.group group
  let unread := match b.queues? topic with
    | none => 0
    | some slots => unread slots ((g.cursors.find? topic).getD [])
  unread + g.retry.countP (·.message.topic == topic) + b.pending topic group

/-- Whether something of a topic is due for a group. -/
def hasDue (b : Broker) (now : Nat) (topic group : String) : Bool :=
  b.scheduled.countP (fun s => isFor topic group s && now < s.due) < b.backlog topic group

end KeyedDelivery.Broker
