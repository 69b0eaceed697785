import KeyedDelivery.Broker.Basic

/-!
# Accepting messages

A message is accepted into the queue that its sender chose. It gets the next offset of the queue,
and goes to the end of the queue's log, or onto the schedule when it is delayed.
-/

namespace KeyedDelivery.Broker

def freshId (b : Broker) (now : Nat) : MessageId :=
  .timeOrdered (Time.toMillis now) b.sent

/-- Enters a message into queue number `queue.id` of its topic, of which `slot` is the state and
`slots` are all. -/
def store (b : Broker) (now : Nat) (m : Message) (queue : Queue) (slots : List QueueLog)
    (slot : QueueLog) : Receipt × Broker :=
  let d : Delivery := ⟨b.freshId now, m, queue, slot.nextOffset, 0⟩
  let slot := { slot with nextOffset := slot.nextOffset + 1 }
  let slot := if m.delay.isImmediate then { slot with log := slot.log ++ [d] } else slot
  let scheduled :=
    if m.delay.isImmediate then b.scheduled
    else b.scheduled ++ [⟨now + b.config.delays.duration m.delay, none, d⟩]
  (⟨d.id, queue, d.offset⟩,
    { b with
      topics := b.topics.put m.topic (slots.set queue.id.toNat slot)
      scheduled
      sent := b.sent + 1 })

/-- Accepts a message into a queue, or refuses it: the queue is not one of the message's topic on
this broker, the send is made to fail, or the topic is missing. -/
def accept (b : Broker) (now : Nat) (m : Message) (queue : Queue) :
    Except TransportError Receipt × Broker :=
  if queue.broker ≠ b.config.name ∨ queue.topic ≠ m.topic then
    (.error (.unknownQueue queue.display), b)
  else if 0 < b.failNext then
    (.error (.sendRejected "injected failure"), { b with failNext := b.failNext - 1 })
  else match b.openTopic m.topic with
    | (.error e, b) => (.error e, b)
    | (.ok slots, b) =>
      match slots[queue.id.toNat]? with
      | none => (.error (.unknownQueue queue.display), b)
      | some slot =>
        let (receipt, b) := b.store now m queue slots slot
        (.ok receipt, b)

end KeyedDelivery.Broker
