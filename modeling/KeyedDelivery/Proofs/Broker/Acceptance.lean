import KeyedDelivery.Broker.Client
import KeyedDelivery.Proofs.Broker.Placement

/-!
# What a send does to a broker

A broker that refuses a message has stored nothing, and one that accepts it has stored one copy.

* **`Unstored`** — nothing was stored: the topic may have been created, and an injected failure used
  up.
* **`Stored`** — one message was stored as its first delivery, and nothing else has changed.
* **`Answered`** — an answer tells which of the two it was; so it does for one acceptance
  (`answered_accept`), also after calls that stored nothing (`Answered.after`).
* **`unstored_queues`**, **`answered_send`** — the same of what a client asks the broker.
-/

namespace KeyedDelivery.Broker

variable {b b' b'' : Broker} {topic : String}

/-! ## Nothing is stored -/

/-- Nothing was stored between one broker and another. The topic may have been created, with empty
queues, and some of the sends that were made to fail have failed. -/
structure Unstored (topic : String) (b b' : Broker) : Prop where
  logs : ∀ t i, b'.log t i = b.log t i
  offsets : ∀ t i, b'.nextOffset t i = b.nextOffset t i
  scheduled : b'.scheduled = b.scheduled
  groups : b'.groups = b.groups
  redeliveries : b'.redeliveries = b.redeliveries
  sent : b'.sent = b.sent
  config : b'.config = b.config
  topics : b'.topics = b.topics ∨ b.queues? topic = none ∧
    b'.topics = b.topics.put topic (List.replicate b.config.queuesPerTopic {})
  failNext : b'.failNext ≤ b.failNext

theorem Unstored.refl (topic : String) (b : Broker) : Unstored topic b b :=
  ⟨fun _ _ => rfl, fun _ _ => rfl, rfl, rfl, rfl, rfl, rfl, .inl rfl, Nat.le_refl _⟩

/-- Two calls that store nothing store nothing together. -/
theorem Unstored.trans (h : Unstored topic b b') (h' : Unstored topic b' b'') :
    Unstored topic b b'' where
  logs t i := (h'.logs t i).trans (h.logs t i)
  offsets t i := (h'.offsets t i).trans (h.offsets t i)
  scheduled := h'.scheduled.trans h.scheduled
  groups := h'.groups.trans h.groups
  redeliveries := h'.redeliveries.trans h.redeliveries
  sent := h'.sent.trans h.sent
  config := h'.config.trans h.config
  topics := by
    rcases h.topics with hsame | ⟨hnone, hcreated⟩
    · have htopics := h'.topics
      rwa [queues?, hsame, h.config] at htopics
    · -- a topic that was created is not created again
      have hthere : b'.queues? topic ≠ none := by simp [queues?, hcreated]
      have hkept := h'.topics.resolve_right fun h => hthere h.1
      exact .inr ⟨hnone, hkept.trans hcreated⟩
  failNext := Nat.le_trans h'.failNext h.failNext

/-- A failure that is used up stores nothing. -/
theorem unstored_failNext (topic : String) {n : Nat} (h : n ≤ b.failNext) :
    Unstored topic b { b with failNext := n } :=
  ⟨log_congr rfl, nextOffset_congr rfl, rfl, rfl, rfl, rfl, rfl, .inl rfl, h⟩

/-- A topic that is created has empty logs. -/
theorem unstored_createTopic (b : Broker) (topic : String) :
    Unstored topic b (b.createTopic topic) := by
  cases hqueues : b.queues? topic with
  -- the topic is there already
  | some slots =>
    rw [createTopic, hqueues]
    exact .refl topic b
  | none =>
    have hcreated : b.createTopic topic = { b with
        topics := b.topics.put topic (List.replicate b.config.queuesPerTopic {}) } := by
      rw [createTopic, hqueues]
    refine ⟨log_createTopic b topic, nextOffset_createTopic b topic, ?_, ?_, ?_, ?_, ?_, ?_, ?_⟩ <;>
      rw [hcreated]
    exact .inr ⟨hqueues, rfl⟩

/-- Opening a topic stores nothing, whether it succeeds or not. -/
theorem unstored_openTopic (b : Broker) (topic : String) :
    Unstored topic b (b.openTopic topic).2 :=
  openTopic_keeps (.refl topic b) (unstored_createTopic b topic)

/-! ## One message is stored -/

/-- One message was stored between one broker and another, as the first delivery `d`: it has the next
offset of its queue, and stands at the end of the queue's log or, when it is delayed, of the
schedule. -/
structure Stored (b b' : Broker) (d : Delivery) : Prop where
  sent : b'.sent = b.sent + 1
  first : d.reconsumed = 0
  topic : d.queue.topic = d.message.topic
  offset : d.offset = b.nextOffset d.queue.topic d.queue.id.toNat
  offsets : ∀ t i, b'.nextOffset t i = b.nextOffset t i + if d.isAt t i then 1 else 0
  logs : ∀ t i, b'.log t i =
    b.log t i ++ if d.isAt t i ∧ d.message.delay.isImmediate then [d] else []
  scheduled : ∃ due, b'.scheduled =
    b.scheduled ++ if d.message.delay.isImmediate then [] else [⟨due, none, d⟩]
  groups : b'.groups = b.groups
  redeliveries : b'.redeliveries = b.redeliveries
  config : b'.config = b.config
  failNext : b'.failNext ≤ b.failNext

/-- What came before the message was stored may have stored nothing. -/
theorem Stored.after {d : Delivery} (h : Unstored topic b b') (h' : Stored b' b'' d) :
    Stored b b'' d where
  sent := by rw [h'.sent, h.sent]
  first := h'.first
  topic := h'.topic
  offset := by rw [h'.offset, h.offsets]
  offsets t i := by rw [h'.offsets, h.offsets]
  logs t i := by rw [h'.logs, h.logs]
  scheduled := by
    rw [← h.scheduled]
    exact h'.scheduled
  groups := h'.groups.trans h.groups
  redeliveries := h'.redeliveries.trans h.redeliveries
  config := h'.config.trans h.config
  failNext := Nat.le_trans h'.failNext h.failNext

/-- **What is stored is one first delivery**, in the log of its queue or on the schedule, and
nothing else changes. -/
theorem stored_store {m : Message} {queue : Queue} {slots : List QueueLog} {slot : QueueLog}
    (hslots : b.queues? m.topic = some slots) (hslot : slots[queue.id.toNat]? = some slot)
    (hqueue : queue.topic = m.topic) (now : Nat) :
    Stored b (b.store now m queue slots slot).2 (b.deliveryOf now m queue slot) where
  sent := rfl
  first := rfl
  topic := hqueue
  offset := by
    show slot.nextOffset = b.nextOffset queue.topic queue.id.toNat
    rw [hqueue, nextOffset_eq hslots hslot]
  offsets t i := by
    rw [nextOffset_store hslots hslot]
    simp [Delivery.isAt, deliveryOf, hqueue]
  logs t i := by
    rw [log_store hslots hslot]
    by_cases hat : m.topic = t ∧ queue.id.toNat = i
    · -- in its own queue an immediate message is at the end of the log, and a delayed one is
      -- not
      cases himmediate : m.delay.isImmediate <;>
        simp [Delivery.isAt, deliveryOf, hqueue, hat.1, hat.2, himmediate]
    · have hother : (b.deliveryOf now m queue slot).isAt t i = false := by
        simpa [Delivery.isAt, deliveryOf, hqueue] using hat
      rw [if_neg fun h => hat ⟨h.1, h.2.1⟩, if_neg fun h => by simp [hother] at h, List.append_nil]
  scheduled := by
    refine ⟨now + b.config.delays.duration m.delay, ?_⟩
    have himmediate : (b.deliveryOf now m queue slot).message.delay = m.delay := rfl
    rw [scheduled_store, himmediate]
    split
    · rw [List.append_nil]
    · rfl
  groups := rfl
  redeliveries := rfl
  config := rfl
  failNext := Nat.le_refl _

/-! ## The answer -/

/-- An answer to a send says what the broker has done: a receipt, that it stored the message where the
receipt says, and an error, that it stored nothing. -/
inductive Answered (m : Message) (b b' : Broker) : Except String Receipt → Prop where
  | accepted (r : Receipt) (stored : Stored b b' ⟨r.id, m, r.queue, r.offset, 0⟩) :
      Answered m b b' (.ok r)
  | refused (e : String) (unstored : Unstored m.topic b b') : Answered m b b' (.error e)

/-- Calls that stored nothing may come before the answer. -/
theorem Answered.after {m : Message} {answer : Except String Receipt} (h : Unstored m.topic b b')
    (h' : Answered m b' b'' answer) : Answered m b b'' answer := by
  cases h' with
  | accepted r stored => exact .accepted r (stored.after h)
  | refused e unstored => exact .refused e (h.trans unstored)

/-- **An acceptance is answered truly.** -/
theorem answered_accept (b : Broker) (now : Nat) (m : Message) (queue : Queue) :
    Answered m b (b.accept now m queue).2 ((b.accept now m queue).1.mapError (·.message)) := by
  have hopened := unstored_openTopic b m.topic
  rcases accept_cases b now m queue with ⟨e, b', h, hb'⟩ | ⟨b', slots, slot, ho, hslot, -, hqueue, h⟩
  · rw [h]
    refine .refused e.message ?_
    -- a refusal leaves the broker, uses up an injected failure or opens the topic
    rcases hb' with rfl | rfl | rfl
    · exact .refl m.topic _
    · exact unstored_failNext m.topic (Nat.sub_le _ _)
    · exact hopened
  · rw [ho] at hopened
    rw [h]
    exact .accepted _ ((stored_store (queues?_of_openTopic ho) hslot hqueue now).after hopened)

/-! ## Through a client

A client that is not open refuses by itself. -/

/-- A client that asks for the queues of a topic stores nothing. -/
theorem unstored_queues (c : ProducerClient) (b : Broker) (topic : String) :
    Unstored topic b (c.queues b topic).2 := by
  unfold ProducerClient.queues
  cases c.checkOpen with
  | error e => exact .refl topic b
  | ok _ =>
    simp only
    rw [queueNames_snd]
    exact unstored_openTopic b topic

/-- The answer of a client, too, tells whether the message was stored. -/
theorem answered_send (c : ProducerClient) (b : Broker) (now : Nat) (m : Message) (queue : Queue) :
    Answered m b (c.send b now m queue).2 ((c.send b now m queue).1.mapError (·.message)) := by
  unfold ProducerClient.send
  cases c.checkOpen with
  | error e => exact .refused e.message (.refl m.topic b)
  | ok _ => exact answered_accept b now m queue

end KeyedDelivery.Broker
