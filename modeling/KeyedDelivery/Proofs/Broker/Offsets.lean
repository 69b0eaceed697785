import KeyedDelivery.Proofs.Broker.FirstDelivery

/-!
# Accepted messages have places of their own

A queue numbers the messages it accepts, so that a queue and an offset name one message.

* **`nextOffset`** — the offset of the next message of a queue.
* **`nextOffset_apply`** — it grows by one with each message that the queue accepts, and with nothing
  else.
* **`offset_of_accepted`** — the message gets the number that the queue had.
-/

namespace KeyedDelivery.Broker

variable {b b' : Broker}

/-- The offset of the next message of queue number `i` of a topic. -/
def nextOffset (b : Broker) (t : String) (i : Nat) : Nat :=
  (((b.queues? t).getD []).getD i {}).nextOffset

/-- The next offset is read off the topics alone. -/
theorem nextOffset_congr (h : b'.topics = b.topics) (t : String) (i : Nat) :
    b'.nextOffset t i = b.nextOffset t i := by
  unfold nextOffset queues?
  rw [h]

/-- Putting the queues of one topic leaves the offsets of all others. -/
theorem nextOffset_of_put {t : String} {slots : List QueueLog}
    (h : b'.topics = b.topics.put t slots) (t' : String) (i : Nat) :
    b'.nextOffset t' i =
      if t = t' then (slots.getD i {}).nextOffset else b.nextOffset t' i := by
  unfold nextOffset queues?
  rw [h, Table.find?_put]
  split <;> rfl

/-- Replacing one log leaves the offsets of all other queues. -/
theorem nextOffset_of_set {t : String} {slots : List QueueLog} {j : Nat} {slot slot' : QueueLog}
    (hslots : b.queues? t = some slots) (hslot : slots[j]? = some slot)
    (h : b'.topics = b.topics.put t (slots.set j slot')) (t' : String) (i : Nat) :
    b'.nextOffset t' i = if t = t' ∧ j = i then slot'.nextOffset else b.nextOffset t' i := by
  have hj : j < slots.length := (List.getElem?_eq_some_iff.mp hslot).1
  rw [nextOffset_of_put h]
  by_cases ht : t = t'
  · subst ht
    by_cases hi : j = i
    · subst hi
      simp [List.getD_eq_getElem?_getD, hj]
    · simp [nextOffset, hslots, hi, List.getD_eq_getElem?_getD]
  · -- the queues of another topic are those from before
    simp [ht]

/-- The next offset of a queue that is there. -/
theorem nextOffset_eq {t : String} {slots : List QueueLog} {i : Nat} {slot : QueueLog}
    (hslots : b.queues? t = some slots) (hslot : slots[i]? = some slot) :
    b.nextOffset t i = slot.nextOffset := by
  simp [nextOffset, hslots, List.getD_eq_getElem?_getD, hslot]

/-! ## What each operation does to the offsets -/

/-- A new topic numbers its messages from zero, as one that is not there would. -/
theorem nextOffset_createTopic (b : Broker) (topic t : String) (i : Nat) :
    (b.createTopic topic).nextOffset t i = b.nextOffset t i := by
  unfold createTopic
  split
  · rfl
  · next hnone =>
    rw [nextOffset_of_put rfl]
    split
    · next ht =>
      -- neither the missing queue nor the new one has an offset yet
      subst ht
      simp only [nextOffset, hnone, List.getD_eq_getElem?_getD, List.getElem?_replicate]
      split <;> rfl
    · rfl

/-- A new topic begins at zero, as one that is not there does. -/
theorem nextOffset_openTopic (b : Broker) (topic t : String) (i : Nat) :
    (b.openTopic topic).2.nextOffset t i = b.nextOffset t i :=
  openTopic_keeps (P := fun b' => b'.nextOffset t i = b.nextOffset t i) rfl
    (nextOffset_createTopic b topic t i)

/-- Storing a message takes one offset of its queue, whether it is immediate or delayed. -/
theorem nextOffset_store {m : Message} {queue : Queue} {slots : List QueueLog} {slot : QueueLog}
    (hslots : b.queues? m.topic = some slots) (hslot : slots[queue.id.toNat]? = some slot)
    (now : Nat) (t : String) (i : Nat) :
    (b.store now m queue slots slot).2.nextOffset t i =
      b.nextOffset t i + if m.topic = t ∧ queue.id.toNat = i then 1 else 0 := by
  have htopics : (b.store now m queue slots slot).2.topics =
      b.topics.put m.topic (slots.set queue.id.toNat _) := rfl
  rw [nextOffset_of_set hslots hslot htopics]
  split
  · next hq =>
    obtain ⟨rfl, rfl⟩ := hq
    rw [nextOffset_eq hslots hslot]
    split <;> rfl
  · rfl

/-- A message that becomes due had its offset before. -/
theorem nextOffset_promote (b : Broker) (s : Scheduled) (t : String) (i : Nat) :
    (b.promote s).nextOffset t i = b.nextOffset t i := by
  refine promote_keeps (P := fun b' => b'.nextOffset t i = b.nextOffset t i) rfl ?_ fun _ => rfl
  -- the log grows, and its next offset stays
  intro slots slot hslots hslot longer
  rw [nextOffset_of_set (b := b) hslots hslot rfl]
  split
  · next hq =>
    obtain ⟨rfl, rfl⟩ := hq
    exact (nextOffset_eq hslots hslot).symm
  · rfl

theorem nextOffset_promoteDue (b : Broker) (now : Nat) (t : String) (i : Nat) :
    (b.promoteDue now).nextOffset t i = b.nextOffset t i :=
  promoteDue_keeps (P := fun b' => b'.nextOffset t i = b.nextOffset t i) (fun _ => rfl)
    fun b' s h => (nextOffset_promote b' s t i).trans h

/-- A batch takes no offset. -/
theorem nextOffset_drainReady (b : Broker) (topic g : String) (filter : TagFilter) (room : Nat)
    (t : String) (i : Nat) :
    (b.drainReady topic g filter room).2.nextOffset t i = b.nextOffset t i :=
  nextOffset_congr (topics_drainReady b topic g filter room) t i

/-! ## One event -/

/-- What a broker accepts is what it stores. -/
theorem accepted_cases (b : Broker) (now : Nat) (m : Message) (queue : Queue) :
    (b.accepted (.accept now m queue) = [] ∧
      ((b.accept now m queue).2 = b ∨
        (b.accept now m queue).2 = { b with failNext := b.failNext - 1 } ∨
        (b.accept now m queue).2 = (b.openTopic m.topic).2)) ∨
    ∃ b' slots slot, b.openTopic m.topic = (.ok slots, b') ∧ slots[queue.id.toNat]? = some slot ∧
      queue.topic = m.topic ∧ b.accepted (.accept now m queue) = [b'.deliveryOf now m queue slot] ∧
      (b.accept now m queue).2 = (b'.store now m queue slots slot).2 := by
  rcases accept_cases b now m queue with
    ⟨e, b', h, hb'⟩ | ⟨b', slots, slot, ho, hslot, -, hqueue, h⟩
  · refine .inl ⟨?_, by rwa [h]⟩
    -- nothing is stored, so that no receipt is given
    simp only [accepted, h]
  · refine .inr ⟨b', slots, slot, ho, hslot, hqueue, ?_, by rw [h]⟩
    simp only [accepted, h]
    rfl

/-- An event accepts one message at most. -/
theorem accepted_le_one (b : Broker) (e : Event) : b.accepted e = [] ∨ ∃ d, b.accepted e = [d] := by
  cases e with
  | accept now m queue =>
    rcases accepted_cases b now m queue with ⟨hnone, -⟩ | ⟨_, _, _, _, _, _, hd, -⟩
    · exact .inl hnone
    · exact .inr ⟨_, hd⟩
  | _ => exact .inl rfl

/-- **A queue counts what it accepts.** -/
theorem nextOffset_apply (b : Broker) (e : Event) (t : String) (i : Nat) :
    (b.apply e).nextOffset t i = b.nextOffset t i +
      (b.accepted e).countP fun d => d.queue.topic = t ∧ d.queue.id.toNat = i := by
  cases e with
  | createTopic topic => exact nextOffset_createTopic b topic t i
  | askQueues topic =>
    rw [apply, queueNames_snd, nextOffset_openTopic]
    rfl
  | failSends n => rfl
  | accept now m queue =>
    rw [apply]
    rcases accepted_cases b now m queue with
      ⟨hnone, hb'⟩ | ⟨b', slots, slot, ho, hslot, hqueue, hd, hb'⟩
    · rw [hnone]
      rcases hb' with hb' | hb' | hb' <;> rw [hb']
      · rfl
      · rfl
      · exact nextOffset_openTopic b m.topic t i
    · -- opening the topic comes before the store, and gives out no offset
      have hopened := nextOffset_openTopic b m.topic t i
      rw [ho] at hopened
      rw [hb', hd, nextOffset_store (queues?_of_openTopic ho) hslot, hopened, List.countP_singleton]
      simp [deliveryOf, hqueue]
  | promote now => exact nextOffset_promoteDue b now t i
  | redeliver now g d level => rfl
  | take now topic g filter =>
    rw [apply, takeBatch, nextOffset_drainReady, nextOffset_promoteDue]
    rfl
  | drain topic g filter room => exact nextOffset_drainReady b topic g filter room t i

/-- **What is accepted is a first delivery with the next offset of its queue.** -/
theorem offset_of_accepted {e : Event} {d : Delivery} (h : d ∈ b.accepted e) :
    d.offset = b.nextOffset d.queue.topic d.queue.id.toNat ∧ d.reconsumed = 0 := by
  cases e with
  | accept now m queue =>
    rcases accepted_cases b now m queue with ⟨hnone, -⟩ | ⟨b', slots, slot, ho, hslot, hqueue, hd, -⟩
    · rw [hnone] at h
      cases h
    · rw [hd, List.mem_singleton] at h
      subst h
      -- opening the topic has taken no offset
      have hopened := nextOffset_openTopic b m.topic m.topic queue.id.toNat
      rw [ho] at hopened
      refine ⟨?_, rfl⟩
      show slot.nextOffset = b.nextOffset queue.topic queue.id.toNat
      rw [hqueue, ← hopened, nextOffset_eq (queues?_of_openTopic ho) hslot]
  | _ => cases h

end KeyedDelivery.Broker
