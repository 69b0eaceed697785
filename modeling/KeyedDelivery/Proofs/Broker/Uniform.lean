import KeyedDelivery.Proofs.Broker.Placement
import KeyedDelivery.Routing

/-!
# Every topic has the same number of queues

The settings of a broker never change, and a topic is created with as many queues as they say. So
the queue that is chosen for a key is the same whenever its topic is asked for its queues.

* **`Uniform`** — the settings are those that the broker was made of, and every topic that is there
  has that many queues. Every event keeps it (`uniform_run`).
* **`eq_of_selectQueue`** — of the queues that a topic answers with, the one that is chosen for a
  key has the key's number.
-/

namespace KeyedDelivery

/-- The number of the queue of a key among `n` queues. -/
def keyIndex (key : String) (n : Nat) : Nat := (keyHash key).toInt.natAbs % n

/-- The index of a queue fits into 32 bits, whatever the number of queues. -/
theorem keyIndex_lt_size (key : String) (n : Nat) : keyIndex key n < UInt32.size := by
  have hbelow := Int32.toInt_lt (keyHash key)
  have habove := Int32.le_toInt (keyHash key)
  have hmod := Nat.mod_le (keyHash key).toInt.natAbs n
  rw [UInt32.size, keyIndex]
  omega

namespace Broker

/-- Every topic of a broker has as many queues as the settings say. -/
structure Uniform (c : BrokerConfig) (b : Broker) : Prop where
  config : b.config = c.clamped
  queues : ∀ t slots, b.queues? t = some slots → slots.length = max c.queuesPerTopic 1

namespace Uniform

variable {c : BrokerConfig} {b b' : Broker}

theorem ofConfig (c : BrokerConfig) : Uniform c (.ofConfig c) := ⟨rfl, nofun⟩

/-- What changes neither the settings nor the topics keeps it. -/
theorem of_eq (h : Uniform c b) (hc : b'.config = b.config) (ht : b'.topics = b.topics) :
    Uniform c b' where
  config := hc.trans h.config
  queues t slots hslots := h.queues t slots (by rwa [queues?, ht] at hslots)

/-- The queues of one topic are replaced by as many. -/
theorem of_put (h : Uniform c b) {topic : String} {slots : List QueueLog}
    (hc : b'.config = b.config) (ht : b'.topics = b.topics.put topic slots)
    (hlength : slots.length = max c.queuesPerTopic 1) : Uniform c b' where
  config := hc.trans h.config
  queues t slots' hslots' := by
    rw [queues?, ht, Table.find?_put] at hslots'
    split at hslots'
    · cases hslots'
      exact hlength
    · exact h.queues t slots' hslots'

/-- A new topic gets the number of queues of the settings. -/
theorem createTopic (h : Uniform c b) (topic : String) : Uniform c (b.createTopic topic) := by
  unfold Broker.createTopic
  split
  · exact h
  · refine h.of_put rfl rfl ?_
    rw [List.length_replicate, h.config]
    rfl

theorem openTopic (h : Uniform c b) (topic : String) : Uniform c (b.openTopic topic).2 :=
  openTopic_keeps h (h.createTopic topic)

/-- A message is stored in a queue of a topic that is open already. -/
theorem accept (h : Uniform c b) (now : Nat) (m : Message) (queue : Queue) :
    Uniform c (b.accept now m queue).2 := by
  refine accept_keeps (fun _ => h.of_eq rfl rfl) (h.openTopic m.topic) ?_
  intro b' slots slot hb' hslots _ _
  refine hb'.of_put rfl rfl ?_
  rw [List.length_set]
  exact hb'.queues _ _ hslots

/-- A message that becomes due is appended to a queue that is there already. -/
theorem promote (h : Uniform c b) (s : Scheduled) : Uniform c (b.promote s) := by
  refine promote_keeps h ?_ fun _ => h.of_eq rfl rfl
  -- the log of a queue is replaced, so that there are as many as before
  intro slots slot hslots _
  exact h.of_put rfl rfl (List.length_set.trans (h.queues _ _ hslots))

theorem promoteDue (h : Uniform c b) (now : Nat) : Uniform c (b.promoteDue now) :=
  promoteDue_keeps (fun _ => h.of_eq rfl rfl) fun _ s hb' => hb'.promote s

theorem drainReady (h : Uniform c b) (t g : String) (filter : TagFilter) (room : Nat) :
    Uniform c (b.drainReady t g filter room).2 := by
  obtain ⟨s, hdrained⟩ := drainReady_groups b t g filter room
  rw [hdrained]
  exact h.of_eq rfl rfl

/-- **Every event keeps it.** -/
theorem apply (h : Uniform c b) (e : Event) : Uniform c (b.apply e) := by
  cases e with
  | createTopic topic => exact h.createTopic topic
  | askQueues topic =>
    rw [Broker.apply, queueNames_snd]
    exact h.openTopic topic
  | failSends n => exact h.of_eq rfl rfl
  | accept now m queue => exact h.accept now m queue
  | promote now => exact h.promoteDue now
  | redeliver now g d level => exact h.of_eq rfl rfl
  | take now t g filter => exact (h.promoteDue now).drainReady t g filter _
  | drain t g filter room => exact h.drainReady t g filter room

/-- A topic has no queue, or as many as every other. -/
theorem queueCount (h : Uniform c b) (t : String) :
    b.queueCount t = 0 ∨ b.queueCount t = max c.queuesPerTopic 1 := by
  unfold Broker.queueCount
  cases hslots : b.queues? t with
  | none => exact .inl rfl
  | some slots => exact .inr (h.queues t slots hslots)

/-- What a topic answers that is asked for its queues. -/
theorem queueNames (h : Uniform c b) {topic : String} {queues : List Queue}
    (hok : (b.queueNames topic).1 = .ok queues) :
    queues =
      (List.range (max c.queuesPerTopic 1)).map fun i => ⟨topic, c.name, UInt32.ofNat i⟩ := by
  unfold Broker.queueNames at hok
  split at hok
  · cases hok
  · next slots b' hopen =>
    have hopened := h.openTopic topic
    rw [hopen] at hopened
    -- the name comes from the settings, which are those it was made of
    have hname : b'.config.name = c.name := by rw [hopened.config]; rfl
    rw [← hopened.queues topic slots (queues?_of_openTopic hopen), ← hname]
    exact (Except.ok.inj hok).symm

end Uniform

/-- It holds after every run of events, from the empty broker on. -/
theorem uniform_run (c : BrokerConfig) (es : List Event) : Uniform c ((ofConfig c).run es) :=
  List.foldlRecOn es Broker.apply (Uniform.ofConfig c) fun _ h e _ => h.apply e

/-- **The queue that is chosen for a key** has the number of the key. -/
theorem eq_of_selectQueue {topic name key : String} {n : Nat} {q : Queue}
    (h : selectQueue ((List.range n).map fun i => ⟨topic, name, UInt32.ofNat i⟩) key = some q) :
    q.topic = topic ∧ q.id.toNat = keyIndex key n := by
  unfold selectQueue selectIndex at h
  rw [List.length_map, List.length_range] at h
  split at h
  · cases h
  · next i hi =>
    split at hi
    · cases hi
    · cases hi
      rw [List.getElem?_map, Option.map_eq_some_iff] at h
      -- the queue at an index of the list is the one with that number
      obtain ⟨j, hj, rfl⟩ := h
      obtain rfl := (List.getElem?_eq_some_iff.mp hj).2.symm.trans (List.getElem_range _)
      exact ⟨rfl, UInt32.toNat_ofNat_of_lt (keyIndex_lt_size key n)⟩

end Broker

end KeyedDelivery
