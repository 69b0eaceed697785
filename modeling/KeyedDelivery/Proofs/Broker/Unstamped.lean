import KeyedDelivery.Broker.Client

/-!
# A broker without identifiers and times

The clock of a broker goes into the identifiers that messages get and into the times at which delayed
ones are due, and into nothing else that a send does. So a broker is looked at without these.

* **`unstamped`** — the logs and the schedule without identifiers and times.
* **`unstamped_openTopic`**, **`unstamped_accept`** — what the broker does and answers, looked at so,
  depends on the broker only as far as it is seen so, and not on the clock.
* **`send_alike`**, **`queues_alike`** — hence two brokers that look alike answer a client alike, and
  look alike afterwards.
-/

namespace KeyedDelivery

namespace Table

variable {κ α β : Type} [DecidableEq κ]

/-- The entries under a function. -/
def mapValues (f : α → β) (t : Table κ α) : Table κ β := t.map fun e => (e.1, f e.2)

/-- What is found in a table with mapped values. -/
theorem find?_mapValues (f : α → β) (t : Table κ α) (k : κ) :
    find? (mapValues f t) k = (find? t k).map f := by
  induction t with
  | nil => rfl
  | cons e t ih =>
    rw [mapValues, List.map_cons, find?, find?]
    split
    · rfl
    · exact ih

/-- An entry may be put before the values are mapped or afterwards. -/
theorem mapValues_put (f : α → β) (t : Table κ α) (k : κ) (a : α) :
    mapValues f (put t k a) = put (mapValues f t) k (f a) := by
  induction t with
  | nil => rfl
  | cons e t ih =>
    rw [mapValues, mapValues, List.map_cons, put, put]
    split
    · rfl
    · exact congrArg _ ih

omit [DecidableEq κ] in
theorem mapValues_mapValues {γ : Type} (g : β → γ) (f : α → β) (t : Table κ α) :
    mapValues g (mapValues f t) = mapValues (g ∘ f) t := by
  rw [mapValues, mapValues, mapValues, List.map_map]
  rfl

end Table

/-! ## What is left without identifiers and times -/

def Receipt.unstamped (r : Receipt) : Receipt := { r with id := default }

def Delivery.unstamped (d : Delivery) : Delivery := { d with id := default }

def Scheduled.unstamped (s : Scheduled) : Scheduled :=
  { s with due := 0, delivery := s.delivery.unstamped }

def QueueLog.unstamped (q : QueueLog) : QueueLog := { q with log := q.log.map Delivery.unstamped }

/-! Looking twice shows nothing more than looking once. -/

@[simp] theorem Delivery.unstamped_comp :
    Delivery.unstamped ∘ Delivery.unstamped = Delivery.unstamped := rfl

@[simp] theorem Scheduled.unstamped_comp :
    Scheduled.unstamped ∘ Scheduled.unstamped = Scheduled.unstamped := rfl

/-- What a log has lost to the first look it does not lose to a second one. The same holds of its
messages and of a list of logs. -/
@[simp] theorem QueueLog.unstamped_comp :
    QueueLog.unstamped ∘ QueueLog.unstamped = QueueLog.unstamped := by
  funext q
  simp [unstamped]

@[simp] theorem QueueLog.map_unstamped_comp :
    List.map QueueLog.unstamped ∘ List.map QueueLog.unstamped = List.map QueueLog.unstamped := by
  funext l
  simp

namespace Broker

/-- The broker without the identifiers of the messages in its logs and on its schedule, and without
the times at which these are due. -/
def unstamped (b : Broker) : Broker :=
  { b with
    topics := b.topics.mapValues (List.map QueueLog.unstamped)
    scheduled := b.scheduled.map Scheduled.unstamped }

variable (b : Broker)

/-- Looking again loses nothing more. -/
@[simp] theorem unstamped_unstamped : b.unstamped.unstamped = b.unstamped := by
  simp [unstamped, Table.mapValues_mapValues]

/-- The queues of a topic are there to be seen. -/
theorem queues?_unstamped (topic : String) :
    b.unstamped.queues? topic = (b.queues? topic).map (List.map QueueLog.unstamped) :=
  Table.find?_mapValues _ _ _

/-- A new topic has empty logs, which have nothing to lose. -/
theorem unstamped_createTopic (topic : String) :
    b.unstamped.createTopic topic = (b.createTopic topic).unstamped := by
  unfold createTopic
  rw [queues?_unstamped]
  cases b.queues? topic with
  | some slots => rfl
  | none =>
    -- the logs of a new topic are empty, so that they look as they are
    have hnew : List.replicate b.config.queuesPerTopic ({} : QueueLog) =
        (List.replicate b.config.queuesPerTopic {}).map QueueLog.unstamped := by
      rw [List.map_replicate]
      rfl
    simp only [Option.map_none, unstamped, Table.mapValues_put]
    rw [← hnew]

/-- Opening a topic shows the same whether it is opened before the look or after. -/
theorem unstamped_openTopic (topic : String) :
    b.unstamped.openTopic topic =
      ((b.openTopic topic).1.map (List.map QueueLog.unstamped), (b.openTopic topic).2.unstamped) := by
  have hopened : (if b.unstamped.config.autoCreate then b.unstamped.createTopic topic
      else b.unstamped) =
        (if b.config.autoCreate then b.createTopic topic else b).unstamped := by
    rw [unstamped_createTopic]
    show (if b.config.autoCreate then _ else _) = _
    split <;> rfl
  -- whichever broker it is by now, it has the topic or not
  unfold openTopic
  dsimp only
  rw [hopened, queues?_unstamped]
  generalize (if b.config.autoCreate then b.createTopic topic else b) = b'
  cases b'.queues? topic <;> rfl

/-- The answer about the queues names no identifier and no time. -/
theorem unstamped_queueNames (topic : String) :
    b.unstamped.queueNames topic =
      ((b.queueNames topic).1, (b.queueNames topic).2.unstamped) := by
  have hopen := b.unstamped_openTopic topic
  have hname : (b.openTopic topic).2.unstamped.config.name = (b.openTopic topic).2.config.name := rfl
  unfold queueNames
  rw [hopen]
  rcases b.openTopic topic with ⟨e | slots, b'⟩
  · rfl
  · simp [Except.map, unstamped]

/-- A message is stored in the same place whenever it comes. -/
theorem unstamped_store (now now' : Nat) (m : Message) (queue : Queue) (slots : List QueueLog)
    (slot : QueueLog) :
    (b.unstamped.store now' m queue (slots.map QueueLog.unstamped) slot.unstamped).1.unstamped =
        (b.store now m queue slots slot).1.unstamped ∧
      (b.unstamped.store now' m queue (slots.map QueueLog.unstamped) slot.unstamped).2.unstamped =
        (b.store now m queue slots slot).2.unstamped := by
  constructor
  · simp only [store, Receipt.unstamped, QueueLog.unstamped]
  · unfold store
    simp only [unstamped, Table.mapValues_put, Table.mapValues_mapValues,
      QueueLog.map_unstamped_comp, List.map_set]
    -- a delayed message is due at another time, and that is all
    cases m.delay.isImmediate <;>
      simp [QueueLog.unstamped, Scheduled.unstamped, Delivery.unstamped]

/-- A message is accepted or refused whenever it comes. -/
theorem unstamped_accept (now now' : Nat) (m : Message) (queue : Queue) :
    (b.unstamped.accept now' m queue).1.map Receipt.unstamped =
        (b.accept now m queue).1.map Receipt.unstamped ∧
      (b.unstamped.accept now' m queue).2.unstamped = (b.accept now m queue).2.unstamped := by
  have hconfig : b.unstamped.config = b.config := rfl
  have hfail : b.unstamped.failNext = b.failNext := rfl
  unfold accept
  rw [hconfig, hfail, b.unstamped_openTopic]
  split
  · exact ⟨rfl, unstamped_unstamped b⟩
  split
  · exact ⟨rfl, unstamped_unstamped { b with failNext := b.failNext - 1 }⟩
  rcases b.openTopic m.topic with ⟨e | slots, b'⟩
  · exact ⟨rfl, unstamped_unstamped b'⟩
  · simp only [Except.map, List.getElem?_map]
    cases slots[queue.id.toNat]? with
    | none => exact ⟨rfl, unstamped_unstamped b'⟩
    -- only here is a message stored, with an identifier and a time
    | some slot =>
      obtain ⟨hreceipt, hbroker⟩ := b'.unstamped_store now now' m queue slots slot
      exact ⟨congrArg Except.ok hreceipt, hbroker⟩

/-! ## Brokers that look alike -/

section Alike

variable {b b' : Broker} (h : b.unstamped = b'.unstamped)

include h

/-- **Brokers that look alike accept alike**, at whatever readings of their clocks. -/
theorem accept_alike (now now' : Nat) (m : Message) (queue : Queue) :
    (b.accept now m queue).1.map Receipt.unstamped =
        (b'.accept now' m queue).1.map Receipt.unstamped ∧
      (b.accept now m queue).2.unstamped = (b'.accept now' m queue).2.unstamped := by
  obtain ⟨hanswer, hbroker⟩ := b.unstamped_accept now 0 m queue
  obtain ⟨hanswer', hbroker'⟩ := b'.unstamped_accept now' 0 m queue
  rw [← hanswer, ← hanswer', ← hbroker, ← hbroker', h]
  exact ⟨rfl, rfl⟩

/-- Brokers that look alike name the same queues. -/
theorem queueNames_alike (topic : String) :
    (b.queueNames topic).1 = (b'.queueNames topic).1 ∧
      (b.queueNames topic).2.unstamped = (b'.queueNames topic).2.unstamped := by
  have hnames := b.unstamped_queueNames topic
  rw [h, b'.unstamped_queueNames] at hnames
  obtain ⟨hanswer, hbroker⟩ := Prod.mk.inj hnames
  exact ⟨hanswer.symm, hbroker.symm⟩

/-- **Two brokers that look alike answer a client alike**, and look alike afterwards. -/
theorem send_alike (c : ProducerClient) (now now' : Nat) (m : Message) (queue : Queue) :
    (c.send b now m queue).1.map Receipt.unstamped =
        (c.send b' now' m queue).1.map Receipt.unstamped ∧
      (c.send b now m queue).2.unstamped = (c.send b' now' m queue).2.unstamped := by
  unfold ProducerClient.send
  cases c.checkOpen with
  | error e => exact ⟨rfl, h⟩
  | ok _ => exact accept_alike h now now' m queue

/-- A client that asks one of two such brokers for the queues of a topic gets the same answer. -/
theorem queues_alike (c : ProducerClient) (topic : String) :
    (c.queues b topic).1 = (c.queues b' topic).1 ∧
      (c.queues b topic).2.unstamped = (c.queues b' topic).2.unstamped := by
  unfold ProducerClient.queues
  cases c.checkOpen with
  | error e => exact ⟨rfl, h⟩
  | ok _ => exact queueNames_alike h topic

end Alike

end Broker

end KeyedDelivery
