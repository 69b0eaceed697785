import KeyedDelivery.Broker.Event

/-!
# Logs only grow, and hold first deliveries

Two facts about a broker that every argument about what a group receives rests on.

* **`Extends`** — what an event may do to the part of a broker that groups read from: entries are
  added at the end of logs, and no cursor moves. Every event but a take extends the broker
  (`extends_apply`).
* **`Filed`** — first deliveries and redelivered copies are kept apart: a log holds first deliveries
  of its own queue, a retry queue holds copies, and what is scheduled is a copy exactly when it is
  scheduled for a group. Every event keeps it (`Filed.apply`).
-/

namespace KeyedDelivery.Broker

/-! ## Reading the state

A log depends on the topics alone; the cursors and the retry queue of a group, on the groups. -/

theorem log_congr {b b' : Broker} (h : b'.topics = b.topics) (t : String) (i : Nat) :
    b'.log t i = b.log t i := by
  unfold log queues?
  rw [h]

theorem cursors_congr {b b' : Broker} (h : b'.groups = b.groups) (t g : String) :
    b'.cursors t g = b.cursors t g := by
  unfold cursors group
  rw [h]

theorem group_congr {b b' : Broker} (h : b'.groups = b.groups) (g : String) :
    b'.group g = b.group g := by
  unfold group
  rw [h]

/-- The logs after the queues of one topic were replaced. -/
theorem log_of_put {b b' : Broker} {t : String} {slots : List QueueLog}
    (h : b'.topics = b.topics.put t slots) (t' : String) (i : Nat) :
    b'.log t' i = if t = t' then (slots.getD i {}).log else b.log t' i := by
  unfold log queues?
  rw [h, Table.find?_put]
  split <;> rfl

/-- The state of every group after that of one was replaced. -/
theorem group_of_put {b b' : Broker} {g : String} {s : GroupState}
    (h : b'.groups = b.groups.put g s) (g' : String) :
    b'.group g' = if g = g' then s else b.group g' := by
  unfold group
  rw [h, Table.find?_put]
  split <;> rfl

/-- The logs after one queue of a topic was replaced. -/
theorem log_of_set {b b' : Broker} {t : String} {slots : List QueueLog} {j : Nat}
    {slot slot' : QueueLog}
    (hslots : b.queues? t = some slots) (hslot : slots[j]? = some slot)
    (h : b'.topics = b.topics.put t (slots.set j slot')) (t' : String) (i : Nat) :
    b'.log t' i = if t = t' ∧ j = i then slot'.log else b.log t' i := by
  have hj : j < slots.length := (List.getElem?_eq_some_iff.mp hslot).1
  rw [log_of_put h]
  by_cases ht : t = t'
  · subst ht
    by_cases hi : j = i
    · subst hi
      simp [List.getD_eq_getElem?_getD, hj]
    · simp [log, hslots, hi, List.getD_eq_getElem?_getD]
  · -- a queue of another topic
    simp [ht]

/-- The log of a queue of an existing topic. -/
theorem log_eq {b : Broker} {t : String} {slots : List QueueLog} {i : Nat} {slot : QueueLog}
    (hslots : b.queues? t = some slots) (hslot : slots[i]? = some slot) : b.log t i = slot.log := by
  simp [log, hslots, List.getD_eq_getElem?_getD, hslot]

/-! ## Extending a broker -/

/-- One broker extends another: logs have grown at their ends only, and every group has read what it
had read. -/
structure Extends (b b' : Broker) : Prop where
  logs : ∀ t i, b.log t i <+: b'.log t i
  cursors : ∀ t g, b'.cursors t g = b.cursors t g

theorem Extends.refl (b : Broker) : Extends b b :=
  ⟨fun _ _ => List.prefix_rfl, fun _ _ => rfl⟩

/-- One extension after another is an extension. -/
theorem Extends.trans {b b' b'' : Broker} (h : Extends b b') (h' : Extends b' b'') :
    Extends b b'' :=
  ⟨fun t i => (h.logs t i).trans (h'.logs t i), fun t g => (h'.cursors t g).trans (h.cursors t g)⟩

/-- An extension leaves every cursor where it is. -/
theorem Extends.cursor {b b' : Broker} (h : Extends b b') (t g : String) (i : Nat) :
    b'.cursor t g i = b.cursor t g i := by
  unfold Broker.cursor
  rw [h.cursors]

/-- A change that leaves the logs and the cursors as they are extends the broker. -/
theorem extends_of_logs {b b' : Broker} (hlogs : ∀ t i, b'.log t i = b.log t i)
    (hcursors : ∀ t g, b'.cursors t g = b.cursors t g) : Extends b b' where
  logs t i := hlogs t i ▸ List.prefix_rfl
  cursors := hcursors

/-- A change outside the topics and the groups extends the broker. -/
theorem extends_of_eq {b b' : Broker} (ht : b'.topics = b.topics) (hg : b'.groups = b.groups) :
    Extends b b' :=
  extends_of_logs (log_congr ht) (cursors_congr hg)

/-! ## What each operation does to the logs

Topics are created with empty logs; a message enters the log of its own queue at the end. -/

/-- The logs after a topic is created are those from before. -/
theorem log_createTopic (b : Broker) (topic t : String) (i : Nat) :
    (b.createTopic topic).log t i = b.log t i := by
  unfold createTopic
  split
  · rfl
  · next hnone =>
    rw [log_of_put rfl]
    split
    · next ht =>
      -- a log of the new topic is empty, as is that of a topic that is not there
      subst ht
      simp only [log, hnone, List.getD_eq_getElem?_getD, List.getElem?_replicate]
      split <;> rfl
    · rfl

/-- A new topic has no readers yet. -/
theorem groups_createTopic (b : Broker) (topic : String) :
    (b.createTopic topic).groups = b.groups := by
  unfold createTopic
  split <;> rfl

theorem scheduled_createTopic (b : Broker) (topic : String) :
    (b.createTopic topic).scheduled = b.scheduled := by
  unfold createTopic
  split <;> rfl

/-- Opening a topic leaves the broker as it is, or creates the topic. -/
theorem openTopic_snd (b : Broker) (topic : String) :
    (b.openTopic topic).2 = if b.config.autoCreate then b.createTopic topic else b := by
  unfold openTopic
  simp only
  split <;> rfl

/-- What holds of a broker as it is and once the topic is created holds when the topic is opened. -/
theorem openTopic_keeps {P : Broker → Prop} {b : Broker} {topic : String} (kept : P b)
    (created : P (b.createTopic topic)) : P (b.openTopic topic).2 := by
  rw [openTopic_snd]
  split
  · exact created
  · exact kept

/-- What opening a topic answers are the queues the topic then has. -/
theorem queues?_of_openTopic {b b' : Broker} {topic : String} {slots : List QueueLog}
    (h : b.openTopic topic = (.ok slots, b')) : b'.queues? topic = some slots := by
  unfold openTopic at h
  simp only at h
  split at h
  · next hq =>
    simp only [Prod.mk.injEq, Except.ok.injEq] at h
    rw [← h.2, ← h.1, hq]
  · simp at h

/-- Opening a topic leaves every log as it is. -/
theorem log_openTopic (b : Broker) (topic t : String) (i : Nat) :
    (b.openTopic topic).2.log t i = b.log t i :=
  openTopic_keeps (P := fun b' => b'.log t i = b.log t i) rfl (log_createTopic b topic t i)

theorem groups_openTopic (b : Broker) (topic : String) :
    (b.openTopic topic).2.groups = b.groups :=
  openTopic_keeps (P := fun b' => b'.groups = b.groups) rfl (groups_createTopic b topic)

theorem scheduled_openTopic (b : Broker) (topic : String) :
    (b.openTopic topic).2.scheduled = b.scheduled :=
  openTopic_keeps (P := fun b' => b'.scheduled = b.scheduled) rfl (scheduled_createTopic b topic)

/-- Asking for the queues of a topic does what opening the topic does. -/
theorem queueNames_snd (b : Broker) (topic : String) :
    (b.queueNames topic).2 = (b.openTopic topic).2 := by
  unfold queueNames
  split <;> simp_all

/-- The delivery that an accepted message becomes. -/
def deliveryOf (b : Broker) (now : Nat) (m : Message) (queue : Queue) (slot : QueueLog) :
    Delivery :=
  ⟨b.freshId now, m, queue, slot.nextOffset, 0⟩

/-- The logs after a message is stored: an immediate one stands at the end of its queue's log. -/
theorem log_store {b : Broker} {m : Message} {queue : Queue} {slots : List QueueLog}
    {slot : QueueLog}
    (hslots : b.queues? m.topic = some slots) (hslot : slots[queue.id.toNat]? = some slot)
    (now : Nat) (t : String) (i : Nat) :
    (b.store now m queue slots slot).2.log t i =
      if m.topic = t ∧ queue.id.toNat = i ∧ m.delay.isImmediate then
        b.log t i ++ [b.deliveryOf now m queue slot]
      else b.log t i := by
  have htopics : (b.store now m queue slots slot).2.topics =
      b.topics.put m.topic (slots.set queue.id.toNat _) := rfl
  rw [log_of_set hslots hslot htopics]
  by_cases hq : m.topic = t ∧ queue.id.toNat = i
  · obtain ⟨rfl, rfl⟩ := hq
    rw [log_eq hslots hslot]
    cases m.delay.isImmediate <;> simp [deliveryOf]
  · rw [if_neg hq, if_neg fun h => hq ⟨h.1, h.2.1⟩]

/-- The schedule after a message is stored: a delayed one stands at its end. -/
theorem scheduled_store (b : Broker) (now : Nat) (m : Message) (queue : Queue)
    (slots : List QueueLog) (slot : QueueLog) :
    (b.store now m queue slots slot).2.scheduled =
      if m.delay.isImmediate then b.scheduled
      else b.scheduled ++
        [⟨now + b.config.delays.duration m.delay, none, b.deliveryOf now m queue slot⟩] := rfl

/-- **What `accept` can do.** It refuses, and then no more happened than that a failure was used up
or the topic was opened; or it stores the message in an existing queue of the message's topic. -/
theorem accept_cases (b : Broker) (now : Nat) (m : Message) (queue : Queue) :
    (∃ e b', b.accept now m queue = (.error e, b') ∧
      (b' = b ∨ b' = { b with failNext := b.failNext - 1 } ∨ b' = (b.openTopic m.topic).2)) ∨
    ∃ b' slots slot, b.openTopic m.topic = (.ok slots, b') ∧ slots[queue.id.toNat]? = some slot ∧
      queue.broker = b.config.name ∧ queue.topic = m.topic ∧
      b.accept now m queue =
        (.ok (b'.store now m queue slots slot).1, (b'.store now m queue slots slot).2) := by
  unfold accept
  split
  · -- a queue of another broker or of another topic
    exact .inl ⟨_, _, rfl, .inl rfl⟩
  · next hqueue =>
    split
    · -- the send is made to fail
      exact .inl ⟨_, _, rfl, .inr (.inl rfl)⟩
    · split
      · next hopen => exact .inl ⟨_, _, rfl, .inr (.inr (by rw [hopen]))⟩
      · next slots b' hopen =>
        split
        · -- the topic has no queue of this number
          exact .inl ⟨_, _, rfl, .inr (.inr (by rw [hopen]))⟩
        · next slot hslot =>
          obtain ⟨hname, htopic⟩ : queue.broker = b.config.name ∧ queue.topic = m.topic := by
            simpa using hqueue
          exact .inr ⟨b', slots, slot, hopen, hslot, hname, htopic, rfl⟩

/-- What holds when a failure is used up or the topic is opened, and goes on to hold when the message
is stored, holds after an acceptance. -/
theorem accept_keeps {P : Broker → Prop} {b : Broker} {now : Nat} {m : Message} {queue : Queue}
    (failed : ∀ n, P { b with failNext := n }) (opened : P (b.openTopic m.topic).2)
    (stored : ∀ b' slots slot, P b' → b'.queues? m.topic = some slots →
      slots[queue.id.toNat]? = some slot → queue.topic = m.topic →
      P (b'.store now m queue slots slot).2) : P (b.accept now m queue).2 := by
  rcases accept_cases b now m queue with
    ⟨e, b', h, hb'⟩ | ⟨b', slots, slot, ho, hslot, -, hqueue, h⟩
  · rw [h]
    rcases hb' with rfl | rfl | rfl
    · -- refused at once; the broker is the one from before
      exact failed b'.failNext
    · exact failed _
    · exact opened
  · rw [h]
    rw [ho] at opened
    exact stored b' slots slot opened (queues?_of_openTopic ho) hslot hqueue

/-- The logs after a scheduled first delivery is moved to the log of its queue. -/
theorem log_appendLog (b : Broker) (d : Delivery) (t : String) (i : Nat) :
    (b.appendLog d).log t i = b.log t i ∨
      d.queue.topic = t ∧ d.queue.id.toNat = i ∧ (b.appendLog d).log t i = b.log t i ++ [d] := by
  unfold appendLog
  split
  · -- the topic is not there
    exact .inl rfl
  · next slots hslots =>
    split
    · exact .inl rfl
    · next slot hslot =>
      simp only
      -- the log of the queue that the delivery names is replaced, and no other
      rw [log_of_set hslots hslot rfl]
      split
      · next hq =>
        obtain ⟨rfl, rfl⟩ := hq
        exact .inr ⟨rfl, rfl, by rw [log_eq hslots hslot]⟩
      · exact .inl rfl

theorem groups_appendLog (b : Broker) (d : Delivery) : (b.appendLog d).groups = b.groups := by
  unfold appendLog
  split
  · rfl
  · split <;> rfl

theorem scheduled_appendLog (b : Broker) (d : Delivery) :
    (b.appendLog d).scheduled = b.scheduled := by
  unfold appendLog
  split
  · rfl
  · split <;> rfl

/-- The group that a copy is moved to gets it at the end of its retry queue. -/
theorem group_appendRetry (b : Broker) (g : String) (d : Delivery) (g' : String) :
    (b.appendRetry g d).group g' =
      if g = g' then { b.group g with retry := (b.group g).retry ++ [d] } else b.group g' :=
  group_of_put rfl g'

/-- A copy in a retry queue moves no cursor. -/
theorem cursors_appendRetry (b : Broker) (g : String) (d : Delivery) (t g' : String) :
    (b.appendRetry g d).cursors t g' = b.cursors t g' := by
  unfold cursors
  rw [group_appendRetry]
  split
  · next hg => rw [hg]
  · rfl

/-- Promoting a message does not take it off the schedule; that was done before. -/
theorem scheduled_promote (b : Broker) (s : Scheduled) : (b.promote s).scheduled = b.scheduled := by
  unfold promote
  split
  · exact scheduled_appendLog b s.delivery
  · rfl

/-- What holds of a broker as it is, with the message at the end of its log, and whatever its groups
are, holds when the message has been moved to where it is read from. -/
theorem promote_keeps {P : Broker → Prop} {b : Broker} {s : Scheduled} (kept : P b)
    (logged : ∀ slots slot, b.queues? s.delivery.queue.topic = some slots →
      slots[s.delivery.queue.id.toNat]? = some slot →
      let slots := slots.set s.delivery.queue.id.toNat { slot with log := slot.log ++ [s.delivery] }
      P { b with topics := b.topics.put s.delivery.queue.topic slots })
    (grouped : ∀ groups, P { b with groups }) : P (b.promote s) := by
  unfold promote
  split
  · unfold appendLog
    split
    · exact kept
    · next slots hslots =>
      split
      · exact kept
      · next slot hslot => exact logged slots slot hslots hslot
  · exact grouped _

/-- What holds of a broker whatever its schedule is, and goes on to hold when a message is moved, holds
when all that is due has been moved. -/
theorem promoteDue_keeps {P : Broker → Prop} {b : Broker} {now : Nat}
    (left : ∀ scheduled, P { b with scheduled }) (moved : ∀ b' s, P b' → P (b'.promote s)) :
    P (b.promoteDue now) := by
  unfold promoteDue
  exact List.foldlRecOn _ _ (left _) fun b' h s _ => moved b' s h

/-- Moving a scheduled delivery to where it is read from extends the broker. -/
theorem extends_promote (b : Broker) (s : Scheduled) : Extends b (b.promote s) := by
  unfold promote
  split
  · refine ⟨fun t i => ?_, fun t g => cursors_congr (groups_appendLog b s.delivery) t g⟩
    rcases log_appendLog b s.delivery t i with h | ⟨_, _, h⟩
    · exact h ▸ List.prefix_rfl
    · exact h ▸ List.prefix_append _ _
  · exact extends_of_logs (log_congr rfl) (cursors_appendRetry b _ s.delivery)

/-- Promoting what is due extends the broker. -/
theorem extends_promoteDue (b : Broker) (now : Nat) : Extends b (b.promoteDue now) :=
  promoteDue_keeps (fun _ => extends_of_eq rfl rfl) fun b' s h => h.trans (extends_promote b' s)

/-- Creating a topic extends the broker: its logs are empty. -/
theorem extends_createTopic (b : Broker) (topic : String) : Extends b (b.createTopic topic) :=
  extends_of_logs (log_createTopic b topic) (cursors_congr (groups_createTopic b topic))

/-- Opening a topic extends the broker. -/
theorem extends_openTopic (b : Broker) (topic : String) : Extends b (b.openTopic topic).2 :=
  extends_of_logs (log_openTopic b topic) (cursors_congr (groups_openTopic b topic))

/-- A message that is accepted is added to one log, or to none. -/
theorem extends_accept (b : Broker) (now : Nat) (m : Message) (queue : Queue) :
    Extends b (b.accept now m queue).2 := by
  refine accept_keeps (fun _ => extends_of_eq rfl rfl) (extends_openTopic b m.topic) ?_
  -- the message enters the log of its queue, or the schedule when it is delayed
  intro b' slots slot h hslots hslot _
  refine h.trans ⟨fun t i => ?_, fun t g => cursors_congr rfl t g⟩
  rw [log_store hslots hslot]
  split
  · exact List.prefix_append _ _
  · exact List.prefix_rfl

/-! ## First deliveries and copies -/

/-- Every delivery is kept where it belongs: logs hold the first deliveries of their own queue,
retry queues hold copies, and of what is scheduled the copies are those that are scheduled for a
group. -/
structure Filed (b : Broker) : Prop where
  logs : ∀ t i, ∀ d ∈ b.log t i, d.isFirstOf t i
  schedule : ∀ s ∈ b.scheduled, s.delivery.reconsumed = 0 ↔ s.group = none
  retries : ∀ g, ∀ d ∈ (b.group g).retry, d.reconsumed ≠ 0

/-- A copy that was asked for again has a count that is not zero. -/
theorem again_reconsumed_ne_zero (d : Delivery) : d.again.reconsumed ≠ 0 := by
  intro h
  have hcount := DelayLevel.toNat_increment d.reconsumed
  simp only [Delivery.again] at h
  rw [h, UInt32.toNat_zero] at hcount
  split at hcount <;> omega

/-- A message that is stored becomes the first delivery of its queue. -/
theorem isFirstOf_deliveryOf (b : Broker) (now : Nat) {m : Message} {queue : Queue}
    (slot : QueueLog) (h : queue.topic = m.topic) :
    (b.deliveryOf now m queue slot).isFirstOf m.topic queue.id.toNat := by
  simp [deliveryOf, Delivery.isFirstOf, h]

namespace Filed

variable {b b' : Broker}

/-- A new broker holds nothing. -/
theorem ofConfig (c : BrokerConfig) : Filed (.ofConfig c) where
  logs := by simp [log, queues?, Broker.ofConfig]
  schedule := by simp [Broker.ofConfig]
  retries := by simp [group, Broker.ofConfig]

/-- A broker with the same logs, schedule and groups is filed alike. -/
theorem of_eq (h : Filed b) (hl : ∀ t i, b'.log t i = b.log t i)
    (hs : b'.scheduled = b.scheduled) (hg : b'.groups = b.groups) : Filed b' where
  logs t i d hd := h.logs t i d (by rwa [hl] at hd)
  schedule s hmem := h.schedule s (by rwa [hs] at hmem)
  retries g d hd := h.retries g d (by rwa [group_congr hg] at hd)

theorem createTopic (h : Filed b) (topic : String) : Filed (b.createTopic topic) :=
  h.of_eq (log_createTopic b topic) (scheduled_createTopic b topic) (groups_createTopic b topic)

theorem openTopic (h : Filed b) (topic : String) : Filed (b.openTopic topic).2 :=
  h.of_eq (log_openTopic b topic) (scheduled_openTopic b topic) (groups_openTopic b topic)

/-- What is stored is a first delivery of the queue in whose log it goes. -/
theorem store (h : Filed b) {m : Message} {queue : Queue} {slots : List QueueLog} {slot : QueueLog}
    (hslots : b.queues? m.topic = some slots) (hslot : slots[queue.id.toNat]? = some slot)
    (hqueue : queue.topic = m.topic) (now : Nat) : Filed (b.store now m queue slots slot).2 where
  logs t i d hd := by
    rw [log_store hslots hslot] at hd
    split at hd
    · next hq =>
      -- only the last entry is new, and it is the message itself
      obtain ⟨rfl, rfl, _⟩ := hq
      rcases List.mem_append.mp hd with hd | hd
      · exact h.logs _ _ d hd
      · rw [List.mem_singleton.mp hd]
        exact isFirstOf_deliveryOf b now slot hqueue
    · exact h.logs t i d hd
  schedule s hmem := by
    rw [scheduled_store] at hmem
    split at hmem
    · exact h.schedule s hmem
    · rcases List.mem_append.mp hmem with hmem | hmem
      · exact h.schedule s hmem
      · rw [List.mem_singleton.mp hmem]
        simp [deliveryOf]
  retries g d hd := h.retries g d hd

theorem accept (h : Filed b) (now : Nat) (m : Message) (queue : Queue) :
    Filed (b.accept now m queue).2 :=
  accept_keeps (fun _ => h.of_eq (log_congr rfl) rfl rfl) (h.openTopic m.topic)
    fun _ _ _ hb' hslots hslot hqueue => hb'.store hslots hslot hqueue now

/-- What is scheduled for a group is a copy. -/
theorem scheduleRedelivery (h : Filed b) (now : Nat) (g : String) (d : Delivery) (l : DelayLevel) :
    Filed (b.scheduleRedelivery now g d l) where
  logs := h.logs
  schedule s hmem := by
    rcases List.mem_append.mp hmem with hmem | hmem
    · exact h.schedule s hmem
    · rw [List.mem_singleton.mp hmem]
      simp [again_reconsumed_ne_zero]
  retries := h.retries

/-- A first delivery that becomes due goes to its log, and a copy to a retry queue. -/
theorem promote (h : Filed b) {s : Scheduled}
    (hs : s.delivery.reconsumed = 0 ↔ s.group = none) : Filed (b.promote s) where
  logs t i d hd := by
    unfold Broker.promote at hd
    split at hd
    · next hg =>
      -- a first delivery goes to the log of its own queue
      rcases log_appendLog b s.delivery t i with hl | ⟨ht, hi, hl⟩
      · exact h.logs t i d (hl ▸ hd)
      · rw [hl] at hd
        rcases List.mem_append.mp hd with hd | hd
        · exact h.logs t i d hd
        · rw [List.mem_singleton.mp hd]
          simp [Delivery.isFirstOf, hs.mpr hg, ht, hi]
    · exact h.logs t i d hd
  schedule s' hmem := h.schedule s' (by rwa [scheduled_promote] at hmem)
  retries g d hd := by
    unfold Broker.promote at hd
    split at hd
    · exact h.retries g d (by rwa [group_congr (groups_appendLog b s.delivery)] at hd)
    · next g' hg =>
      -- a copy goes to the retry queue of the group it was scheduled for
      rw [group_appendRetry] at hd
      split at hd
      · rcases List.mem_append.mp hd with hd | hd
        · exact h.retries g' d hd
        · rw [List.mem_singleton.mp hd]
          simp [hs, hg]
      · exact h.retries g d hd

/-- Everything on the schedule is a copy exactly if it is scheduled for a group. -/
theorem promoteDue (h : Filed b) (now : Nat) : Filed (b.promoteDue now) := by
  -- what is due is taken off the schedule first, and then moved entry by entry
  have hstart : Filed { b with scheduled := b.scheduled.filter (¬ ·.due ≤ now) } :=
    ⟨h.logs, fun s hmem => h.schedule s ((List.mem_filter.mp hmem).1), h.retries⟩
  unfold Broker.promoteDue
  refine List.foldlRecOn _ _ hstart ?_
  intro b' hb' s hmem
  exact hb'.promote (h.schedule s ((List.mem_filter.mp hmem).1))

end Filed

end KeyedDelivery.Broker
