import KeyedDelivery.Proofs.Broker.Offsets
import KeyedDelivery.Proofs.Broker.Redelivery
import Mathlib.Order.Nat

/-!
# Every accepted message has one place in its queue

A queue numbers what it accepts. An immediate message enters the log with its acceptance, a delayed
one is scheduled and enters the log when it is due, so that the log is not in the order of the
offsets; but no offset is missing and none is there twice.

* **`held`** — the messages of a queue: those in its log and those that are scheduled for it.
* **`Housed`** — what is scheduled for a log is a delayed message, and its queue exists. So promotion
  finds the log of each (`log_promoteDue`), and moves messages inside of `held`.
* **`held_apply`**, **`held_run`** — an event adds to what a queue holds the message that the queue
  accepts, and nothing else; so after a run a queue holds what it accepted.
-/

namespace KeyedDelivery

/-- Whether a delivery is one of queue number `i` of a topic. -/
def Delivery.isAt (d : Delivery) (t : String) (i : Nat) : Bool :=
  d.queue.topic == t && d.queue.id.toNat == i

/-- A delivery is at the queue that it names. -/
theorem Delivery.isAt_iff {d : Delivery} {t : String} {i : Nat} :
    d.isAt t i = true ↔ d.queue.topic = t ∧ d.queue.id.toNat = i := by
  simp [isAt]

namespace Broker

variable {b b' : Broker}

/-! ## The queues of a topic

Topics are never removed, and the number of queues of a topic never changes once it has some. -/

/-- How many queues a topic has; one that is not there has none. -/
def queueCount (b : Broker) (t : String) : Nat := ((b.queues? t).getD []).length

/-- The number of queues of a topic is read off the topics alone. -/
theorem queueCount_congr (h : b'.topics = b.topics) (t : String) :
    b'.queueCount t = b.queueCount t := by
  unfold queueCount queues?
  rw [h]

/-- A topic that is there has as many queues as logs. -/
theorem queueCount_eq {t : String} {slots : List QueueLog} (h : b.queues? t = some slots) :
    b.queueCount t = slots.length := by
  rw [queueCount, h, Option.getD_some]

/-- A queue that is counted has a state. -/
theorem exists_slot {t : String} {i : Nat} (h : i < b.queueCount t) :
    ∃ slots slot, b.queues? t = some slots ∧ slots[i]? = some slot := by
  unfold queueCount at h
  cases hslots : b.queues? t with
  | none => simp [hslots] at h
  | some slots =>
    rw [hslots, Option.getD_some] at h
    exact ⟨slots, slots[i], rfl, List.getElem?_eq_getElem h⟩

/-- Replacing one log of a topic changes no number of queues. -/
theorem queueCount_of_set {t : String} {slots : List QueueLog} {j : Nat} {slot : QueueLog}
    (hslots : b.queues? t = some slots) (h : b'.topics = b.topics.put t (slots.set j slot))
    (t' : String) : b'.queueCount t' = b.queueCount t' := by
  unfold queueCount queues?
  rw [h, Table.find?_put]
  split
  · next ht =>
    subst ht
    rw [queues?] at hslots
    rw [hslots, Option.getD_some, Option.getD_some, List.length_set]
  · rfl

/-- Creating a topic takes no queue away. -/
theorem queueCount_createTopic (b : Broker) (topic t : String) :
    b.queueCount t ≤ (b.createTopic topic).queueCount t := by
  unfold createTopic
  split
  · exact Nat.le_refl _
  · next hnone =>
    unfold queueCount queues?
    rw [Table.find?_put]
    split
    · next ht =>
      -- a topic that is not there has no queue to lose
      subst ht
      rw [queues?] at hnone
      rw [hnone]
      exact Nat.zero_le _
    · exact Nat.le_refl _

theorem queueCount_openTopic (b : Broker) (topic t : String) :
    b.queueCount t ≤ (b.openTopic topic).2.queueCount t :=
  openTopic_keeps (P := fun b' => b.queueCount t ≤ b'.queueCount t) (Nat.le_refl _)
    (queueCount_createTopic b topic t)

/-- Storing a message creates no queue. -/
theorem queueCount_store {m : Message} {queue : Queue} {slots : List QueueLog} {slot : QueueLog}
    (hslots : b.queues? m.topic = some slots) (now : Nat) (t : String) :
    (b.store now m queue slots slot).2.queueCount t = b.queueCount t :=
  queueCount_of_set hslots rfl t

/-- An accepted message takes no queue away; its topic may be a new one. -/
theorem queueCount_accept (b : Broker) (now : Nat) (m : Message) (queue : Queue) (t : String) :
    b.queueCount t ≤ (b.accept now m queue).2.queueCount t :=
  accept_keeps (P := fun b' => b.queueCount t ≤ b'.queueCount t) (fun _ => Nat.le_refl _)
    (queueCount_openTopic b m.topic t)
    fun _ _ _ h hslots _ _ => h.trans (queueCount_store hslots now t).ge

/-- Nor does a message that becomes due. -/
theorem queueCount_promote (b : Broker) (s : Scheduled) (t : String) :
    (b.promote s).queueCount t = b.queueCount t :=
  -- the log to which the message is appended is replaced by a longer one
  promote_keeps (P := fun b' => b'.queueCount t = b.queueCount t) rfl
    (fun _ _ hslots _ => queueCount_of_set hslots rfl t) fun _ => rfl

theorem queueCount_promoteDue (b : Broker) (now : Nat) (t : String) :
    (b.promoteDue now).queueCount t = b.queueCount t :=
  promoteDue_keeps (P := fun b' => b'.queueCount t = b.queueCount t) (fun _ => rfl)
    fun b' s h => (queueCount_promote b' s t).trans h

/-- **No event takes a queue away.** -/
theorem queueCount_apply (b : Broker) (e : Event) (t : String) :
    b.queueCount t ≤ (b.apply e).queueCount t := by
  cases e with
  | createTopic topic => exact queueCount_createTopic b topic t
  | askQueues topic =>
    rw [apply, queueNames_snd]
    exact queueCount_openTopic b topic t
  | failSends n => exact Nat.le_refl _
  -- only the topic may be new; what is stored goes to a queue that is there
  | accept now m queue => exact queueCount_accept b now m queue t
  | promote now => exact (queueCount_promoteDue b now t).ge
  | redeliver now g d level => exact Nat.le_refl _
  | take now topic g filter =>
    rw [apply, takeBatch, queueCount_congr (topics_drainReady _ topic g filter _)]
    exact (queueCount_promoteDue b now t).ge
  | drain topic g filter room => exact (queueCount_congr (topics_drainReady b topic g filter room) t).ge

/-! ## What is scheduled for a log -/

/-- The first deliveries that are scheduled. -/
def delayed (b : Broker) : List Delivery :=
  (b.scheduled.filter (·.group = none)).map (·.delivery)

theorem delayed_congr (h : b'.scheduled = b.scheduled) : b'.delayed = b.delayed := by
  unfold delayed
  rw [h]

/-- A delayed message that is stored joins those that are scheduled, behind them. -/
theorem delayed_store (b : Broker) (now : Nat) (m : Message) (queue : Queue)
    (slots : List QueueLog) (slot : QueueLog) :
    (b.store now m queue slots slot).2.delayed =
      b.delayed ++ if m.delay.isImmediate then [] else [b.deliveryOf now m queue slot] := by
  unfold delayed
  rw [scheduled_store]
  split
  · rw [List.append_nil]
  · rw [List.filter_append, List.map_append]
    rfl

/-- A copy for one group is not scheduled for a log. -/
theorem delayed_scheduleRedelivery (b : Broker) (now : Nat) (g : String) (d : Delivery)
    (level : DelayLevel) : (b.scheduleRedelivery now g d level).delayed = b.delayed := by
  unfold delayed scheduleRedelivery
  rw [List.filter_append]
  simp

/-- What leaves the schedule for a log when the clock says `now`. -/
def ripe (b : Broker) (now : Nat) : List Delivery :=
  ((b.scheduled.filter (·.due ≤ now)).filter (·.group = none)).map (·.delivery)

/-- What leaves the schedule for a log and what stays are together what was scheduled for logs. -/
theorem ripe_append_delayed (b : Broker) (now : Nat) :
    (b.ripe now ++ (b.promoteDue now).delayed).Perm b.delayed := by
  unfold ripe delayed
  rw [← List.map_append, ← List.filter_append]
  exact ((promoteDue_split b now).filter _).map _

/-- Everything that is scheduled for a log is a delayed message, and its queue exists. -/
structure Housed (b : Broker) : Prop where
  queue : ∀ d ∈ b.delayed, d.queue.id.toNat < b.queueCount d.queue.topic
  late : ∀ d ∈ b.delayed, d.message.delay.isImmediate = false

namespace Housed

theorem ofConfig (c : BrokerConfig) : Housed (.ofConfig c) := ⟨nofun, nofun⟩

/-- Nothing new is scheduled for a log, and no queue goes away. -/
theorem of_subset (h : Housed b) (hd : ∀ d ∈ b'.delayed, d ∈ b.delayed)
    (hq : ∀ t, b.queueCount t ≤ b'.queueCount t) : Housed b' where
  queue d hmem := Nat.lt_of_lt_of_le (h.queue d (hd d hmem)) (hq _)
  late d hmem := h.late d (hd d hmem)

theorem openTopic (h : Housed b) (topic : String) : Housed (b.openTopic topic).2 :=
  h.of_subset (fun _ hd => by rwa [delayed_congr (scheduled_openTopic b topic)] at hd)
    (queueCount_openTopic b topic)

/-- A message that is stored names a queue of its topic, so that it can be scheduled for it. -/
theorem store (h : Housed b) {m : Message} {queue : Queue} {slots : List QueueLog} {slot : QueueLog}
    (hslots : b.queues? m.topic = some slots) (hslot : slots[queue.id.toNat]? = some slot)
    (hqueue : queue.topic = m.topic) (now : Nat) : Housed (b.store now m queue slots slot).2 := by
  have hcount (t : String) : (b.store now m queue slots slot).2.queueCount t = b.queueCount t :=
    queueCount_store hslots now t
  refine ⟨fun d hmem => ?_, fun d hmem => ?_⟩
  · rw [delayed_store, List.mem_append] at hmem
    rw [hcount]
    rcases hmem with hmem | hmem
    · exact h.queue d hmem
    · split at hmem
      · cases hmem
      · -- the queue that the message is stored in is one of its topic
        rw [List.mem_singleton.mp hmem]
        show queue.id.toNat < b.queueCount queue.topic
        rw [hqueue, queueCount_eq hslots]
        exact (List.getElem?_eq_some_iff.mp hslot).1
  · rw [delayed_store, List.mem_append] at hmem
    rcases hmem with hmem | hmem
    · exact h.late d hmem
    · split at hmem
      · cases hmem
      · next hlate =>
        rw [List.mem_singleton.mp hmem]
        exact Bool.eq_false_iff.mpr hlate

theorem accept (h : Housed b) (now : Nat) (m : Message) (queue : Queue) :
    Housed (b.accept now m queue).2 :=
  accept_keeps (fun _ => h.of_subset (fun _ hd => hd) fun _ => Nat.le_refl _) (h.openTopic m.topic)
    fun _ _ _ hb' hslots hslot hqueue => hb'.store hslots hslot hqueue now

theorem promoteDue (h : Housed b) (now : Nat) : Housed (b.promoteDue now) := by
  refine h.of_subset (fun d hd => ?_) fun t => (queueCount_promoteDue b now t).ge
  exact (ripe_append_delayed b now).mem_iff.mp (List.mem_append_right _ hd)

theorem drainReady (h : Housed b) (t g : String) (filter : TagFilter) (room : Nat) :
    Housed (b.drainReady t g filter room).2 :=
  h.of_subset (fun _ hd => by rwa [delayed_congr (scheduled_drainReady b t g filter room)] at hd)
    fun t' => (queueCount_congr (topics_drainReady b t g filter room) t').ge

/-- Every event keeps what is scheduled for the logs housed. -/
theorem apply (h : Housed b) (e : Event) : Housed (b.apply e) := by
  cases e with
  | createTopic topic =>
    exact h.of_subset (fun _ hd => by rwa [Broker.apply, delayed_congr (scheduled_createTopic b topic)] at hd)
      (queueCount_createTopic b topic)
  | askQueues topic =>
    rw [Broker.apply, queueNames_snd]
    exact h.openTopic topic
  | failSends n => exact h.of_subset (fun _ hd => hd) fun _ => Nat.le_refl _
  | accept now m queue => exact h.accept now m queue
  | promote now => exact h.promoteDue now
  -- a copy that is asked for is scheduled for a group and not for a log
  | redeliver now g d level =>
    exact h.of_subset (fun _ hd => by rwa [Broker.apply, delayed_scheduleRedelivery] at hd)
      fun _ => Nat.le_refl _
  | take now t g filter => exact (h.promoteDue now).drainReady t g filter _
  | drain t g filter room => exact h.drainReady t g filter room

end Housed

/-- It holds after every run of events. -/
theorem housed_run (c : BrokerConfig) (es : List Event) : Housed ((ofConfig c).run es) :=
  List.foldlRecOn es Broker.apply (Housed.ofConfig c) fun _ h e _ => h.apply e

/-! ## Promotion finds every log -/

/-- A delivery that is moved to the log of a queue that exists stands at the end of that log. -/
theorem log_appendLog_of_lt {d : Delivery} (h : d.queue.id.toNat < b.queueCount d.queue.topic)
    (t : String) (i : Nat) :
    (b.appendLog d).log t i = b.log t i ++ [d].filter (·.isAt t i) := by
  obtain ⟨slots, slot, hslots, hslot⟩ := exists_slot h
  have htopics : (b.appendLog d).topics = b.topics.put d.queue.topic
      (slots.set d.queue.id.toNat { slot with log := slot.log ++ [d] }) := by
    simp only [appendLog, hslots, hslot]
  -- the one log that is replaced has the delivery at its end
  rw [log_of_set hslots hslot htopics]
  split
  · next hat =>
    obtain ⟨rfl, rfl⟩ := hat
    rw [log_eq hslots hslot]
    simp [Delivery.isAt]
  · next hat =>
    have hnot : d.isAt t i = false := Bool.eq_false_iff.mpr (mt Delivery.isAt_iff.mp hat)
    simp [hnot]

/-- A scheduled message whose queue is there is found in the log of that queue, when it is due, and
in no other. -/
theorem log_promote {s : Scheduled}
    (h : s.group = none → s.delivery.queue.id.toNat < b.queueCount s.delivery.queue.topic)
    (t : String) (i : Nat) :
    (b.promote s).log t i =
      b.log t i ++ (if s.group = none then [s.delivery] else []).filter (·.isAt t i) := by
  unfold promote
  split
  · next hnone =>
    rw [if_pos hnone]
    exact log_appendLog_of_lt (h hnone) t i
  · next g hsome =>
    -- a copy goes to a retry queue, which is no log
    have hsame : (b.appendRetry g s.delivery).log t i = b.log t i := log_congr rfl t i
    simp [hsome, hsame]

/-- Moving scheduled deliveries one after the other, each whose queue exists. -/
theorem log_foldl_promote (ss : List Scheduled) (b : Broker)
    (h : ∀ s ∈ ss, s.group = none → s.delivery.queue.id.toNat < b.queueCount s.delivery.queue.topic)
    (t : String) (i : Nat) :
    (ss.foldl promote b).log t i =
      b.log t i ++ ((ss.filter (·.group = none)).map (·.delivery)).filter (·.isAt t i) := by
  induction ss generalizing b with
  | nil => simp
  | cons s ss ih =>
    obtain ⟨hs, hss⟩ := List.forall_mem_cons.mp h
    rw [List.foldl_cons, ih (b.promote s) (fun s' hs' hnone => by
      rw [queueCount_promote]
      exact hss s' hs' hnone), log_promote hs, List.append_assoc, ← List.filter_append]
    by_cases hnone : s.group = none <;> simp [hnone]

/-- **Promotion drops nothing**: what is due for a log stands at its end, in the order in which it
was scheduled. -/
theorem log_promoteDue (h : Housed b) (now : Nat) (t : String) (i : Nat) :
    (b.promoteDue now).log t i = b.log t i ++ (b.ripe now).filter (·.isAt t i) := by
  unfold promoteDue
  rw [log_foldl_promote]
  · rfl
  · intro s hs hnone
    refine h.queue s.delivery (List.mem_map_of_mem (List.mem_filter.mpr ⟨?_, by simpa using hnone⟩))
    exact (List.mem_filter.mp hs).1

/-! ## What a queue holds -/

/-- The messages that are scheduled for the log of queue number `i` of a topic. -/
def upcoming (b : Broker) (t : String) (i : Nat) : List Delivery := b.delayed.filter (·.isAt t i)

/-- The messages of queue number `i` of a topic: those in its log and those scheduled for it. -/
def held (b : Broker) (t : String) (i : Nat) : List Delivery := b.log t i ++ b.upcoming t i

/-- What a queue holds is read off its log and the schedule. -/
theorem held_congr (hlog : ∀ t i, b'.log t i = b.log t i) (hs : b'.scheduled = b.scheduled)
    (t : String) (i : Nat) : b'.held t i = b.held t i := by
  unfold held upcoming
  rw [hlog, delayed_congr hs]

theorem held_openTopic (b : Broker) (topic t : String) (i : Nat) :
    (b.openTopic topic).2.held t i = b.held t i :=
  held_congr (log_openTopic b topic) (scheduled_openTopic b topic) t i

/-- A message that is stored is held by its queue, in the log or on the schedule. -/
theorem held_store {m : Message} {queue : Queue} {slots : List QueueLog} {slot : QueueLog}
    (hslots : b.queues? m.topic = some slots) (hslot : slots[queue.id.toNat]? = some slot)
    (hqueue : queue.topic = m.topic) (now : Nat) (t : String) (i : Nat) :
    ((b.store now m queue slots slot).2.held t i).Perm
      (b.held t i ++ [b.deliveryOf now m queue slot].filter (·.isAt t i)) := by
  unfold held upcoming
  rw [log_store hslots hslot, delayed_store]
  by_cases hat : m.topic = t ∧ queue.id.toNat = i
  · have hhere : (b.deliveryOf now m queue slot).isAt t i = true := by
      simpa [Delivery.isAt_iff, deliveryOf, hqueue] using hat
    by_cases himmediate : m.delay.isImmediate = true
    · -- the entry stands before what is scheduled
      rw [if_pos ⟨hat.1, hat.2, himmediate⟩, if_pos himmediate, List.append_nil,
        List.filter_singleton, hhere, cond_true, List.append_assoc, List.append_assoc]
      exact List.perm_append_comm.append_left _
    · rw [if_neg fun h => himmediate h.2.2, if_neg himmediate, List.filter_append,
        List.append_assoc]
  · have hother : (b.deliveryOf now m queue slot).isAt t i = false := by
      simpa [Delivery.isAt, deliveryOf, hqueue] using hat
    rw [if_neg fun h => hat ⟨h.1, h.2.1⟩]
    split <;> simp [hother]

/-- Promotion moves messages from the schedule of a queue to its log. -/
theorem held_promoteDue (h : Housed b) (now : Nat) (t : String) (i : Nat) :
    ((b.promoteDue now).held t i).Perm (b.held t i) := by
  unfold held upcoming
  rw [log_promoteDue h, List.append_assoc, ← List.filter_append]
  exact ((ripe_append_delayed b now).filter _).append_left _

/-- A batch takes nothing away from what a queue holds. -/
theorem held_drainReady (b : Broker) (topic g : String) (filter : TagFilter) (room : Nat)
    (t : String) (i : Nat) : (b.drainReady topic g filter room).2.held t i = b.held t i :=
  held_congr (log_drainReady b topic g filter room) (scheduled_drainReady b topic g filter room) t i

/-- **One event adds to a queue what the queue accepts.** -/
theorem held_apply (h : Housed b) (e : Event) (t : String) (i : Nat) :
    ((b.apply e).held t i).Perm (b.held t i ++ (b.accepted e).filter (·.isAt t i)) := by
  -- an event that accepts nothing has only to keep what the queue holds
  have silent (hnone : b.accepted e = []) (hkept : ((b.apply e).held t i).Perm (b.held t i)) :
      ((b.apply e).held t i).Perm (b.held t i ++ (b.accepted e).filter (·.isAt t i)) := by
    rwa [hnone, List.filter_nil, List.append_nil]
  cases e with
  | createTopic topic =>
    exact silent rfl (.of_eq (held_congr (log_createTopic b topic) (scheduled_createTopic b topic) t i))
  | askQueues topic =>
    refine silent rfl (.of_eq ?_)
    rw [apply, queueNames_snd, held_openTopic]
  | failSends n => exact silent rfl (.refl _)
  | accept now m queue =>
    rw [apply]
    rcases accepted_cases b now m queue with
      ⟨hnone, hb'⟩ | ⟨b', slots, slot, ho, hslot, hqueue, hd, hb'⟩
    · rw [hnone, List.filter_nil, List.append_nil]
      rcases hb' with hb' | hb' | hb' <;> rw [hb']
      · exact .of_eq (held_congr (log_congr rfl) rfl t i)
      · exact .of_eq (held_openTopic b m.topic t i)
    · -- opening the topic comes before the store
      have hopened := held_openTopic b m.topic t i
      rw [ho] at hopened
      rw [hb', hd, ← hopened]
      exact held_store (queues?_of_openTopic ho) hslot hqueue now t i
  | promote now => exact silent rfl (held_promoteDue h now t i)
  | redeliver now g d level =>
    have hlog : (b.scheduleRedelivery now g d level).log t i = b.log t i := log_congr rfl t i
    refine silent rfl (.of_eq ?_)
    rw [apply, held, upcoming, hlog, delayed_scheduleRedelivery]
    rfl
  | take now topic g filter =>
    refine silent rfl ?_
    rw [apply, takeBatch, held_drainReady]
    exact held_promoteDue h now t i
  | drain topic g filter room => exact silent rfl (.of_eq (held_drainReady b topic g filter room t i))

/-- One more event accepts its message behind those before. -/
theorem acceptances_concat (b : Broker) (es : List Event) (e : Event) :
    b.acceptances (es ++ [e]) = b.acceptances es ++ (b.run es).accepted e := by
  induction es generalizing b with
  | nil => simp [acceptances, run]
  | cons e' es ih => rw [List.cons_append, acceptances, ih, acceptances, List.append_assoc]; rfl

/-- **A queue holds what it accepted**, over a whole run. -/
theorem held_run (c : BrokerConfig) (es : List Event) (t : String) (i : Nat) :
    (((ofConfig c).run es).held t i).Perm (((ofConfig c).acceptances es).filter (·.isAt t i)) := by
  induction es using List.reverseRecOn with
  | nil => exact .refl _
  | append_singleton es e ih =>
    rw [run_concat, acceptances_concat, List.filter_append]
    exact (held_apply (housed_run c es) e t i).trans (ih.append_right _)

end Broker

end KeyedDelivery
