import KeyedDelivery.Proofs.Broker.Placement
import Mathlib.Algebra.GroupWithZero.Nat
import Mathlib.Data.List.Nodup

/-!
# The offsets of a queue are consecutive

A queue gives its messages the offsets from zero on, and what it accepted is in its log or scheduled
for it.

* **`offsets_run`** — over a whole run, the offsets of what a queue holds are the numbers below the
  offset it gives next, each once: a queue holds what it accepted, and each accepted message took the
  offset that was next.
* **`immediates_apply`** — the entries that were never scheduled enter a log with their acceptance
  only, so that they stand in the order of their offsets (`Ascending`).
* **`Counted`** — the offsets that all queues gave out are counted by the messages that were sent.
-/

namespace KeyedDelivery.Broker

variable {b b' : Broker}

/-! ## Offsets -/

/-- What a queue accepts takes the offset that was next, and there is at most one. -/
theorem offsets_accepted (b : Broker) (e : Event) (t : String) (i : Nat) :
    List.range ((b.apply e).nextOffset t i) = List.range (b.nextOffset t i) ++
      ((b.accepted e).filter (·.isAt t i)).map (·.offset) := by
  have hnext := nextOffset_apply b e t i
  rcases accepted_le_one b e with hnone | ⟨d, hd⟩
  · rw [hnone] at hnext ⊢
    rw [hnext]
    simp
  · -- the message took the offset that was next, in its own queue
    have hoffset := (offset_of_accepted (b := b) (e := e) (d := d) (by simp [hd])).1
    rw [hd] at hnext ⊢
    by_cases hat : d.queue.topic = t ∧ d.queue.id.toNat = i
    · have hhere : d.isAt t i = true := Delivery.isAt_iff.mpr hat
      obtain ⟨rfl, rfl⟩ := hat
      rw [List.countP_singleton, if_pos (by simp)] at hnext
      rw [hnext, List.range_succ, List.filter_singleton, hhere, cond_true, List.map_singleton,
        hoffset]
    · have hother : d.isAt t i = false := Bool.eq_false_iff.mpr (mt Delivery.isAt_iff.mp hat)
      rw [List.countP_singleton, if_neg (by simpa using hat), Nat.add_zero] at hnext
      rw [hnext, List.filter_singleton, hother, cond_false, List.map_nil, List.append_nil]

/-- **The offsets of what a queue holds** are those it gave out, each once. -/
theorem offsets_run (c : BrokerConfig) (es : List Event) (t : String) (i : Nat) :
    ((((ofConfig c).run es).held t i).map (·.offset)).Perm
      (List.range (((ofConfig c).run es).nextOffset t i)) := by
  induction es using List.reverseRecOn with
  | nil => exact .refl _
  | append_singleton es e ih =>
    rw [run_concat, offsets_accepted]
    have hheld := (held_apply (housed_run c es) e t i).map (·.offset)
    rw [List.map_append] at hheld
    exact hheld.trans (ih.append_right _)

/-! ## The order of immediate messages -/

/-- The entries of a log that were never scheduled. -/
def immediates (b : Broker) (t : String) (i : Nat) : List Delivery :=
  (b.log t i).filter (·.message.delay.isImmediate)

/-- The immediate entries of a log are read off the log alone. -/
theorem immediates_congr (h : ∀ t i, b'.log t i = b.log t i) (t : String) (i : Nat) :
    b'.immediates t i = b.immediates t i := by
  unfold immediates
  rw [h]

/-- What is moved from the schedule to a log was delayed. -/
theorem immediates_promoteDue (h : Housed b) (now : Nat) (t : String) (i : Nat) :
    (b.promoteDue now).immediates t i = b.immediates t i := by
  have hnone : ((b.ripe now).filter (·.isAt t i)).filter (·.message.delay.isImmediate) = [] := by
    rw [List.filter_eq_nil_iff]
    intro d hd
    have hripe : d ∈ b.ripe now := (List.mem_filter.mp hd).1
    rw [h.late d ((ripe_append_delayed b now).mem_iff.mp (List.mem_append_left _ hripe))]
    exact Bool.false_ne_true
  unfold immediates
  rw [log_promoteDue h, List.filter_append, hnone, List.append_nil]

/-- **One event** adds to the immediate entries of a log the immediate message that its queue
accepts. -/
theorem immediates_apply (h : Housed b) (e : Event) (t : String) (i : Nat) :
    (b.apply e).immediates t i = b.immediates t i ++
      ((b.accepted e).filter (·.isAt t i)).filter (·.message.delay.isImmediate) := by
  have silent (hnone : b.accepted e = []) (hkept : (b.apply e).immediates t i = b.immediates t i) :
      (b.apply e).immediates t i = b.immediates t i ++
        ((b.accepted e).filter (·.isAt t i)).filter (·.message.delay.isImmediate) := by
    rw [hnone, hkept]
    simp
  cases e with
  | createTopic topic => exact silent rfl (immediates_congr (log_createTopic b topic) t i)
  | askQueues topic =>
    refine silent rfl ?_
    rw [apply, queueNames_snd]
    exact immediates_congr (log_openTopic b topic) t i
  | failSends n => exact silent rfl (immediates_congr (log_congr rfl) t i)
  | accept now m queue =>
    rw [apply]
    rcases accepted_cases b now m queue with
      ⟨hnone, hb'⟩ | ⟨b', slots, slot, ho, hslot, hqueue, hd, hb'⟩
    · rw [hnone, List.filter_nil, List.filter_nil, List.append_nil]
      rcases hb' with hb' | hb' | hb' <;> rw [hb']
      · exact immediates_congr (log_congr rfl) t i
      · exact immediates_congr (log_openTopic b m.topic) t i
    · have hopened := immediates_congr (log_openTopic b m.topic) t i
      rw [ho] at hopened
      rw [hb', hd, ← hopened]
      unfold immediates
      rw [log_store (queues?_of_openTopic ho) hslot]
      -- the message is in the log of its queue unless it is delayed
      by_cases hat : m.topic = t ∧ queue.id.toNat = i
      · by_cases himmediate : m.delay.isImmediate = true <;>
          simp [hat, himmediate, Delivery.isAt, deliveryOf, hqueue]
      · rw [if_neg fun h => hat ⟨h.1, h.2.1⟩]
        have hother : (b'.deliveryOf now m queue slot).isAt t i = false := by
          simpa [Delivery.isAt, deliveryOf, hqueue] using hat
        simp [hother]
  | promote now => exact silent rfl (immediates_promoteDue h now t i)
  | redeliver now g d level => exact silent rfl (immediates_congr (log_congr rfl) t i)
  | take now topic g filter =>
    refine silent rfl ?_
    rw [apply, takeBatch, immediates_congr (log_drainReady _ topic g filter _)]
    exact immediates_promoteDue h now t i
  | drain topic g filter room =>
    exact silent rfl (immediates_congr (log_drainReady b topic g filter room) t i)

/-- **The immediate entries of a log stand in the order of their offsets**: each that is added takes
the next offset, and those that are there have smaller ones. -/
theorem immediates_run (c : BrokerConfig) (es : List Event) (t : String) (i : Nat) :
    (((ofConfig c).run es).immediates t i).Pairwise (·.offset < ·.offset) := by
  induction es using List.reverseRecOn with
  | nil => exact .nil
  | append_singleton es e ih =>
    have hoffsets := offsets_run c es t i
    rw [run_concat, immediates_apply (housed_run c es)]
    generalize (ofConfig c).run es = b at ih hoffsets ⊢
    -- the new entry comes last, and every older one has an offset that was given out before
    refine List.pairwise_append.mpr ⟨ih, ?_, fun d hd d' hd' => ?_⟩
    · rcases accepted_le_one b e with hnone | ⟨d, hd⟩
      · simp [hnone]
      · rw [hd, List.filter_filter, List.filter_singleton]
        cases (d.message.delay.isImmediate && d.isAt t i) <;> simp
    · obtain ⟨haccepted, hat⟩ := List.mem_filter.mp (List.mem_filter.mp hd').1
      obtain ⟨rfl, rfl⟩ := Delivery.isAt_iff.mp hat
      rw [(offset_of_accepted haccepted).1, ← List.mem_range]
      have hheld : d ∈ b.held d'.queue.topic d'.queue.id.toNat :=
        List.mem_append_left _ (List.mem_filter.mp hd).1
      exact hoffsets.mem_iff.mp (List.mem_map_of_mem hheld)

/-! ## All queues together -/

/-- How many offsets the queues of all topics gave out. -/
def offsetTotal (b : Broker) : Nat := (b.topics.map fun e => (e.2.map (·.nextOffset)).sum).sum

/-- Over all entries of a table, setting one replaces its summand. -/
theorem sum_put {κ α : Type} [DecidableEq κ] (f : α → Nat) {t : Table κ α} {k : κ} {a : α}
    (h : t.find? k = some a) (a' : α) :
    ((t.put k a').map fun e => f e.2).sum + f a = (t.map fun e => f e.2).sum + f a' := by
  induction t with
  | nil => cases h
  | cons e t ih =>
    obtain ⟨j, b⟩ := e
    by_cases hj : j = k
    · -- the entry of the key is replaced
      simp only [Table.find?, if_pos hj, Option.some.injEq] at h
      subst h
      simp only [Table.put, if_pos hj, List.map_cons, List.sum_cons]
      omega
    · simp only [Table.find?, if_neg hj] at h
      simp only [Table.put, if_neg hj, List.map_cons, List.sum_cons]
      have := ih h
      omega

/-- Over all queues, replacing one replaces its summand. -/
theorem sum_nextOffset_set {slots : List QueueLog} {j : Nat} {slot : QueueLog}
    (h : slots[j]? = some slot) (slot' : QueueLog) :
    ((slots.set j slot').map (·.nextOffset)).sum + slot.nextOffset =
      (slots.map (·.nextOffset)).sum + slot'.nextOffset := by
  induction slots generalizing j with
  | nil => cases h
  | cons s slots ih =>
    cases j with
    | zero =>
      -- the log is the first one
      obtain rfl : s = slot := by simpa using h
      simp only [List.set_cons_zero, List.map_cons, List.sum_cons]
      omega
    | succ j =>
      have := ih (j := j) (by simpa using h)
      simp only [List.set_cons_succ, List.map_cons, List.sum_cons]
      omega

/-- Every topic is entered once, and the queues of all topics gave out as many offsets as messages
were accepted. -/
structure Counted (b : Broker) : Prop where
  names : (b.topics.map (·.1)).Nodup
  total : b.offsetTotal = b.sent

namespace Counted

theorem ofConfig (c : BrokerConfig) : Counted (.ofConfig c) := ⟨List.nodup_nil, rfl⟩

/-- What changes neither the topics nor the count of sends keeps it. -/
theorem of_eq (h : Counted b) (ht : b'.topics = b.topics) (hs : b'.sent = b.sent) : Counted b' where
  names := ht ▸ h.names
  total := by rw [offsetTotal, ht, hs]; exact h.total

/-- One queue of a topic is replaced, and may have given out offsets of messages that were sent. -/
theorem of_set (h : Counted b) {t : String} {slots : List QueueLog} {j n : Nat}
    {slot slot' : QueueLog} (hslots : b.queues? t = some slots) (hslot : slots[j]? = some slot)
    (ht : b'.topics = b.topics.put t (slots.set j slot'))
    (hnext : slot'.nextOffset = slot.nextOffset + n) (hs : b'.sent = b.sent + n) : Counted b' where
  names := by
    rw [ht, Table.keys_put_of_find? hslots]
    exact h.names
  total := by
    -- the sum over the topics changes as the sum over this topic does
    have hput := sum_put (fun qs : List QueueLog => (qs.map (·.nextOffset)).sum)
      hslots (slots.set j slot')
    have hset := sum_nextOffset_set hslot slot'
    have htotal := h.total
    unfold offsetTotal at htotal ⊢
    rw [ht, hs]
    omega

theorem createTopic (h : Counted b) (topic : String) : Counted (b.createTopic topic) := by
  unfold Broker.createTopic
  split
  · exact h
  · next hnone =>
    have hput := Table.put_of_find?_eq_none hnone
      (List.replicate b.config.queuesPerTopic ({} : QueueLog))
    refine ⟨?_, ?_⟩
    · have hnew := (Table.find?_eq_none_iff _ _).mp hnone
      simp only [hput, List.map_append, List.map_singleton]
      refine List.nodup_append'.mpr ⟨h.names, List.nodup_singleton _, ?_⟩
      exact List.disjoint_singleton.mpr hnew
    · -- the new queues gave out no offset
      have htotal := h.total
      unfold offsetTotal at htotal ⊢
      simp [hput, htotal]

/-- A topic that is opened has given out no offset yet. -/
theorem openTopic (h : Counted b) (topic : String) : Counted (b.openTopic topic).2 :=
  openTopic_keeps h (h.createTopic topic)

/-- A message that is stored takes one offset and is counted once. -/
theorem accept (h : Counted b) (now : Nat) (m : Message) (queue : Queue) :
    Counted (b.accept now m queue).2 := by
  refine accept_keeps (fun _ => h.of_eq rfl rfl) (h.openTopic m.topic) ?_
  intro b' slots slot hb' hslots hslot _
  refine hb'.of_set (n := 1) hslots hslot rfl ?_ rfl
  split <;> rfl

/-- A message that becomes due was counted when it was accepted. -/
theorem promote (h : Counted b) (s : Scheduled) : Counted (b.promote s) := by
  refine promote_keeps h ?_ fun _ => h.of_eq rfl rfl
  -- the log grows and gives out no offset
  intro slots slot hslots hslot
  exact h.of_set (n := 0) hslots hslot rfl rfl rfl

theorem promoteDue (h : Counted b) (now : Nat) : Counted (b.promoteDue now) :=
  promoteDue_keeps (fun _ => h.of_eq rfl rfl) fun _ s hb' => hb'.promote s

/-- A batch leaves the topics as they are. -/
theorem drainReady (h : Counted b) (t g : String) (filter : TagFilter) (room : Nat) :
    Counted (b.drainReady t g filter room).2 := by
  obtain ⟨s, hdrained⟩ := drainReady_groups b t g filter room
  rw [hdrained]
  exact h.of_eq rfl rfl

/-- **Every event keeps it.** -/
theorem apply (h : Counted b) (e : Event) : Counted (b.apply e) := by
  cases e with
  | createTopic topic => exact h.createTopic topic
  | askQueues topic =>
    rw [Broker.apply, queueNames_snd]
    exact h.openTopic topic
  | failSends n => exact h.of_eq rfl rfl
  | accept now m queue => exact h.accept now m queue
  | promote now => exact h.promoteDue now
  | redeliver now g d level => exact h.of_eq rfl rfl
  | take now t g filter => exact (h.promoteDue now).drainReady t g filter _
  | drain t g filter room => exact h.drainReady t g filter room

end Counted

/-- It holds after every run of events. -/
theorem counted_run (c : BrokerConfig) (es : List Event) : Counted ((ofConfig c).run es) :=
  List.foldlRecOn es Broker.apply (Counted.ofConfig c) fun _ h e _ => h.apply e

/-- **Offsets are exact.** After any run of any broker:

* the offsets of the entries of a queue's log and of the messages that are scheduled for it are the
  numbers below the offset that it gives next, each once;
* the entries that were never scheduled stand in the log in the order of their offsets;
* each topic is there once, and the offsets that the queues of all topics gave out are as many as the
  messages that were accepted;
* promotion finds the log of everything that is due for one: what is scheduled for a log has a queue,
  and the log grows by exactly what is due for it. -/
theorem offsets_exact (c : BrokerConfig) (es : List Event) :
    let b := (ofConfig c).run es
    (∀ t i, ((b.log t i ++ b.upcoming t i).map (·.offset)).Perm (List.range (b.nextOffset t i))) ∧
    (∀ t i, ((b.log t i).filter (·.message.delay.isImmediate)).Pairwise (·.offset < ·.offset)) ∧
    ((b.topics.map (·.1)).Nodup ∧
      (b.topics.map fun e => (e.2.map (·.nextOffset)).sum).sum = b.sent) ∧
    (∀ s ∈ b.scheduled, s.group = none → ∃ slots, b.queues? s.delivery.queue.topic = some slots ∧
      s.delivery.queue.id.toNat < slots.length) ∧
    ∀ now t i, (b.promoteDue now).log t i = b.log t i ++
      ((b.scheduled.filter fun s => s.due ≤ now ∧ s.group = none).map (·.delivery)).filter
        (·.isAt t i) := by
  intro b
  have housed : Housed b := housed_run c es
  have counted : Counted b := counted_run c es
  refine ⟨fun t i => offsets_run c es t i, fun t i => immediates_run c es t i,
    ⟨counted.names, counted.total⟩, fun s hs hnone => ?_, fun now t i => ?_⟩
  · -- what is scheduled for no group is scheduled for a log
    have hdelayed : s.delivery ∈ b.delayed :=
      List.mem_map_of_mem (List.mem_filter.mpr ⟨hs, by simpa using hnone⟩)
    obtain ⟨slots, slot, hslots, hslot⟩ := exists_slot (housed.queue s.delivery hdelayed)
    exact ⟨slots, hslots, (List.getElem?_eq_some_iff.mp hslot).1⟩
  · rw [log_promoteDue housed, ripe, List.filter_filter]
    simp only [Bool.decide_and, Bool.and_comm]

end KeyedDelivery.Broker
