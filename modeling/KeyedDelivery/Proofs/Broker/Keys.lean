import KeyedDelivery.Proofs.Broker.Numbering
import KeyedDelivery.Proofs.Broker.Subscriptions

/-!
# The messages of one key stay in order

When all messages of one topic and one key are accepted into one queue, the log of that queue holds
the immediate ones of them in the order in which they were accepted, and a group is handed them in
this order.

* **`log_keyed`** — what the log of the queue holds of a key is what was accepted with it.
* **`seen_run`** — what the takes of a group have seen of the key is what lies below the cursor.
* **`firsts_eq`** — a take hands over, as first deliveries of the key, what it has seen of it and
  whose tag it takes: no other queue of the topic has a message of the key.
-/

namespace KeyedDelivery

/-- Whether a delivery is of an immediate message of a topic and a key. -/
def Delivery.isOf (d : Delivery) (t key : String) : Bool :=
  d.message.topic == t && d.message.key == key && d.message.delay.isImmediate

/-- An immediate message of the topic and the key. -/
theorem Delivery.isOf_iff {d : Delivery} {t key : String} :
    d.isOf t key = true ↔
      (d.message.topic = t ∧ d.message.key = key) ∧ d.message.delay.isImmediate = true := by
  simp [isOf]

namespace Broker

namespace Take

/-- What a take saw of a key in the log of queue number `i` of its topic. -/
def seen (k : Take) (i : Nat) (key : String) (log : List Delivery) : List Delivery :=
  ((k.examined i).filterMap (log[·]?)).filter (·.isOf k.topic key)

/-- The first deliveries of immediate messages of a topic and a key that a take handed over. -/
def firsts (k : Take) (t key : String) : List Delivery :=
  k.batch.filter fun d => d.reconsumed == 0 && d.isOf t key

end Take

variable {c : BrokerConfig} {es : List Event} {t key : String} {i : Nat}

/-! ## The log of a key -/

/-- **The immediate entries of a log** are what its queue accepted of immediate messages, in the
order of acceptance. -/
theorem immediates_acceptances (c : BrokerConfig) (es : List Event) (t : String) (i : Nat) :
    ((ofConfig c).run es).immediates t i =
      (((ofConfig c).acceptances es).filter (·.isAt t i)).filter
        (·.message.delay.isImmediate) := by
  induction es using List.reverseRecOn with
  | nil => rfl
  | append_singleton es e ih =>
    rw [run_concat, acceptances_concat, immediates_apply (housed_run c es), ih, List.filter_append,
      List.filter_append]

/-- All messages of a topic and a key are accepted into queue number `i`. -/
def Keeps (c : BrokerConfig) (es : List Event) (t key : String) (i : Nat) : Prop :=
  ∀ d ∈ (ofConfig c).acceptances es, d.message.topic = t → d.message.key = key →
    d.queue.id.toNat = i

/-- **The log of a key's queue** holds the key's immediate messages in the order of acceptance. -/
theorem log_keyed (h : Keeps c es t key i) :
    (((ofConfig c).run es).log t i).filter (·.isOf t key) =
      ((ofConfig c).acceptances es).filter (·.isOf t key) := by
  -- the messages of the key that are looked at are immediate
  have himmediate : (((ofConfig c).run es).log t i).filter (·.isOf t key) =
      (((ofConfig c).run es).immediates t i).filter (·.isOf t key) := by
    rw [immediates, List.filter_filter]
    refine List.filter_congr fun d _ => ?_
    cases hof : d.isOf t key with
    | false => rfl
    | true => rw [(Delivery.isOf_iff.mp hof).2, Bool.and_true]
  rw [himmediate, immediates_acceptances, List.filter_filter, List.filter_filter]
  refine List.filter_congr fun d hd => ?_
  cases hof : d.isOf t key with
  | false => rfl
  | true =>
    obtain ⟨⟨ht, hkey⟩, hnow⟩ := Delivery.isOf_iff.mp hof
    -- all of them were accepted into this queue
    have hat : d.isAt t i = true :=
      Delivery.isAt_iff.mpr ⟨(topic_of_acceptances hd).trans ht, h d hd ht hkey⟩
    rw [hnow, hat]
    rfl

/-! ## What a group is handed of a key -/

/-- **What the takes of a group have seen of a key** lies in the log below the cursor. -/
theorem seen_run (c : BrokerConfig) (es : List Event) (t key g : String) (i : Nat) :
    ((ofConfig c).takesOf es t g).flatMap (·.seen i key (((ofConfig c).run es).log t i)) =
      ((((ofConfig c).run es).log t i).take (((ofConfig c).run es).cursor t g i)).filter
        (·.isOf t key) := by
  have consumed := consumed_run c es t g i
  generalize hks : (ofConfig c).takesOf es t g = ks at consumed
  have htopic : ∀ k ∈ ks, k.topic = t := by
    intro k hk
    rw [← hks, takesOf, List.mem_filter] at hk
    simpa using (Bool.and_eq_true_iff.mp hk.2).1
  rw [← consumed.read, List.filter_flatMap]
  exact List.flatMap_congr fun k hk => by rw [Take.seen, htopic k hk]

/-- A first delivery that a take hands over was accepted. -/
theorem acceptances_of_batch {k : Take} (hk : k ∈ (ofConfig c).takes es) {d : Delivery}
    (hd : d ∈ k.batch) (hfirst : d.reconsumed = 0) : d ∈ (ofConfig c).acceptances es := by
  induction es using List.reverseRecOn with
  | nil => cases hk
  | append_singleton es e ih =>
    rw [acceptances_concat]
    rw [takes_concat, List.mem_append, Option.mem_toList] at hk
    rcases hk with hk | hk
    · exact List.mem_append_left _ (ih hk)
    · -- a take hands first deliveries over from logs, which hold what was accepted
      rcases batch_cases hk hd with ⟨hcopy, -⟩ | ⟨j, hlog, -⟩
      · exact absurd hfirst hcopy
      · have hheld := (held_run c (es ++ [e]) k.topic j).mem_iff.mp (List.mem_append_left _ hlog)
        rw [← acceptances_concat]
        exact (List.mem_filter.mp hheld).1

/-- A take of one topic hands over no first delivery of another. -/
theorem firsts_of_ne {k : Take} (hk : k ∈ (ofConfig c).takes es) (ht : k.topic ≠ t) :
    k.firsts t key = [] := by
  refine List.filter_eq_nil_iff.mpr fun d hd hfirst => ht ?_
  have hof := Delivery.isOf_iff.mp (Bool.and_eq_true_iff.mp hfirst).2
  rw [← (batch_run hk hd).1, hof.1.1]

/-- **What a take hands over of a key** is what it has seen of it and whose tag it takes. -/
theorem firsts_eq (h : Keeps c es t key i) {g : String} {k : Take}
    (hk : k ∈ (ofConfig c).takesOf es t g) :
    k.firsts t key = (k.seen i key (((ofConfig c).run es).log t i)).filter
      (k.filter.accepts ·.message.tag) := by
  obtain ⟨htakes, hof⟩ := List.mem_filter.mp hk
  obtain rfl : k.topic = t := by simpa using (Bool.and_eq_true_iff.mp hof).1
  have hfresh := (consumed_run c es k.topic g i).handed k hk
  have hfirsts : k.firsts k.topic key = (k.fresh i).filter (·.isOf k.topic key) := by
    rw [Take.firsts, Take.fresh, List.filter_filter]
    refine List.filter_congr fun d hd => ?_
    cases hkeyed : d.isOf k.topic key with
    | false => rw [Bool.and_false, Bool.false_and]
    | true =>
      obtain ⟨⟨ht, hkey⟩, -⟩ := Delivery.isOf_iff.mp hkeyed
      rw [Bool.and_true, Bool.true_and]
      by_cases hzero : d.reconsumed = 0
      · -- a first delivery of the key is one of the key's queue
        have haccepted := acceptances_of_batch htakes hd hzero
        have hqueue : d.queue.topic = k.topic := (topic_of_acceptances haccepted).trans ht
        simp [Delivery.isFirstOf, hzero, hqueue, h d haccepted ht hkey]
      · simp only [Delivery.isFirstOf, beq_false_of_ne hzero, Bool.false_and]
  rw [hfirsts, hfresh, Take.matching, Take.seen, List.filter_filter, List.filter_filter]
  exact List.filter_congr fun d _ => Bool.and_comm _ _

end Broker

end KeyedDelivery
