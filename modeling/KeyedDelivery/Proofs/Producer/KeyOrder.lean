import KeyedDelivery.Proofs.Broker.Keys
import KeyedDelivery.Proofs.Producer.PostOffice

/-!
# The messages of a key stay in one queue and in order

Any number of producers send to one broker, and the clients of any groups take from it. The messages
of one topic and one key are all in the queue that the key's hash gives, because the number of
queues of a topic never changes; and each group is handed the immediate ones of them in the order in
which the broker accepted them.

* **`keeps_of_explains`** — the run of the broker that explains what the producers did keeps each
  key in its queue.
* **`keys_in_order`** — the whole.
-/

namespace KeyedDelivery.PostOffice

open Broker (Keeps)

variable {c : BrokerConfig} {l : LockConfig} {es : List Event} {bes : List Broker.Event}

/-- A message that was accepted is in a queue that is there. -/
theorem index_of_acceptances
    (h : Explains c (run (opened c l) es) (acceptances (opened c l) es) (takes (opened c l) es) bes)
    {d : Delivery} (hd : d ∈ acceptances (opened c l) es) :
    d.queue.id.toNat =
      keyIndex d.message.key ((run (opened c l) es).world.broker.queueCount d.message.topic) := by
  obtain ⟨htopic, hindex⟩ := fits_acceptances hd
  have haccepted : d ∈ (Broker.ofConfig c).acceptances bes := h.accepted ▸ hd
  -- something is stored there, so the topic has queues, and then it has as many as every other
  have hcount : 0 < ((Broker.ofConfig c).run bes).queueCount d.message.topic := by
    rw [← htopic]
    exact Nat.zero_lt_of_lt (Broker.lt_queueCount_of_acceptances haccepted)
  rw [h.broker, hindex]
  rcases (Broker.uniform_run c bes).queueCount d.message.topic with hnone | hall
  · rw [hnone] at hcount
    cases hcount
  · rw [hall]

/-- The run of the broker keeps each key in its queue. -/
theorem keeps_of_explains
    (h : Explains c (run (opened c l) es) (acceptances (opened c l) es) (takes (opened c l) es) bes)
    (t key : String) :
    Keeps c bes t key (keyIndex key ((run (opened c l) es).world.broker.queueCount t)) := by
  intro d hd ht hkey
  rw [← h.accepted] at hd
  rw [index_of_acceptances h hd, ht, hkey]

/-- **Keys stay in order.** After any run of any broker to which any number of producers send, with
or without locks, and from which the clients of any groups take:

* a topic that is there has the number of queues that the settings say;
* a queue holds the messages that were accepted into it, in its log or on the schedule, each once;
* a message that was accepted is in the queue of its topic whose number is the absolute value of its
  key's hash modulo the number of the topic's queues;
* the log of that queue holds the immediate messages of the key in the order of acceptance;
* what the takes of a group have seen of them lies below the cursor, and comes first among what was
  accepted, in the same order;
* a take hands over, as first deliveries of the key, what it has seen and whose tag it takes, and
  none when it is of another topic; so the first deliveries that a group is handed are in the order
  of acceptance, whichever clients take and however large their batches are. -/
theorem keys_in_order (c : BrokerConfig) (l : LockConfig) (es : List Event) :
    let b := (run (opened c l) es).world.broker
    let accepted := acceptances (opened c l) es
    (∀ t, b.queueCount t = 0 ∨ b.queueCount t = max c.queuesPerTopic 1) ∧
    (∀ t i, (b.log t i ++ b.upcoming t i).Perm (accepted.filter (·.isAt t i))) ∧
    (∀ d ∈ accepted, d.queue.topic = d.message.topic ∧ d.queue.id.toNat =
      (keyHash d.message.key).toInt.natAbs % b.queueCount d.message.topic) ∧
    ∀ t key g,
      let i := (keyHash key).toInt.natAbs % b.queueCount t
      let ks := takesOf (opened c l) es t g
      (b.log t i).filter (·.isOf t key) = accepted.filter (·.isOf t key) ∧
      ks.flatMap (·.seen i key (b.log t i)) =
        ((b.log t i).take (b.cursor t g i)).filter (·.isOf t key) ∧
      ks.flatMap (·.seen i key (b.log t i)) <+: accepted.filter (·.isOf t key) ∧
      (∀ k ∈ ks, k.firsts t key =
        (k.seen i key (b.log t i)).filter (k.filter.accepts ·.message.tag)) ∧
      (∀ k ∈ takes (opened c l) es, k.topic ≠ t → k.firsts t key = []) ∧
      (ks.flatMap (·.firsts t key)).Sublist (accepted.filter (·.isOf t key)) := by
  intro b accepted
  obtain ⟨-, bes, h⟩ := told_run c l es
  have hb : b = (Broker.ofConfig c).run bes := h.broker
  have haccepted : accepted = (Broker.ofConfig c).acceptances bes := h.accepted
  refine ⟨fun t => ?_, fun t i => ?_,
    fun d hd => ⟨(fits_acceptances hd).1, index_of_acceptances h hd⟩, fun t key g => ?_⟩
  · rw [hb]
    exact (Broker.uniform_run c bes).queueCount t
  · rw [hb, haccepted]
    exact Broker.held_run c bes t i
  · intro i ks
    have keeps : Keeps c bes t key i := keeps_of_explains h t key
    have hks : ks = (Broker.ofConfig c).takesOf bes t g := by
      simp only [ks, takesOf, h.taken]
      rfl
    have hlog : (b.log t i).filter (·.isOf t key) = accepted.filter (·.isOf t key) := by
      rw [hb, haccepted]
      exact Broker.log_keyed keeps
    have hseen : ks.flatMap (·.seen i key (b.log t i)) =
        ((b.log t i).take (b.cursor t g i)).filter (·.isOf t key) := by
      rw [hb, hks]
      exact Broker.seen_run c bes t key g i
    have hfirst : ks.flatMap (·.seen i key (b.log t i)) <+: accepted.filter (·.isOf t key) := by
      rw [hseen, ← hlog]
      exact (List.take_prefix _ _).filter _
    have hfirsts : ∀ k ∈ ks, k.firsts t key =
        (k.seen i key (b.log t i)).filter (k.filter.accepts ·.message.tag) := by
      intro k hk
      rw [hb]
      exact Broker.firsts_eq keeps (hks ▸ hk)
    refine ⟨hlog, hseen, hfirst, hfirsts, fun k hk ht => ?_, ?_⟩
    · rw [h.taken] at hk
      exact Broker.firsts_of_ne hk ht
    · -- take by take, what is handed over is a part of what was seen
      rw [List.flatMap_congr hfirsts]
      exact (List.Sublist.flatMap_right ks fun k _ => List.filter_sublist).trans hfirst.sublist

/-- Two producers send one message each with the key `k`, the second one under a lock and faster,
and two clients of a group take one message each. -/
def overtaking : List Event :=
  [.start 0, .start 1,
    .send 0 {} none ⟨"t", "a", "k", [1], .immediate⟩,
    .send 1 {} (some 5) ⟨"t", "b", "k", [2], .immediate⟩,
    .proceed 0, .proceed 1, .proceed 1, .proceed 1, .proceed 0, .proceed 1, .proceed 0,
    .broker (.take 0 "t" "g" .all), .broker (.take 0 "t" "g" .all)]

/-- The group is handed the message first that was accepted first. -/
example : ((takesOf (opened { name := "b", batchMax := 1 } {}) overtaking "t" "g").map
    fun k => (k.firsts "t" "k").map (·.message.tag)) = [["b"], ["a"]] := by decide +kernel

end KeyedDelivery.PostOffice
