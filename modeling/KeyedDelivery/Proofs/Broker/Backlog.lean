import KeyedDelivery.Broker.Backlog
import KeyedDelivery.Proofs.Broker.Placement
import Mathlib.Algebra.BigOperators.Group.Finset.Piecewise

/-!
# The backlog is what is owed

The backlog of a topic for a group is added up from four places: what is unread in the logs, the
copies in the group's retry queue, and what is scheduled for the logs or for the group. Over a run
it is what the group is owed, namely what was accepted for the topic and what the group asked for
again, less what its takes examined in the logs and the copies that they handed over.

* **`backlog_eq`** — the four places, each by the notion that its own conservation law is about.
* **`length_held_run`**, **`copies_run`**, **`consumed_run`** — these laws: what the queues hold, the
  copies of a group, and the cursors.
* **`backlog_run`** — the balance, with the cursors for what was examined.
* **`backlog_apply_of_ne`** — what others do changes the backlog by what is accepted only: in the
  balance of the longer run nothing else has changed.
-/

namespace KeyedDelivery.Broker

variable {b : Broker}

/-! ## The four places -/

/-- What is unread in some logs, added up by their indices. -/
theorem unread_eq_sum (slots : List QueueLog) (cs : List Nat) :
    unread slots cs =
      ∑ i ∈ Finset.range slots.length, ((slots.getD i {}).log.length - cs.getD i 0) := by
  induction slots generalizing cs with
  | nil => rfl
  | cons q qs ih =>
    rw [List.length_cons, Finset.sum_range_succ', Nat.add_comm]
    cases cs with
    | nil => simp only [unread, ih, List.getD_cons_zero, List.getD_cons_succ, List.getD_nil, Nat.sub_zero]
    | cons c cs => simp only [unread, ih, List.getD_cons_zero, List.getD_cons_succ]

/-- A log outside of the topic's queues is empty. -/
theorem log_of_le {t : String} {i : Nat} (h : b.queueCount t ≤ i) : b.log t i = [] := by
  rw [log, List.getD_eq_getElem?_getD, List.getElem?_eq_none h, Option.getD_none]

/-- A delivery stands in the log of a queue that is there. -/
theorem lt_queueCount_of_mem_log {t : String} {i : Nat} {d : Delivery} (h : d ∈ b.log t i) :
    i < b.queueCount t := by
  by_contra hi
  rw [log_of_le (Nat.le_of_not_lt hi)] at h
  cases h

/-- What is scheduled and will reach a group is scheduled for a log or for the group. -/
theorem countP_isFor (ss : List Scheduled) (t g : String) :
    ss.countP (isFor t g) =
      ((ss.filter (·.group = none)).map (·.delivery)).countP (·.message.topic == t) +
        ((ss.filter (·.group = some g)).map (·.delivery)).countP (·.message.topic == t) := by
  induction ss with
  | nil => rfl
  | cons s ss ih =>
    rw [List.countP_cons, ih]
    cases hgroup : s.group with
    -- scheduled for a log, and so for every group
    | none =>
      simp only [List.filter_cons, hgroup, isFor, decide_true, if_true, List.map_cons,
        List.countP_cons, Option.all_none, Bool.and_true, reduceCtorEq, decide_false,
        Bool.false_eq_true, if_false]
      omega
    | some g' =>
      -- scheduled for one group, this one or another
      by_cases hg : g' = g
      · simp [hgroup, isFor, hg, List.countP_cons, Nat.add_assoc]
      · simp [hgroup, isFor, hg]

/-- What is unread in the logs of a topic. -/
def unreadIn (b : Broker) (t g : String) : Nat :=
  (b.queues? t).elim 0 fun slots => unread slots (b.cursors t g)

/-- The backlog, by the places where a delivery can be. -/
theorem backlog_places (b : Broker) (t g : String) :
    b.backlog t g = b.unreadIn t g + (b.group g).retry.countP (·.message.topic == t) +
      b.scheduled.countP (isFor t g) := by
  unfold backlog unreadIn
  cases b.queues? t <;> rfl

/-- The sum may go beyond the queues of the topic, as there is no log. -/
theorem unreadIn_eq_sum (b : Broker) (t g : String) {n : Nat} (hn : b.queueCount t ≤ n) :
    b.unreadIn t g = ∑ i ∈ Finset.range n, ((b.log t i).length - b.cursor t g i) := by
  -- beyond its queues a topic has nothing to read
  have hbeyond : ∑ i ∈ Finset.range (b.queueCount t), ((b.log t i).length - b.cursor t g i) =
      ∑ i ∈ Finset.range n, ((b.log t i).length - b.cursor t g i) := by
    refine Finset.sum_subset (Finset.range_subset_range.mpr hn) fun i _ hi => ?_
    rw [log_of_le (by simpa using hi), List.length_nil, Nat.zero_sub]
  rw [← hbeyond, unreadIn, queueCount]
  unfold log
  cases b.queues? t with
  | none => rfl
  | some slots => exact unread_eq_sum slots _

/-- **The backlog by places.** -/
theorem backlog_eq (b : Broker) (t g : String) {n : Nat} (hn : b.queueCount t ≤ n) :
    b.backlog t g =
      ∑ i ∈ Finset.range n, ((b.log t i).length - b.cursor t g i) +
        b.delayed.countP (·.message.topic == t) + (b.copies g).countP (·.message.topic == t) := by
  rw [backlog_places, unreadIn_eq_sum b t g hn, countP_isFor, copies, List.countP_append, delayed,
    scheduledFor]
  omega

/-! ## What the queues of a topic hold -/

/-- Over the queues of a topic, the deliveries of each are those of the topic in all of them. -/
theorem sum_countP_isAt (ds : List Delivery) (t : String) (n : Nat) :
    ∑ i ∈ Finset.range n, ds.countP (·.isAt t i) =
      ds.countP fun d => d.queue.topic = t ∧ d.queue.id.toNat < n := by
  induction ds with
  | nil => simp
  | cons d ds ih =>
    simp only [List.countP_cons, Finset.sum_add_distrib, ih, Nat.add_left_cancel_iff]
    -- the delivery is counted for its own queue, if that is one of the `n`
    have hone : ∀ i, (if d.isAt t i = true then 1 else 0) =
        if d.queue.id.toNat = i then (if d.queue.topic = t then 1 else 0) else 0 := by
      intro i
      by_cases hi : d.queue.id.toNat = i <;> by_cases ht : d.queue.topic = t <;>
        simp [Delivery.isAt, hi, ht]
    simp only [hone, Finset.sum_ite_eq, Finset.mem_range]
    by_cases hi : d.queue.id.toNat < n <;> by_cases ht : d.queue.topic = t <;> simp [hi, ht]

/-- A message is accepted into a queue of its topic. -/
theorem topic_of_accepted {e : Event} {d : Delivery} (h : d ∈ b.accepted e) :
    d.queue.topic = d.message.topic := by
  cases e with
  | accept now m queue =>
    rcases accepted_cases b now m queue with ⟨hnone, -⟩ | ⟨b', slots, slot, -, -, hqueue, hd, -⟩
    · rw [hnone] at h
      cases h
    · rw [hd, List.mem_singleton] at h
      rw [h]
      exact hqueue
  | _ => cases h

/-- What a run accepted stands at queues of its own topic. -/
theorem topic_of_acceptances {c : BrokerConfig} {es : List Event} {d : Delivery}
    (h : d ∈ (ofConfig c).acceptances es) : d.queue.topic = d.message.topic := by
  induction es using List.reverseRecOn with
  | nil => cases h
  | append_singleton es e ih =>
    rw [acceptances_concat] at h
    rcases List.mem_append.mp h with h | h
    · exact ih h
    · exact topic_of_accepted h

/-- What a queue holds was accepted for its topic. -/
theorem topic_of_held {c : BrokerConfig} {es : List Event} {t : String} {i : Nat} {d : Delivery}
    (h : d ∈ ((ofConfig c).run es).held t i) : d.queue.topic = t ∧ d.message.topic = t := by
  obtain ⟨haccepted, hat⟩ := List.mem_filter.mp ((held_run c es t i).mem_iff.mp h)
  obtain ⟨ht, -⟩ := Delivery.isAt_iff.mp hat
  exact ⟨ht, (topic_of_acceptances haccepted).symm.trans ht⟩

/-- The queue that a message was accepted into is there. -/
theorem lt_queueCount_of_acceptances {c : BrokerConfig} {es : List Event} {d : Delivery}
    (h : d ∈ (ofConfig c).acceptances es) :
    d.queue.id.toNat < ((ofConfig c).run es).queueCount d.queue.topic := by
  have hheld : d ∈ ((ofConfig c).run es).held d.queue.topic d.queue.id.toNat :=
    (held_run c es _ _).mem_iff.mpr (List.mem_filter.mpr ⟨h, Delivery.isAt_iff.mpr ⟨rfl, rfl⟩⟩)
  rcases List.mem_append.mp hheld with hlog | hupcoming
  · exact lt_queueCount_of_mem_log hlog
  · exact (housed_run c es).queue d (List.mem_filter.mp hupcoming).1

/-- What is scheduled for the logs of a topic is counted queue by queue. -/
theorem countP_delayed_run (c : BrokerConfig) (es : List Event) (t : String) {n : Nat}
    (hn : ((ofConfig c).run es).queueCount t ≤ n) :
    ((ofConfig c).run es).delayed.countP (·.message.topic == t) =
      ∑ i ∈ Finset.range n, (((ofConfig c).run es).upcoming t i).length := by
  simp only [upcoming, ← List.countP_eq_length_filter]
  rw [sum_countP_isAt]
  refine List.countP_congr fun d hd => ?_
  have hqueue := (housed_run c es).queue d hd
  have hheld : d ∈ ((ofConfig c).run es).held d.queue.topic d.queue.id.toNat :=
    List.mem_append_right _ (List.mem_filter.mpr ⟨hd, Delivery.isAt_iff.mpr ⟨rfl, rfl⟩⟩)
  -- what is scheduled is held by the queue that it names, one of the topic
  have htopic := (topic_of_held hheld).2
  simp only [beq_iff_eq, decide_eq_true_eq, htopic]
  refine ⟨fun h => ⟨h, ?_⟩, fun h => h.1⟩
  subst h
  exact Nat.lt_of_lt_of_le hqueue hn

/-- **The queues of a topic hold what was accepted for the topic.** -/
theorem length_held_run (c : BrokerConfig) (es : List Event) (t : String) {n : Nat}
    (hn : ((ofConfig c).run es).queueCount t ≤ n) :
    ∑ i ∈ Finset.range n, (((ofConfig c).run es).held t i).length =
      ((ofConfig c).acceptances es).countP (·.message.topic == t) := by
  have hlength : ∀ i, (((ofConfig c).run es).held t i).length =
      ((ofConfig c).acceptances es).countP (·.isAt t i) := by
    intro i
    rw [(held_run c es t i).length_eq, List.countP_eq_length_filter]
  simp only [hlength]
  rw [sum_countP_isAt]
  -- a message of the topic was accepted by one of its queues
  refine List.countP_congr fun d hd => ?_
  have hqueue := lt_queueCount_of_acceptances hd
  simp only [beq_iff_eq, decide_eq_true_eq, topic_of_acceptances hd]
  refine ⟨fun h => h.1, fun h => ⟨h, ?_⟩⟩
  rw [topic_of_acceptances hd, h] at hqueue
  exact Nat.lt_of_lt_of_le hqueue hn

/-! ## The balance -/

/-- **What a group is owed.** The backlog, what the cursors have passed and the copies that were
handed over are together what was accepted and what the group asked for again. -/
theorem backlog_run (c : BrokerConfig) (es : List Event) (t g : String) {n : Nat}
    (hn : ((ofConfig c).run es).queueCount t ≤ n) :
    ((ofConfig c).run es).backlog t g + ∑ i ∈ Finset.range n, ((ofConfig c).run es).cursor t g i +
        ((ofConfig c).copiesHanded es g).countP (·.message.topic == t) =
      ((ofConfig c).acceptances es).countP (·.message.topic == t) +
        (requestsOf es g).countP (·.delivery.message.topic == t) := by
  have hcopies := (copies_run c es g).countP_eq (·.message.topic == t)
  rw [List.countP_append, List.countP_map] at hcopies
  have hagain : (requestsOf es g).countP ((·.message.topic == t) ∘ (·.delivery.again)) =
      (requestsOf es g).countP (·.delivery.message.topic == t) := rfl
  -- of each log, a part is unread and the rest has been passed
  have hlogs : ∑ i ∈ Finset.range n, ((((ofConfig c).run es).log t i).length -
        ((ofConfig c).run es).cursor t g i) +
      ∑ i ∈ Finset.range n, ((ofConfig c).run es).cursor t g i =
      ∑ i ∈ Finset.range n, (((ofConfig c).run es).log t i).length := by
    rw [← Finset.sum_add_distrib]
    exact Finset.sum_congr rfl fun i _ => Nat.sub_add_cancel (consumed_run c es t g i).bounded
  have hheld := length_held_run c es t hn
  simp only [held, List.length_append, Finset.sum_add_distrib] at hheld
  have hplaces := backlog_eq ((ofConfig c).run es) t g hn
  have hdelayed := countP_delayed_run c es t hn
  omega

/-- A take is an event of its group. -/
theorem group?_of_took {e : Event} {k : Take} (h : b.took e = some k) :
    e.group? = some k.group := by
  cases e with
  | take now t g filter => rw [← Option.some.inj h]; rfl
  | drain t g filter room => rw [← Option.some.inj h]; rfl
  | _ => simp [took] at h

/-- A request is an event of its group. -/
theorem group?_of_request {e : Event} {r : Request} (h : e.request? = some r) :
    e.group? = some r.group := by
  cases e with
  | redeliver now g d level => rw [← Option.some.inj h]; rfl
  | _ => cases h

section Others

variable (c : BrokerConfig) (es : List Event) (t g : String) {e : Event} (h : e.group? ≠ some g)
include h

/-- No take of a group is made by what others do. -/
theorem took_of_ne : ((b.took e).toList.filter (·.group == g)) = [] := by
  rw [List.filter_eq_nil_iff]
  intro k hk hg
  exact h (by rw [group?_of_took (Option.mem_toList.mp hk), beq_iff_eq.mp hg])

/-- An event of another group is no take of this one. -/
theorem takesOf_concat_of_ne : (ofConfig c).takesOf (es ++ [e]) t g = (ofConfig c).takesOf es t g := by
  have hnone : (((ofConfig c).run es).took e).toList.filter
      (fun k => k.topic == t && k.group == g) = [] := by
    rw [← List.filter_filter, took_of_ne g h, List.filter_nil]
  rw [takesOf_concat, hnone, List.append_nil]

theorem copiesHanded_concat_of_ne :
    (ofConfig c).copiesHanded (es ++ [e]) g = (ofConfig c).copiesHanded es g := by
  rw [copiesHanded_concat, copiesIn, took_of_ne g h, List.flatMap_nil, List.append_nil]

/-- Nor does it ask for anything on behalf of this group. -/
theorem requestsOf_concat_of_ne : requestsOf (es ++ [e]) g = requestsOf es g := by
  have hnone : e.request?.toList.filter (·.group == g) = [] := by
    rw [List.filter_eq_nil_iff]
    intro r hr hg
    exact h (by rw [group?_of_request (Option.mem_toList.mp hr), beq_iff_eq.mp hg])
  rw [requestsOf, requests_concat, List.filter_append, hnone, List.append_nil, requestsOf]

/-- The cursors stay, as the same takes have examined the log. -/
theorem cursor_apply_of_ne (i : Nat) :
    (((ofConfig c).run es).apply e).cursor t g i = ((ofConfig c).run es).cursor t g i := by
  have hbefore := (consumed_run c es t g i).examined
  have hafter := (consumed_run c (es ++ [e]) t g i).examined
  rw [takesOf_concat_of_ne c es t g h, hbefore, run_concat] at hafter
  simpa using (congrArg List.length hafter).symm

/-- **What others do changes a backlog by what is accepted**, and by nothing else. -/
theorem backlog_apply_of_ne :
    (((ofConfig c).run es).apply e).backlog t g = ((ofConfig c).run es).backlog t g +
      (((ofConfig c).run es).accepted e).countP (·.message.topic == t) := by
  have hcount := queueCount_apply ((ofConfig c).run es) e t
  have hbefore := backlog_run c es t g hcount
  have hafter := backlog_run c (es ++ [e]) t g (n := (((ofConfig c).run es).apply e).queueCount t)
    (by rw [run_concat])
  rw [run_concat, copiesHanded_concat_of_ne c es g h, requestsOf_concat_of_ne es g h,
    acceptances_concat, List.countP_append] at hafter
  simp only [cursor_apply_of_ne c es t g h] at hafter
  omega

end Others

/-! ## The whole -/

/-- How many entries of the logs of a topic some takes examined, whether they handed them over or
passed over them. -/
def examinedIn (b : Broker) (t : String) (ks : List Take) : Nat :=
  ∑ i ∈ Finset.range (b.queueCount t), (ks.flatMap (·.examined i)).length

/-- **The backlog is what is owed.** After any run of any broker, for every topic and every group,
also one that was never seen:

* the backlog, the log entries of the topic that the group's takes examined, and the redelivered
  copies of the topic that they handed over are together the messages that were accepted for the
  topic and the redeliveries of its messages that the group asked for;
* promoting what is due leaves the backlog as it is;
* an event that is no take and no request of the group adds to the backlog what it accepts for the
  topic, and changes nothing else of it;
* no cursor is beyond the end of its log. -/
theorem backlog_balance (c : BrokerConfig) (es : List Event) (t g : String) :
    let b := (ofConfig c).run es
    b.backlog t g + b.examinedIn t ((ofConfig c).takesOf es t g) +
        ((ofConfig c).copiesHanded es g).countP (·.message.topic == t) =
      ((ofConfig c).acceptances es).countP (·.message.topic == t) +
        (requestsOf es g).countP (·.delivery.message.topic == t) ∧
    (∀ now, (b.promoteDue now).backlog t g = b.backlog t g) ∧
    (∀ e : Event, e.group? ≠ some g →
      (b.apply e).backlog t g = b.backlog t g + (b.accepted e).countP (·.message.topic == t)) ∧
    ∀ i, b.cursor t g i ≤ (b.log t i).length := by
  intro b
  refine ⟨?_, fun now => ?_, fun e he => backlog_apply_of_ne c es t g he,
    fun i => (consumed_run c es t g i).bounded⟩
  · have hexamined : b.examinedIn t ((ofConfig c).takesOf es t g) =
        ∑ i ∈ Finset.range (b.queueCount t), b.cursor t g i := by
      refine Finset.sum_congr rfl fun i _ => ?_
      rw [(consumed_run c es t g i).examined, List.length_range]
    rw [hexamined]
    exact backlog_run c es t g (Nat.le_refl _)
  · -- promotion is an event of nobody, and accepts nothing
    exact backlog_apply_of_ne c es t g (e := .promote now) nofun

end KeyedDelivery.Broker
