import KeyedDelivery.Proofs.Broker.Placement
import Mathlib.Algebra.Order.Group.Multiset
import Mathlib.Data.Multiset.Filter

/-!
# What a group has still to receive of a message

A message waits for a group in one of four places: unread in the log of its queue, on the schedule for
that log, in the group's retry queue, or on the schedule for this queue.

* **`waiting`** — the deliveries of one message that wait for a group, wherever they are.
* **`waiting_takeBatch`** — a take hands over some of them and leaves no more than the others.
* **`waiting_scheduleRedelivery`** — a request adds the copy.
* **`waiting_apply`** — an event of others adds nothing, unless it is the one that accepts the message.
-/

namespace KeyedDelivery

/-- Some deliveries of one message, given by its first delivery. -/
def ofMessage (o : Delivery) (ds : List Delivery) : Multiset Delivery :=
  (ds.filter (·.first = o) : List Delivery)

section OfMessage

variable {o : Delivery} {ds ds' : List Delivery}

/-- The deliveries of a message in two lists are those in the one and those in the other. -/
theorem ofMessage_append (o : Delivery) (ds ds' : List Delivery) :
    ofMessage o (ds ++ ds') = ofMessage o ds + ofMessage o ds' := by
  unfold ofMessage
  rw [List.filter_append, Multiset.coe_add]

/-- Their order plays no part. -/
theorem ofMessage_perm (h : ds.Perm ds') : ofMessage o ds = ofMessage o ds' :=
  Multiset.coe_eq_coe.mpr (h.filter _)

theorem ofMessage_le (h : ds.Sublist ds') : ofMessage o ds ≤ ofMessage o ds' :=
  Multiset.coe_le.mpr (h.filter _).subperm

@[simp] theorem ofMessage_nil : ofMessage o [] = 0 := rfl

/-- One delivery is of a message or is not. -/
theorem ofMessage_singleton (o d : Delivery) :
    ofMessage o [d] = if d.first = o then {d} else 0 := by
  unfold ofMessage
  by_cases h : d.first = o <;> simp [h]

end OfMessage

namespace Broker

variable {b b' : Broker} {g : String} {o : Delivery}

/-- What is unread of a message in the log of its queue. -/
def ahead (b : Broker) (g : String) (o : Delivery) : Multiset Delivery :=
  ofMessage o ((b.log o.queue.topic o.queue.id.toNat).drop
    (b.cursor o.queue.topic g o.queue.id.toNat))

/-- What a group has still to receive of a message. -/
def waiting (b : Broker) (g : String) (o : Delivery) : Multiset Delivery :=
  b.ahead g o + ofMessage o b.delayed + ofMessage o (b.copies g)

/-- What is unread of a message is read off the log and the cursor of its queue. -/
theorem ahead_congr (hlog : b'.log o.queue.topic o.queue.id.toNat =
      b.log o.queue.topic o.queue.id.toNat)
    (hcursor : b'.cursor o.queue.topic g o.queue.id.toNat =
      b.cursor o.queue.topic g o.queue.id.toNat) : b'.ahead g o = b.ahead g o := by
  unfold ahead
  rw [hlog, hcursor]

/-- What waits for a group is read off the logs, the groups and the schedule. -/
theorem waiting_congr (hlog : ∀ t i, b'.log t i = b.log t i) (hgroups : b'.groups = b.groups)
    (hscheduled : b'.scheduled = b.scheduled) : b'.waiting g o = b.waiting g o := by
  unfold waiting
  rw [ahead_congr (hlog _ _) (by unfold cursor; rw [cursors_congr hgroups]),
    delayed_congr hscheduled, copies_congr hgroups hscheduled]

/-- Nothing waits in a new broker. -/
theorem waiting_ofConfig (c : BrokerConfig) (g : String) (o : Delivery) :
    (ofConfig c).waiting g o = 0 := by
  have hahead : (ofConfig c).ahead g o = 0 := by
    unfold ahead
    rw [show (ofConfig c).log o.queue.topic o.queue.id.toNat = [] from rfl, List.drop_nil,
      ofMessage_nil]
  unfold waiting
  rw [hahead]
  rfl

/-- What is appended to a log may be ahead of a group. -/
theorem ahead_append {ds : List Delivery} (hlog : b'.log o.queue.topic o.queue.id.toNat =
      b.log o.queue.topic o.queue.id.toNat ++ ds)
    (hcursor : b'.cursor o.queue.topic g o.queue.id.toNat =
      b.cursor o.queue.topic g o.queue.id.toNat) :
    b'.ahead g o ≤ b.ahead g o + ofMessage o ds := by
  unfold ahead
  rw [hlog, hcursor, ← ofMessage_append, List.drop_append]
  exact ofMessage_le ((List.drop_sublist _ ds).append_left _)

/-! ## Promotion -/

/-- A message that becomes due for its log is unread there; a copy for a group is not. -/
theorem ahead_promote (b : Broker) (s : Scheduled) (g : String) (o : Delivery) :
    (b.promote s).ahead g o ≤
      b.ahead g o + ofMessage o (if s.group = none then [s.delivery] else []) := by
  have hcursor := (extends_promote b s).cursor o.queue.topic g o.queue.id.toNat
  unfold promote at hcursor ⊢
  split at hcursor
  · next hnone =>
    rw [if_pos hnone]
    rcases log_appendLog b s.delivery o.queue.topic o.queue.id.toNat with h | ⟨_, _, h⟩
    · rw [ahead_congr h hcursor]
      exact Multiset.le_add_right _ _
    · exact ahead_append h hcursor
  · next g' hsome =>
    -- a copy goes to a retry queue, which is no log
    have hsame : (b.appendRetry g' s.delivery).ahead g o = b.ahead g o := ahead_congr rfl hcursor
    rw [if_neg (by simp [hsome]), ofMessage_nil, add_zero, hsame]

/-- What is moved to a log was scheduled for it. -/
theorem ahead_foldl_promote (ss : List Scheduled) (b : Broker) (g : String) (o : Delivery) :
    (ss.foldl promote b).ahead g o ≤
      b.ahead g o + ofMessage o ((ss.filter (·.group = none)).map (·.delivery)) := by
  induction ss generalizing b with
  | nil => exact Multiset.le_add_right _ _
  | cons s ss ih =>
    -- the messages of the first entry and of the others
    have hsplit : ofMessage o (((s :: ss).filter (·.group = none)).map (·.delivery)) =
        ofMessage o (if s.group = none then [s.delivery] else []) +
          ofMessage o ((ss.filter (·.group = none)).map (·.delivery)) := by
      rw [← ofMessage_append]
      by_cases hs : s.group = none <;> simp [hs]
    calc ((s :: ss).foldl promote b).ahead g o
      _ ≤ (b.promote s).ahead g o + ofMessage o ((ss.filter (·.group = none)).map (·.delivery)) :=
          ih (b.promote s)
      _ ≤ b.ahead g o + ofMessage o (if s.group = none then [s.delivery] else []) +
            ofMessage o ((ss.filter (·.group = none)).map (·.delivery)) :=
          add_le_add_left (ahead_promote b s g o) _
      _ = _ := by rw [hsplit, add_assoc]

/-- **Promotion adds nothing.** -/
theorem waiting_promoteDue (b : Broker) (now : Nat) (g : String) (o : Delivery) :
    (b.promoteDue now).waiting g o ≤ b.waiting g o := by
  -- what is due leaves the schedule, and what becomes unread in the log is no more than that
  have hdelayed : ofMessage o (b.ripe now) + ofMessage o (b.promoteDue now).delayed =
      ofMessage o b.delayed := by
    rw [← ofMessage_append]
    exact ofMessage_perm (ripe_append_delayed b now)
  have hahead : (b.promoteDue now).ahead g o ≤ b.ahead g o + ofMessage o (b.ripe now) :=
    ahead_foldl_promote _ _ g o
  unfold waiting
  rw [ofMessage_perm (copies_promoteDue b now g), ← hdelayed, ← add_assoc (b.ahead g o)]
  exact add_le_add_left (add_le_add_left hahead _) _

/-! ## Takes -/

/-- A take of one topic hands over no first delivery of another. -/
theorem topic_of_fresh {t : String} (filed : Filed b) (filter : TagFilter) (room : Nat) {d : Delivery}
    (hd : d ∈ (b.drainReady t g filter room).1) (hfirst : d.reconsumed = 0) : d.queue.topic = t := by
  obtain ⟨fresh, hbatch, hfresh⟩ := drainReady_fst_logs b t g filter room
  rw [hbatch] at hd
  rcases List.mem_append.mp hd with hd | hd
  · exact absurd hfirst (filed.of_mem_takenCopies hd)
  · obtain ⟨i, hlog⟩ := hfresh d hd
    exact (filed.of_mem_log hlog).2

/-- The first delivery that a batch holds of a message was ahead of its group, and is so no more. -/
theorem ofMessage_fresh {t : String} (filed : Filed b) (filter : TagFilter) (room : Nat) :
    ofMessage o ((b.drainReady t g filter room).1.filter (·.reconsumed = 0)) +
      (b.drainReady t g filter room).2.ahead g o ≤ b.ahead g o := by
  by_cases ht : t = o.queue.topic
  · subst ht
    obtain ⟨hle, -⟩ := cursor_drainReady b o.queue.topic g filter room o.queue.id.toNat
    have hfresh := fresh_drainReady b o.queue.topic g filter room filed o.queue.id.toNat
    unfold ahead
    rw [log_drainReady]
    generalize hcursor : (b.drainReady o.queue.topic g filter room).2.cursor o.queue.topic g
      o.queue.id.toNat = stop at hle hfresh ⊢
    -- the first delivery of the message is one of its queue
    have hmine : ofMessage o ((b.drainReady o.queue.topic g filter room).1.filter
          (·.reconsumed = 0)) ≤
        ofMessage o ((b.drainReady o.queue.topic g filter room).1.filter
          (·.isFirstOf o.queue.topic o.queue.id.toNat)) := by
      unfold ofMessage
      rw [List.filter_filter, List.filter_filter]
      refine Multiset.coe_le.mpr (List.monotone_filter_right _ fun d hd => ?_).subperm
      simp only [Bool.and_eq_true, decide_eq_true_eq] at hd
      obtain ⟨hd, hzero⟩ := hd
      simp [Delivery.isFirstOf, ← hd, Delivery.first, hzero]
    -- what stays unread is the rest of what was unread
    have hread : (b.log o.queue.topic o.queue.id.toNat).drop stop =
        ((b.log o.queue.topic o.queue.id.toNat).drop
          (b.cursor o.queue.topic g o.queue.id.toNat)).drop
            (stop - b.cursor o.queue.topic g o.queue.id.toNat) := by
      rw [List.drop_drop, Nat.add_sub_cancel' hle]
    rw [hfresh] at hmine
    rw [hread]
    generalize (b.log o.queue.topic o.queue.id.toNat).drop
      (b.cursor o.queue.topic g o.queue.id.toNat) = unread at hmine ⊢
    generalize stop - b.cursor o.queue.topic g o.queue.id.toNat = n at hmine ⊢
    calc ofMessage o _ + ofMessage o (unread.drop n)
      _ ≤ ofMessage o (unread.take n) + ofMessage o (unread.drop n) :=
          add_le_add_left (hmine.trans (ofMessage_le List.filter_sublist)) _
      _ = ofMessage o unread := by rw [← ofMessage_append, List.take_append_drop]
  · -- a take of another topic
    have hnone : ((b.drainReady t g filter room).1.filter (·.reconsumed = 0)).filter
        (·.first = o) = [] := by
      rw [List.filter_eq_nil_iff]
      intro d hd hfirst
      obtain ⟨hd, hzero⟩ := List.mem_filter.mp hd
      have htopic := topic_of_fresh filed filter room hd (by simpa using hzero)
      have hfirst : d.first = o := by simpa using hfirst
      exact ht (by rw [← htopic, ← hfirst]; rfl)
    have hsame : (b.drainReady t g filter room).2.ahead g o = b.ahead g o := by
      refine ahead_congr (log_drainReady b t g filter room _ _) ?_
      unfold cursor
      rw [cursors_drainReady_of_ne b t g filter room fun h => ht h.1]
    unfold ofMessage
    rw [hnone, hsame]
    exact (zero_add _).le

/-- **A take hands over what waited.** -/
theorem waiting_drainReady {t : String} (filed : Filed b) (filter : TagFilter) (room : Nat) :
    ofMessage o (b.drainReady t g filter room).1 + (b.drainReady t g filter room).2.waiting g o ≤
      b.waiting g o := by
  have hcopies : ofMessage o ((b.drainReady t g filter room).1.filter (·.reconsumed ≠ 0)) +
      ofMessage o ((b.drainReady t g filter room).2.copies g) = ofMessage o (b.copies g) := by
    rw [copies_of_batch filed t g filter room, ← ofMessage_append]
    exact ofMessage_perm (copies_drainReady b t g filter room)
  have hfresh := ofMessage_fresh (o := o) (g := g) (t := t) filed filter room
  have hdelayed := delayed_congr (scheduled_drainReady b t g filter room)
  -- a batch holds copies and first deliveries
  have hsplit (ds : List Delivery) : ofMessage o ds = ofMessage o (ds.filter (·.reconsumed ≠ 0)) +
      ofMessage o (ds.filter (·.reconsumed = 0)) := by
    rw [← ofMessage_append]
    have hperm := List.filter_append_perm (fun d : Delivery => decide (d.reconsumed ≠ 0)) ds
    exact (ofMessage_perm (by simpa only [ne_eq, decide_not, Bool.not_not] using hperm)).symm
  unfold waiting
  rw [hsplit (b.drainReady t g filter room).1, hdelayed, ← hcopies]
  generalize ofMessage o ((b.drainReady t g filter room).1.filter (·.reconsumed = 0)) = fresh
    at hfresh ⊢
  calc _ + fresh + ((b.drainReady t g filter room).2.ahead g o + ofMessage o b.delayed + _)
    _ = fresh + (b.drainReady t g filter room).2.ahead g o + ofMessage o b.delayed + (_ + _) := by
        ac_rfl
    _ ≤ _ := add_le_add_left (add_le_add_left hfresh _) _

/-- **A batch hands over what waited**, and leaves no more than the others. -/
theorem waiting_takeBatch {t : String} (filed : Filed b) (now : Nat) (filter : TagFilter) :
    ofMessage o (b.takeBatch now t g filter).1 + (b.takeBatch now t g filter).2.waiting g o ≤
      b.waiting g o :=
  (waiting_drainReady (filed.promoteDue now) filter b.config.batchMax).trans
    (waiting_promoteDue b now g o)

/-- A batch of another group leaves what waits for this one. -/
theorem waiting_drainReady_of_ne (b : Broker) {t g' : String} (filter : TagFilter) (room : Nat)
    (h : g' ≠ g) : (b.drainReady t g' filter room).2.waiting g o = b.waiting g o := by
  have hahead : (b.drainReady t g' filter room).2.ahead g o = b.ahead g o := by
    refine ahead_congr (log_drainReady b t g' filter room _ _) ?_
    unfold cursor
    rw [cursors_drainReady_of_ne b t g' filter room fun he => h he.2]
  unfold waiting
  rw [hahead, delayed_congr (scheduled_drainReady b t g' filter room),
    copies_drainReady_of_ne b t g' filter room h]

/-! ## Requests and acceptance -/

/-- **A request adds its copy**, for the group that asks. -/
theorem waiting_scheduleRedelivery (b : Broker) (now : Nat) (g' : String) (d : Delivery)
    (level : DelayLevel) :
    (b.scheduleRedelivery now g' d level).waiting g o =
      b.waiting g o + ofMessage o (if g' = g then [d.again] else []) := by
  have hahead : (b.scheduleRedelivery now g' d level).ahead g o = b.ahead g o := rfl
  unfold waiting
  rw [hahead, delayed_scheduleRedelivery, copies_scheduleRedelivery, ofMessage_append, ← add_assoc]

/-- A message that is stored waits for every group. -/
theorem waiting_store {m : Message} {queue : Queue} {slots : List QueueLog} {slot : QueueLog}
    (hslots : b.queues? m.topic = some slots) (hslot : slots[queue.id.toNat]? = some slot)
    (now : Nat) :
    (b.store now m queue slots slot).2.waiting g o ≤
      b.waiting g o + ofMessage o [b.deliveryOf now m queue slot] := by
  set b' := (b.store now m queue slots slot).2 with hb'
  have hcursor (t : String) (i : Nat) : b'.cursor t g i = b.cursor t g i := rfl
  have hlog := log_store (b := b) hslots hslot now o.queue.topic o.queue.id.toNat
  have hscheduled := scheduled_store b now m queue slots slot
  rw [← hb'] at hlog hscheduled
  have hgroup : b'.group g = b.group g := rfl
  unfold waiting
  by_cases himmediate : m.delay.isImmediate = true
  · -- it goes to the log of its queue
    rw [if_pos himmediate] at hscheduled
    have hcopies : b'.copies g = b.copies g := by
      unfold copies
      rw [hgroup, scheduledFor_congr hscheduled]
    have hahead : b'.ahead g o ≤ b.ahead g o + ofMessage o [b.deliveryOf now m queue slot] := by
      split at hlog
      · exact ahead_append hlog (hcursor _ _)
      · rw [ahead_congr hlog (hcursor _ _)]
        exact Multiset.le_add_right _ _
    rw [delayed_congr hscheduled, hcopies]
    refine (add_le_add_left (add_le_add_left hahead _) _).trans (le_of_eq ?_)
    ac_rfl
  · -- it is scheduled
    rw [if_neg himmediate] at hscheduled
    rw [if_neg fun h => himmediate h.2.2] at hlog
    have hcopies : b'.copies g = b.copies g := by
      unfold copies scheduledFor
      rw [hgroup, hscheduled, List.filter_append]
      simp
    have hdelayed := delayed_store b now m queue slots slot
    rw [← hb', if_neg himmediate] at hdelayed
    rw [ahead_congr hlog (hcursor _ _), hdelayed, hcopies, ofMessage_append]
    exact le_of_eq (by ac_rfl)

/-- Nothing waits in the empty logs of a new topic. -/
theorem waiting_openTopic (b : Broker) (topic g : String) (o : Delivery) :
    (b.openTopic topic).2.waiting g o = b.waiting g o :=
  waiting_congr (log_openTopic b topic) (groups_openTopic b topic) (scheduled_openTopic b topic)

/-- **What others do adds nothing but what is accepted.** -/
theorem waiting_apply (b : Broker) (e : Event) (o : Delivery) (h : e.group? ≠ some g) :
    (b.apply e).waiting g o ≤ b.waiting g o + ofMessage o (b.accepted e) := by
  have kept (hle : (b.apply e).waiting g o ≤ b.waiting g o) :
      (b.apply e).waiting g o ≤ b.waiting g o + ofMessage o (b.accepted e) :=
    hle.trans (Multiset.le_add_right _ _)
  cases e with
  | createTopic topic =>
    exact kept (waiting_congr (log_createTopic b topic) (groups_createTopic b topic)
      (scheduled_createTopic b topic)).le
  | askQueues topic =>
    refine kept ?_
    rw [apply, queueNames_snd, waiting_openTopic]
  | failSends n => exact kept (waiting_congr (log_congr rfl) rfl rfl).le
  | accept now m queue =>
    rw [apply]
    rcases accepted_cases b now m queue with ⟨hnone, hb'⟩ | ⟨b', slots, slot, ho, hslot, -, hd, hb'⟩
    · rw [hnone, ofMessage_nil, add_zero]
      rcases hb' with hb' | hb' | hb' <;> rw [hb']
      · exact (waiting_congr (log_congr rfl) rfl rfl).le
      · exact (waiting_openTopic b m.topic g o).le
    · -- what waits is compared with the broker whose topic is open
      rw [hb', hd]
      have hopened := waiting_openTopic b m.topic g o
      rw [ho] at hopened
      rw [← hopened]
      exact waiting_store (queues?_of_openTopic ho) hslot now
  | promote now => exact kept (waiting_promoteDue b now g o)
  | redeliver now g' d level =>
    have hne : g' ≠ g := fun hg => h (congrArg some hg)
    refine kept ?_
    rw [apply, waiting_scheduleRedelivery, if_neg hne, ofMessage_nil, add_zero]
  | take now t g' filter =>
    have hne : g' ≠ g := fun hg => h (congrArg some hg)
    refine kept ?_
    rw [apply, takeBatch, waiting_drainReady_of_ne _ _ _ hne]
    exact waiting_promoteDue b now g o
  | drain t g' filter room =>
    have hne : g' ≠ g := fun hg => h (congrArg some hg)
    exact kept (waiting_drainReady_of_ne b filter room hne).le

end Broker

end KeyedDelivery
