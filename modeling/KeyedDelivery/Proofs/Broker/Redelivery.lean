import KeyedDelivery.Broker.Client
import KeyedDelivery.Proofs.Broker.FirstDelivery

/-!
# Copies are neither lost nor doubled

A group that asks for a delivery again gets one copy of it, which goes from the schedule to the
group's retry queue and from there into a batch.

* **`copies`** — the copies a group has still to receive: those in its retry queue and those that are
  scheduled for it.
* **`copies_promoteDue`**, **`copies_drainReady`** — promotion moves copies inside of this list, and a
  take moves copies from it into the batch.
* **`copies_run`** — over a whole run, what was handed over and what is still to be received are
  together the copies that were asked for.
-/

namespace KeyedDelivery.Broker

/-- The copies that are scheduled for a group. -/
def scheduledFor (b : Broker) (g : String) : List Delivery :=
  (b.scheduled.filter (·.group = some g)).map (·.delivery)

/-- The copies that a group has still to receive. -/
def copies (b : Broker) (g : String) : List Delivery := (b.group g).retry ++ b.scheduledFor g

/-- What is scheduled for a group is read off the schedule alone. -/
theorem scheduledFor_congr {b b' : Broker} (h : b'.scheduled = b.scheduled) (g : String) :
    b'.scheduledFor g = b.scheduledFor g := by
  unfold scheduledFor
  rw [h]

/-- The copies of a group are read off the groups and the schedule. -/
theorem copies_congr {b b' : Broker} (hg : b'.groups = b.groups) (hs : b'.scheduled = b.scheduled)
    (g : String) : b'.copies g = b.copies g := by
  unfold copies
  rw [group_congr hg, scheduledFor_congr hs]

/-! ## Promotion -/

/-- A copy that becomes due joins the retry queue of its group, and of no other. -/
theorem retry_promote (b : Broker) (s : Scheduled) (g : String) :
    ((b.promote s).group g).retry =
      (b.group g).retry ++ if s.group = some g then [s.delivery] else [] := by
  unfold promote
  split
  · next hs =>
    rw [group_congr (groups_appendLog b s.delivery), hs]
    simp
  · next g' hs =>
    rw [group_appendRetry, hs]
    by_cases hg : g' = g <;> simp [hg]

/-- A retry queue after some scheduled deliveries were moved: the copies for its group stand at its
end, in their order. -/
theorem retry_foldl_promote (ss : List Scheduled) (b : Broker) (g : String) :
    ((ss.foldl promote b).group g).retry =
      (b.group g).retry ++ (ss.filter (·.group = some g)).map (·.delivery) := by
  induction ss generalizing b with
  | nil => simp
  | cons s ss ih =>
    rw [List.foldl_cons, ih, retry_promote, List.append_assoc]
    by_cases hs : s.group = some g <;> simp [hs]

/-- Promotion itself takes nothing off the schedule. -/
theorem scheduled_foldl_promote (ss : List Scheduled) (b : Broker) :
    (ss.foldl promote b).scheduled = b.scheduled := by
  induction ss generalizing b with
  | nil => rfl
  | cons s ss ih => rw [List.foldl_cons, ih, scheduled_promote]

/-- What is due leaves the schedule. -/
theorem scheduled_promoteDue (b : Broker) (now : Nat) :
    (b.promoteDue now).scheduled = b.scheduled.filter (¬ ·.due ≤ now) := by
  unfold promoteDue
  rw [scheduled_foldl_promote]

/-- What is due and what stays scheduled are together what was scheduled. -/
theorem promoteDue_split (b : Broker) (now : Nat) :
    (b.scheduled.filter (·.due ≤ now) ++ (b.promoteDue now).scheduled).Perm b.scheduled := by
  rw [scheduled_promoteDue]
  simpa only [decide_not] using
    List.filter_append_perm (fun s : Scheduled => decide (s.due ≤ now)) b.scheduled

/-- **Promotion loses no copy.** -/
theorem copies_promoteDue (b : Broker) (now : Nat) (g : String) :
    ((b.promoteDue now).copies g).Perm (b.copies g) := by
  have hretry : ((b.promoteDue now).group g).retry = (b.group g).retry ++
      ((b.scheduled.filter (·.due ≤ now)).filter (·.group = some g)).map (·.delivery) :=
    retry_foldl_promote _ _ g
  unfold copies scheduledFor
  rw [hretry, List.append_assoc, ← List.map_append, ← List.filter_append]
  exact (((promoteDue_split b now).filter _).map _).append_left _

/-! ## Takes -/

/-- **A take moves copies into its batch.** -/
theorem copies_drainReady (b : Broker) (t g : String) (filter : TagFilter) (room : Nat) :
    (b.takenCopies t g room ++ (b.drainReady t g filter room).2.copies g).Perm (b.copies g) := by
  unfold copies takenCopies
  rw [retry_drainReady, if_pos rfl, scheduledFor_congr (scheduled_drainReady b t g filter room),
    ← List.append_assoc]
  exact (takeRetry_perm t room (b.group g).retry).append_right _

/-- A batch of one group takes no copy of another. -/
theorem copies_drainReady_of_ne (b : Broker) (t g : String) (filter : TagFilter) (room : Nat)
    {g' : String} (h : g ≠ g') : (b.drainReady t g filter room).2.copies g' = b.copies g' := by
  unfold copies
  rw [retry_drainReady, if_neg h, scheduledFor_congr (scheduled_drainReady b t g filter room)]

/-- Logs hold first deliveries, each in the log of its queue. -/
theorem Filed.of_mem_log {b : Broker} (filed : Filed b) {t : String} {i : Nat} {d : Delivery}
    (h : d ∈ b.log t i) : d.reconsumed = 0 ∧ d.queue.topic = t := by
  have hfirst := filed.logs t i d h
  simp only [Delivery.isFirstOf, Bool.and_eq_true, beq_iff_eq] at hfirst
  exact hfirst.1

/-- A copy has been asked for at least once. -/
theorem Filed.of_mem_takenCopies {b : Broker} (filed : Filed b) {t g : String} {room : Nat}
    {d : Delivery} (h : d ∈ b.takenCopies t g room) : d.reconsumed ≠ 0 :=
  filed.retries g d
    ((takeRetry_perm t room (b.group g).retry).mem_iff.mp (List.mem_append_left _ h))

/-- A batch holds copies first, and after them what was taken from logs. -/
theorem drainReady_fst_logs (b : Broker) (t g : String) (filter : TagFilter) (room : Nat) :
    ∃ fresh, (b.drainReady t g filter room).1 = b.takenCopies t g room ++ fresh ∧
      ∀ d ∈ fresh, ∃ i, d ∈ b.log t i := by
  cases h : b.queues? t with
  | none => exact ⟨[], by rw [drainReady_fst_of_none b t g filter room h, List.append_nil], by simp⟩
  | some slots =>
    refine ⟨_, drainReady_fst b t g filter room h, fun d hd => ?_⟩
    -- what is no copy was read from one of the logs
    rw [takeLogs_taken, List.mem_flatMap] at hd
    obtain ⟨i, -, hd⟩ := hd
    refine ⟨i, ?_⟩
    rw [log, h]
    exact List.mem_of_mem_drop (List.mem_of_mem_take (List.mem_filter.mp hd).1)

/-- The copies in a batch are those that were taken from the retry queue. -/
theorem copies_of_batch {b : Broker} (filed : Filed b) (t g : String) (filter : TagFilter)
    (room : Nat) :
    (b.drainReady t g filter room).1.filter (·.reconsumed ≠ 0) = b.takenCopies t g room := by
  obtain ⟨fresh, hbatch, hfresh⟩ := drainReady_fst_logs b t g filter room
  rw [hbatch, List.filter_append]
  -- the entries of a log are first deliveries, and what is in a retry queue is not
  have hnone : fresh.filter (·.reconsumed ≠ 0) = [] := by
    rw [List.filter_eq_nil_iff]
    intro d hd
    obtain ⟨i, hlog⟩ := hfresh d hd
    simp [(filed.of_mem_log hlog).1]
  have hall : (b.takenCopies t g room).filter (·.reconsumed ≠ 0) = b.takenCopies t g room := by
    rw [List.filter_eq_self]
    intro d hd
    simp [filed.of_mem_takenCopies hd]
  rw [hnone, hall, List.append_nil]

/-! ## One event -/

theorem copies_openTopic (b : Broker) (topic g : String) :
    (b.openTopic topic).2.copies g = b.copies g :=
  copies_congr (groups_openTopic b topic) (scheduled_openTopic b topic) g

/-- A message that is accepted is no copy. -/
theorem copies_accept (b : Broker) (now : Nat) (m : Message) (queue : Queue) (g : String) :
    (b.accept now m queue).2.copies g = b.copies g := by
  refine accept_keeps (P := fun b' => b'.copies g = b.copies g) (fun _ => rfl)
    (copies_openTopic b m.topic g) ?_
  -- the message goes to a log, or onto the schedule without a group
  intro b' slots slot h _ _ _
  have hgroup : (b'.store now m queue slots slot).2.group g = b'.group g := rfl
  rw [← h]
  unfold copies scheduledFor
  rw [scheduled_store, hgroup]
  split
  · rfl
  · simp

/-- A request adds one copy, for the group that asks. -/
theorem copies_scheduleRedelivery (b : Broker) (now : Nat) (g : String) (d : Delivery)
    (level : DelayLevel) (g' : String) :
    (b.scheduleRedelivery now g d level).copies g' =
      b.copies g' ++ if g = g' then [d.again] else [] := by
  have hgroup : (b.scheduleRedelivery now g d level).group g' = b.group g' := rfl
  have hscheduled : (b.scheduleRedelivery now g d level).scheduled =
    b.scheduled ++ [⟨now + b.config.delays.duration level, some g, d.again⟩] := rfl
  unfold copies scheduledFor
  rw [hgroup, hscheduled, List.filter_append, List.map_append, ← List.append_assoc]
  by_cases hg : g = g' <;> simp [hg]

/-- The copies that an event hands over to a group. -/
def copiesIn (b : Broker) (g : String) (e : Event) : List Delivery :=
  ((b.took e).toList.filter (·.group == g)).flatMap (·.copies)

/-- The copies that a group asks for with an event. -/
def copiesAsked (g : String) (e : Event) : List Delivery :=
  (e.request?.toList.filter (·.group == g)).map (·.delivery.again)

/-- What a take of a group does to the copies of all groups. -/
theorem copies_take {b : Broker} (filed : Filed b) (t g : String) (filter : TagFilter) (room : Nat)
    (k : Take) (hgroup : k.group = g) (hbatch : k.batch = (b.drainReady t g filter room).1)
    (g' : String) :
    (([k].filter (·.group == g')).flatMap (·.copies) ++
      (b.drainReady t g filter room).2.copies g').Perm (b.copies g') := by
  by_cases hg : g = g'
  · subst hg
    have hcopies : k.copies = b.takenCopies t g room := by
      rw [Take.copies, hbatch, copies_of_batch filed]
    simpa [hgroup, hcopies] using copies_drainReady b t g filter room
  · simp [hgroup, hg, copies_drainReady_of_ne b t g filter room hg]

/-- **One event.** What it hands over and what is left are together what there was and what it asks
for. -/
theorem copies_apply {b : Broker} (filed : Filed b) (e : Event) (g : String) :
    (b.copiesIn g e ++ (b.apply e).copies g).Perm (b.copies g ++ copiesAsked g e) := by
  -- an event that neither hands over nor asks has only to keep the copies
  have silent (hin : b.copiesIn g e = []) (hasked : copiesAsked g e = [])
      (h : ((b.apply e).copies g).Perm (b.copies g)) :
      (b.copiesIn g e ++ (b.apply e).copies g).Perm (b.copies g ++ copiesAsked g e) := by
    rwa [hin, hasked, List.nil_append, List.append_nil]
  cases e with
  | createTopic topic =>
    have h := copies_congr (groups_createTopic b topic) (scheduled_createTopic b topic) g
    exact silent rfl rfl (.of_eq h)
  | askQueues topic =>
    refine silent rfl rfl (.of_eq ?_)
    rw [apply, queueNames_snd, copies_openTopic]
  | failSends n => exact silent rfl rfl (.refl _)
  | accept now m queue => exact silent rfl rfl (.of_eq (copies_accept b now m queue g))
  | promote now => exact silent rfl rfl (copies_promoteDue b now g)
  | redeliver now g' d level =>
    -- the copy that is asked for is the last one that is scheduled
    have hasked : copiesAsked g (.redeliver now g' d level) = if g' = g then [d.again] else [] := by
      by_cases hg : g' = g <;> simp [copiesAsked, Event.request?, hg]
    rw [hasked, ← copies_scheduleRedelivery]
    exact .refl _
  | take now t g' filter =>
    -- what is due is promoted first
    have htaken := copies_take (filed.promoteDue now) t g' filter b.config.batchMax
      (b.recordTake t g' filter (b.takeBatch now t g' filter)) rfl rfl g
    have h := htaken.trans (copies_promoteDue b now g)
    rw [← List.append_nil (b.copies g)] at h
    exact h
  | drain t g' filter room =>
    have h := copies_take filed t g' filter room
      (b.recordTake t g' filter (b.drainReady t g' filter room)) rfl rfl g
    rw [← List.append_nil (b.copies g)] at h
    exact h

/-! ## Runs -/

/-- One more event hands over its copies behind those before. -/
theorem copiesHanded_concat (b : Broker) (es : List Event) (e : Event) (g : String) :
    b.copiesHanded (es ++ [e]) g = b.copiesHanded es g ++ (b.run es).copiesIn g e := by
  unfold copiesHanded copiesIn
  rw [takes_concat, List.filter_append, List.flatMap_append]

theorem requests_concat (es : List Event) (e : Event) :
    requests (es ++ [e]) = requests es ++ e.request?.toList := by
  unfold requests
  rw [List.filterMap_append, List.filterMap_cons]
  cases e.request? <;> rfl

/-- One more event asks for its copy behind those before. -/
theorem requestsOf_concat (es : List Event) (e : Event) (g : String) :
    (requestsOf (es ++ [e]) g).map (·.delivery.again) =
      (requestsOf es g).map (·.delivery.again) ++ copiesAsked g e := by
  unfold requestsOf copiesAsked
  rw [requests_concat, List.filter_append, List.map_append]

/-- **Over a whole run** what was handed over and what is still to be received are together the
copies that were asked for. -/
theorem copies_run (c : BrokerConfig) (es : List Event) (g : String) :
    ((ofConfig c).copiesHanded es g ++ ((ofConfig c).run es).copies g).Perm
      ((requestsOf es g).map (·.delivery.again)) := by
  -- on the last event, as what it hands over comes last
  induction es using List.reverseRecOn with
  | nil => exact .refl _
  | append_singleton es e ih =>
    rw [copiesHanded_concat, run_concat, requestsOf_concat, List.append_assoc]
    have hstep := copies_apply (filed_run c es) e g
    calc (ofConfig c).copiesHanded es g ++
          (((ofConfig c).run es).copiesIn g e ++ (((ofConfig c).run es).apply e).copies g)
      _ |>.Perm ((ofConfig c).copiesHanded es g ++
          (((ofConfig c).run es).copies g ++ copiesAsked g e)) := hstep.append_left _
      _ = (ofConfig c).copiesHanded es g ++ ((ofConfig c).run es).copies g ++ copiesAsked g e :=
          (List.append_assoc ..).symm
      _ |>.Perm _ := ih.append_right _

/-! ## The record of requests -/

theorem redeliveries_openTopic (b : Broker) (topic : String) :
    (b.openTopic topic).2.redeliveries = b.redeliveries := by
  refine openTopic_keeps (P := fun b' => b'.redeliveries = b.redeliveries) rfl ?_
  unfold createTopic
  split <;> rfl

/-- What becomes due was asked for before. -/
theorem redeliveries_promote (b : Broker) (s : Scheduled) :
    (b.promote s).redeliveries = b.redeliveries :=
  promote_keeps (P := fun b' => b'.redeliveries = b.redeliveries) rfl (fun _ _ _ _ => rfl)
    fun _ => rfl

theorem redeliveries_promoteDue (b : Broker) (now : Nat) :
    (b.promoteDue now).redeliveries = b.redeliveries :=
  promoteDue_keeps (P := fun b' => b'.redeliveries = b.redeliveries) (fun _ => rfl)
    fun b' s h => (redeliveries_promote b' s).trans h

theorem redeliveries_drainReady (b : Broker) (t g : String) (filter : TagFilter) (room : Nat) :
    (b.drainReady t g filter room).2.redeliveries = b.redeliveries := by
  obtain ⟨s, h⟩ := drainReady_groups b t g filter room
  rw [h]

/-- An accepted message is no request. -/
theorem redeliveries_accept (b : Broker) (now : Nat) (m : Message) (queue : Queue) :
    (b.accept now m queue).2.redeliveries = b.redeliveries :=
  accept_keeps (P := fun b' => b'.redeliveries = b.redeliveries) (fun _ => rfl)
    (redeliveries_openTopic b m.topic) fun _ _ _ h _ _ _ => h

/-- An event adds the request that it is to the record, and nothing else. -/
theorem redeliveries_apply (b : Broker) (e : Event) :
    (b.apply e).redeliveries = b.redeliveries ++ e.request?.toList.map (·.record) := by
  cases e with
  | createTopic topic =>
    rw [apply, createTopic]
    split <;> simp [Event.request?]
  | askQueues topic => simp [apply, queueNames_snd, redeliveries_openTopic, Event.request?]
  | failSends n => simp [apply, failingSends, Event.request?]
  | accept now m queue => simp [apply, redeliveries_accept, Event.request?]
  | promote now => simp [apply, redeliveries_promoteDue, Event.request?]
  -- the only event that is put on record
  | redeliver now g d level => rfl
  | take now t g filter =>
    simp [apply, takeBatch, redeliveries_drainReady, redeliveries_promoteDue, Event.request?]
  | drain t g filter room => simp [apply, redeliveries_drainReady, Event.request?]

/-- The broker has on record what was asked for, in the order of the requests. -/
theorem redeliveries_run (c : BrokerConfig) (es : List Event) :
    ((ofConfig c).run es).redeliveries = (requests es).map (·.record) := by
  induction es using List.reverseRecOn with
  | nil => rfl
  | append_singleton es e ih =>
    rw [run_concat, redeliveries_apply, requests_concat, List.map_append, ih]

/-! ## How a group asks -/

/-- A client that is not shut down asks for one copy, at once. -/
theorem reconsumeLater_eq {client : ConsumerClient} (h : client.isShutDown = false) (b : Broker)
    (now : Nat) (d : Delivery) (level : DelayLevel) :
    client.reconsumeLater b now d level =
      (.ok (), b.apply (.redeliver now client.group d level)) := by
  simp [ConsumerClient.reconsumeLater, h, apply]

/-- A batch that is to be delivered again as a whole is asked for delivery by delivery. -/
theorem scheduleBatch_eq (b : Broker) (now : Nat) (g : String) (batch : List Delivery) :
    b.scheduleBatch now g batch =
      b.run (batch.map fun d => .redeliver now g d (.forRetry d.reconsumed)) := by
  unfold scheduleBatch run
  rw [List.foldl_map]
  rfl

/-- **Every requested copy is somewhere, once.** After any run of any broker, the copies that a
group was handed, those in its retry queue and those that are scheduled for it are together the
copies it asked for, one for each request; a log holds none and none is on its way to a log, and the
record lists the requests in their order. A copy is the delivery it was asked for with one more in
its count, up to the largest count. A client of the group asks with one event, and a batch that is
to come again with one event for each of its deliveries. -/
theorem redeliveries_conserved (c : BrokerConfig) (es : List Event) (g : String) :
    let b := (ofConfig c).run es
    ((ofConfig c).copiesHanded es g ++ (b.group g).retry ++ b.scheduledFor g).Perm
        ((requestsOf es g).map (·.delivery.again)) ∧
      (∀ t i, ∀ d ∈ b.log t i, d.reconsumed = 0) ∧
      (∀ s ∈ b.scheduled, s.group = none → s.delivery.reconsumed = 0) ∧
      b.redeliveries = (requests es).map (·.record) ∧
      (∀ d : Delivery, d.again = { d with reconsumed := d.again.reconsumed } ∧
        d.again.reconsumed.toNat = min (d.reconsumed.toNat + 1) 4294967295) ∧
      (∀ client : ConsumerClient, client.isShutDown = false → ∀ now d level,
        client.reconsumeLater b now d level =
          (.ok (), b.apply (.redeliver now client.group d level))) ∧
      ∀ now batch, b.scheduleBatch now g batch =
        b.run (batch.map fun d => .redeliver now g d (.forRetry d.reconsumed)) := by
  intro b
  have filed : Filed b := filed_run c es
  refine ⟨?_, ?_, ?_, redeliveries_run c es, ?_, ?_, ?_⟩
  · rw [List.append_assoc]
    exact copies_run c es g
  · exact fun t i d hd => (filed.of_mem_log hd).1
  · exact fun s hs hnone => (filed.schedule s hs).mpr hnone
  · -- the count of a copy stops at the greatest number of 32 bits
    intro d
    refine ⟨rfl, ?_⟩
    have hlt := d.reconsumed.toNat_lt
    rw [Delivery.again, DelayLevel.toNat_increment]
    split <;> omega
  · exact fun client h now d level => reconsumeLater_eq h b now d level
  · exact fun now batch => scheduleBatch_eq b now g batch

end KeyedDelivery.Broker
