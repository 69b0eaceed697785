import KeyedDelivery.Proofs.Broker.Subscriptions
import KeyedDelivery.Proofs.Broker.Uniform

/-!
# What a drain takes, leaves and touches

The two loops of a drain share one limit: the copies of the topic are taken out of the retry queue
first, and what room they leave goes to the logs.

* **`takeRetry_left`**, **`takeRetry_short`** — the first loop leaves the other copies in their order, and
  one of the topic only when the batch is full.
* **`takeLogs_length`**, **`takeLogs_short`** — the second loop keeps to the limit, and stops before the
  end of a log only when the batch is full.
* **`Ranged`** — a group that reads a topic has a cursor for each of its queues, so that the second loop
  passes none of them over. Every event keeps it (`ranged_run`).
* **`drain_complete`** — the batch, what is left of the retry queue, where the cursors stand, and that
  nothing else has changed.
-/

namespace KeyedDelivery.Broker

/-! ## The retry queue -/

/-- What the first loop leaves is in the order in which it was. -/
theorem takeRetry_left (t : String) (room : Nat) (ds : List Delivery) :
    (takeRetry t room ds).2.Sublist ds := by
  fun_induction takeRetry t room ds with
  | case1 => exact .refl _
  | case2 => exact .refl _
  | case3 room d ds htopic taken left hrest ih =>
    rw [hrest] at ih
    exact ih.cons d
  | case4 room d ds htopic taken left hrest ih =>
    rw [hrest] at ih
    exact ih.cons_cons d

/-- A copy of the topic is left only when there is no room for it. -/
theorem takeRetry_short {t : String} {room : Nat} {ds : List Delivery}
    (h : (takeRetry t room ds).1.length < room) :
    ∀ d ∈ (takeRetry t room ds).2, d.message.topic ≠ t := by
  fun_induction takeRetry t room ds with
  | case1 => exact List.forall_mem_nil _
  -- there is no room, so that the batch is not short
  | case2 => cases h
  | case3 room d ds htopic taken left hrest ih =>
    rw [hrest] at ih
    exact ih (Nat.lt_of_succ_lt_succ h)
  | case4 room d ds htopic taken left hrest ih =>
    rw [hrest] at ih
    exact List.forall_mem_cons.mpr ⟨htopic, ih h⟩

/-! ## The logs -/

/-- A batch takes no more from a log than there is room for. -/
theorem takeLog_length (filter : TagFilter) (room : Nat) (ds : List Delivery) :
    (takeLog filter room ds).1.length ≤ room := by
  fun_induction takeLog filter room ds with
  | case1 => exact Nat.zero_le _
  | case2 => exact Nat.zero_le _
  | case3 room d ds _ taken n hrest ih =>
    rw [hrest] at ih
    exact Nat.succ_le_succ ih
  | case4 room d ds _ taken n hrest ih =>
    rw [hrest] at ih
    exact ih

/-- A log is read to its end unless the room runs out. -/
theorem takeLog_short {filter : TagFilter} {room : Nat} {ds : List Delivery}
    (h : (takeLog filter room ds).1.length < room) : (takeLog filter room ds).2 = ds.length := by
  fun_induction takeLog filter room ds with
  | case1 => rfl
  | case2 => cases h
  -- a delivery that was taken needs one place of the room; one that was passed over needs none
  | case3 room d ds _ taken n hrest ih =>
    rw [hrest] at ih
    exact congrArg (· + 1) (ih (Nat.lt_of_succ_lt_succ h))
  | case4 room d ds _ taken n hrest ih =>
    rw [hrest] at ih
    exact congrArg (· + 1) (ih h)

/-- The room that is left after one queue is what the queues after it share. -/
theorem takeLogs_length (filter : TagFilter) (room : Nat) (qs : List QueueLog) (cs : List Nat) :
    (takeLogs filter room qs cs).1.length ≤ room := by
  fun_induction takeLogs filter room qs cs with
  | case1 room q qs c cs taken n hlog more cursors hrest ih =>
    have hone := takeLog_length filter room (q.log.drop c)
    rw [hlog] at hone
    rw [hrest] at ih
    simp only [List.length_append] at hone ih ⊢
    omega
  | case2 => exact Nat.zero_le _

/-- The second loop moves cursors, and adds none. -/
theorem length_takeLogs_snd (filter : TagFilter) (room : Nat) (qs : List QueueLog)
    (cs : List Nat) : (takeLogs filter room qs cs).2.length = cs.length := by
  fun_induction takeLogs filter room qs cs with
  | case1 room q qs c cs taken n hlog more cursors hrest ih =>
    rw [hrest] at ih
    exact congrArg (· + 1) ih
  | case2 => rfl

/-- **A short batch leaves nothing unread**, provided that there is a cursor for each queue. -/
theorem takeLogs_short {filter : TagFilter} {room : Nat} {qs : List QueueLog} {cs : List Nat}
    (hcursors : cs.length = qs.length) (h : (takeLogs filter room qs cs).1.length < room) (i : Nat) :
    (qs.getD i {}).log.length ≤ (takeLogs filter room qs cs).2.getD i 0 := by
  fun_induction takeLogs filter room qs cs generalizing i with
  | case1 room q qs c cs taken n hlog more cursors hrest ih =>
    rw [hrest] at ih
    rw [List.length_append] at h
    cases i with
    | zero =>
      -- this queue has not used up the room
      have htaken : (takeLog filter room (q.log.drop c)).1.length < room := by
        rw [hlog]
        exact Nat.lt_of_add_right_lt h
      have hread := takeLog_short htaken
      rw [hlog, List.length_drop] at hread
      simp only [List.getD_cons_zero]
      omega
    | succ i =>
      simp only [List.getD_cons_succ]
      exact ih (Nat.succ.inj hcursors) (by simp only; omega) i
  | case2 qs room cs hne =>
    -- with as many cursors as queues, there is no queue
    cases qs with
    | nil => exact Nat.zero_le _
    | cons q qs =>
      cases cs with
      | nil => cases hcursors
      | cons c cs => exact (hne q qs c cs rfl rfl).elim

/-! ## A cursor for each queue -/

/-- The groups that have cursors of a topic have one for each of its queues. -/
def Ranged (c : BrokerConfig) (b : Broker) : Prop :=
  ∀ g t cs, (b.group g).cursors.find? t = some cs → cs.length = max c.queuesPerTopic 1

namespace Ranged

variable {c : BrokerConfig} {b b' : Broker}

theorem ofConfig (c : BrokerConfig) : Ranged c (.ofConfig c) := nofun

/-- What leaves the groups as they are keeps it. -/
theorem of_groups (h : Ranged c b) (hg : b'.groups = b.groups) : Ranged c b' := by
  intro g t cs hcs
  exact h g t cs (by rwa [group_congr hg] at hcs)

theorem accept (h : Ranged c b) (now : Nat) (m : Message) (queue : Queue) :
    Ranged c (b.accept now m queue).2 :=
  accept_keeps (fun _ => h.of_groups rfl) (h.of_groups (groups_openTopic b m.topic))
    fun _ _ _ hb' _ _ _ => hb'.of_groups rfl

/-- A copy that becomes due joins a retry queue and moves no cursor. -/
theorem promote (h : Ranged c b) (s : Scheduled) : Ranged c (b.promote s) := by
  unfold Broker.promote
  split
  · exact h.of_groups (groups_appendLog b s.delivery)
  · next g' _ =>
    -- the cursors of the group that gets the copy are those from before
    intro g t cs hcs
    rw [group_appendRetry] at hcs
    split at hcs
    · exact h g' t cs hcs
    · exact h g t cs hcs

theorem promoteDue (h : Ranged c b) (now : Nat) : Ranged c (b.promoteDue now) :=
  promoteDue_keeps (fun _ => h.of_groups rfl) fun _ s hb' => hb'.promote s

/-- A group that has not read the topic yet begins with a cursor for each queue. -/
theorem startCursors (h : Ranged c b) (t g : String) {n : Nat} (hn : n = max c.queuesPerTopic 1) :
    (b.startCursors t g n).length = n := by
  unfold Broker.startCursors
  cases hcs : (b.group g).cursors.find? t with
  | none => exact List.length_replicate
  | some cs => exact (h g t cs hcs).trans hn.symm

/-- The cursors that a drain leaves are as many as those it began with. -/
theorem drainReady (h : Ranged c b) (uniform : Uniform c b) (t g : String) (filter : TagFilter)
    (room : Nat) : Ranged c (b.drainReady t g filter room).2 := by
  intro g' t' cs hcs
  unfold Broker.drainReady at hcs
  simp only at hcs
  split at hcs
  · rw [group_of_put rfl] at hcs
    split at hcs
    · exact h g t' cs hcs
    · exact h g' t' cs hcs
  · next slots hslots =>
    rw [group_of_put rfl] at hcs
    split at hcs
    · -- the cursors of the topic are those that the reading started from, moved
      simp only [Table.find?_put] at hcs
      split at hcs
      · cases hcs
        have hlength := uniform.queues t slots hslots
        exact ((length_takeLogs_snd _ _ _ _).trans (h.startCursors t g hlength)).trans hlength
      · exact h g t' cs hcs
    · exact h g' t' cs hcs

/-- **Every event keeps it**, as long as the topics have the number of queues of the settings. -/
theorem apply (h : Ranged c b) (uniform : Uniform c b) (e : Event) : Ranged c (b.apply e) := by
  cases e with
  | createTopic topic => exact h.of_groups (groups_createTopic b topic)
  | askQueues topic =>
    rw [Broker.apply, queueNames_snd]
    exact h.of_groups (groups_openTopic b topic)
  | failSends n => exact h.of_groups rfl
  | accept now m queue => exact h.accept now m queue
  | promote now => exact h.promoteDue now
  | redeliver now g d level => exact h.of_groups rfl
  | take now t g filter => exact (h.promoteDue now).drainReady (uniform.promoteDue now) t g filter _
  | drain t g filter room => exact h.drainReady uniform t g filter room

end Ranged

/-- It holds after every run of events. -/
theorem ranged_run (c : BrokerConfig) (es : List Event) : Ranged c ((ofConfig c).run es) :=
  (List.foldlRecOn (motive := fun b => Uniform c b ∧ Ranged c b) es Broker.apply
    ⟨.ofConfig c, .ofConfig c⟩ fun _ h e _ => ⟨h.1.apply e, h.2.apply h.1 e⟩).2

/-! ## The batch -/

section Drain

variable (b : Broker) (t g : String) (filter : TagFilter) (room : Nat)

/-- What a drain takes from the logs of a topic, one queue after the other. -/
def freshOf (b' : Broker) : List Delivery :=
  (List.range (b.queueCount t)).flatMap fun i =>
    (((b.log t i).drop (b.cursor t g i)).take (b'.cursor t g i - b.cursor t g i)).filter
      (filter.accepts ·.message.tag)

/-- **The batch of a drain**: the first copies of the topic, and behind them what the cursors
passed. -/
theorem drainReady_batch :
    (b.drainReady t g filter room).1 =
      ((b.group g).retry.filter (·.message.topic = t)).take room ++
        b.freshOf t g filter (b.drainReady t g filter room).2 := by
  have hcopies : b.takenCopies t g room =
      ((b.group g).retry.filter (·.message.topic = t)).take room := takeRetry_taken t room _
  cases h : b.queues? t with
  -- a topic that is not there has no logs to read
  | none =>
    rw [drainReady_fst_of_none b t g filter room h, hcopies, freshOf, queueCount, h]
    simp
  | some slots =>
    rw [drainReady_fst b t g filter room h, takeLogs_taken, freshOf, queueCount_eq h, hcopies]
    congr 1
    -- queue by queue, the entries between the old cursor and the new one
    refine List.flatMap_congr fun i _ => ?_
    rw [passed, startCursors_getD, cursor_drainReady_of_some b t g filter room h, hcopies, log, h,
      Option.getD_some]

/-- A batch keeps to its limit. -/
theorem length_drainReady : (b.drainReady t g filter room).1.length ≤ room := by
  have hcopies : (b.takenCopies t g room).length ≤ room := by
    rw [takenCopies, takeRetry_taken]
    exact List.length_take_le _ _
  cases h : b.queues? t with
  | none =>
    rw [drainReady_fst_of_none b t g filter room h]
    exact hcopies
  | some slots =>
    have hfresh := takeLogs_length filter (room - (b.takenCopies t g room).length) slots
      (b.startCursors t g slots.length)
    rw [drainReady_fst b t g filter room h, List.length_append]
    omega

/-- A batch that is not full has taken all that was ready. -/
theorem drainReady_short {c : BrokerConfig} (uniform : Uniform c b) (ranged : Ranged c b)
    (h : (b.drainReady t g filter room).1.length < room) :
    (∀ d ∈ ((b.drainReady t g filter room).2.group g).retry, d.message.topic ≠ t) ∧
      ∀ i, (b.log t i).length ≤ (b.drainReady t g filter room).2.cursor t g i := by
  rw [retry_drainReady, if_pos rfl]
  cases hslots : b.queues? t with
  | none =>
    rw [drainReady_fst_of_none b t g filter room hslots] at h
    refine ⟨takeRetry_short h, fun i => ?_⟩
    rw [log, hslots]
    exact Nat.zero_le _
  | some slots =>
    rw [drainReady_fst b t g filter room hslots, List.length_append] at h
    -- the copies alone do not fill the batch, and neither do the logs with what is left of the
    -- room
    refine ⟨takeRetry_short (Nat.lt_of_add_right_lt h), fun i => ?_⟩
    rw [cursor_drainReady_of_some b t g filter room hslots, log, hslots, Option.getD_some]
    refine takeLogs_short (ranged.startCursors t g (uniform.queues t slots hslots)) ?_ i
    omega

/-- Of the group, the retry queue is written and the cursors of the topic. -/
theorem cursors_group_drainReady {t' : String} (h : t' ≠ t) :
    ((b.drainReady t g filter room).2.group g).cursors.find? t' =
      (b.group g).cursors.find? t' := by
  unfold drainReady
  simp only
  split
  · rw [group_of_put rfl, if_pos rfl]
  · rw [group_of_put rfl, if_pos rfl]
    exact (Table.find?_put _ _ _ _).trans (if_neg h.symm)

end Drain

/-- **What a drain does.** In every state that a broker can reach, whatever is drained by whom, with
any filter and any limit:

* the batch keeps to the limit and to the topic;
* it holds the first copies of the topic in the group's retry queue, and then what it took from the
  logs, queue by queue: the entries with a matching tag that the group's cursor passed;
* if it is not full, no copy of the topic is left in the retry queue, and the cursors of the topic stand
  at the ends of their logs;
* the copies that are left keep their order, and none is lost;
* nothing else has changed: neither the other groups, nor the cursors of other topics, nor what is not
  about groups. -/
theorem drain_complete (c : BrokerConfig) (es : List Event) (t g : String) (filter : TagFilter)
    (room : Nat) :
    let b := (ofConfig c).run es
    let batch := (b.drainReady t g filter room).1
    let b' := (b.drainReady t g filter room).2
    let copies := ((b.group g).retry.filter (·.message.topic = t)).take room
    (batch.length ≤ room ∧ ∀ d ∈ batch, d.message.topic = t) ∧
    batch = copies ++ b.freshOf t g filter b' ∧
    (∀ i, b.cursor t g i ≤ b'.cursor t g i ∧ b'.cursor t g i ≤ (b.log t i).length) ∧
    (batch.length < room → (∀ d ∈ (b'.group g).retry, d.message.topic ≠ t) ∧
      ∀ i, b'.cursor t g i = (b'.log t i).length) ∧
    ((b'.group g).retry.Sublist (b.group g).retry ∧
      (copies ++ (b'.group g).retry).Perm (b.group g).retry) ∧
    (∀ g', g' ≠ g → b'.groups.find? g' = b.groups.find? g') ∧
    (∀ t', t' ≠ t → (b'.group g).cursors.find? t' = (b.group g).cursors.find? t') ∧
    b' = { b with groups := b'.groups } := by
  intro b batch b' copies
  have hbatch : batch = copies ++ b.freshOf t g filter b' := drainReady_batch b t g filter room
  have hretry : (b'.group g).retry = (takeRetry t room (b.group g).retry).2 := by
    rw [retry_drainReady, if_pos rfl]
  have hmoved (i : Nat) :
      b.cursor t g i ≤ b'.cursor t g i ∧ b'.cursor t g i ≤ (b.log t i).length := by
    obtain ⟨hle, hmax⟩ := cursor_drainReady b t g filter room i
    exact ⟨hle, hmax.trans (Nat.max_le.mpr ⟨(consumed_run c es t g i).bounded, Nat.le_refl _⟩)⟩
  have htopic : ∀ d ∈ batch, d.message.topic = t := by
    intro d hd
    rw [hbatch, List.mem_append] at hd
    rcases hd with hcopy | hfresh
    · simpa using (List.mem_filter.mp (List.mem_of_mem_take hcopy)).2
    · obtain ⟨i, -, hd⟩ := List.mem_flatMap.mp hfresh
      -- what the cursor passed is an entry of the log
      have hlog := List.mem_of_mem_drop (List.mem_of_mem_take (List.mem_filter.mp hd).1)
      exact (topic_of_held (List.mem_append_left _ hlog)).2
  obtain ⟨s, hs⟩ := drainReady_groups b t g filter room
  refine ⟨⟨length_drainReady b t g filter room, htopic⟩, hbatch, hmoved, ?_, ⟨?_, ?_⟩, ?_,
    fun t' ht => cursors_group_drainReady b t g filter room ht, ?_⟩
  · -- a short batch has left no copy, and every cursor is at the end of its log
    intro hshort
    obtain ⟨hleft, hread⟩ :=
      drainReady_short b t g filter room (uniform_run c es) (ranged_run c es) hshort
    refine ⟨hleft, fun i => ?_⟩
    rw [log_drainReady]
    exact Nat.le_antisymm (hmoved i).2 (hread i)
  · rw [hretry]
    exact takeRetry_left t room _
  · rw [hretry]
    have hperm := takeRetry_perm t room (b.group g).retry
    rwa [takeRetry_taken] at hperm
  · intro g' hg
    have hgroups : b'.groups = b.groups.put g s := congrArg Broker.groups hs
    rw [hgroups, Table.find?_put, if_neg hg.symm]
  · have hgroups : b'.groups = b.groups.put g s := congrArg Broker.groups hs
    rw [hgroups]
    exact hs

end KeyedDelivery.Broker
