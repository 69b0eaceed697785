import KeyedDelivery.Proofs.Broker.Logs

/-!
# What one take reads and hands over

The loops of a take, from the inside out.

* **`takeRetry_taken`** — out of a retry queue, a take hands over the first copies of its topic.
* **`takeLog_taken`** — from one log, a take hands over the entries with a matching tag among those
  it read.
* **`takeLogs_taken`** — from all queues of a topic, it hands over what it took from each queue, one
  queue after the other, each from where the cursor stood to where it stands afterwards.
* **`fresh_drainReady`** — the first deliveries of one queue that are in a batch are the entries
  with a matching tag among those that the cursor of this queue passed.
-/

namespace KeyedDelivery.Broker

/-! ## The retry queue -/

/-- The copies that are taken and those that are left are together the copies there were. -/
theorem takeRetry_perm (topic : String) (room : Nat) (ds : List Delivery) :
    ((takeRetry topic room ds).1 ++ (takeRetry topic room ds).2).Perm ds := by
  fun_induction takeRetry topic room ds with
  | case1 => exact .refl _
  | case2 => exact .refl _
  -- taken, in front of the others
  | case3 room d ds htopic taken left hrest ih =>
    rw [hrest] at ih
    exact ih.cons d
  -- left, behind all that is taken
  | case4 room d ds htopic taken left hrest ih =>
    rw [hrest] at ih
    exact List.perm_middle.trans (ih.cons d)

/-- **The first loop takes the first copies of the topic**, as many as there is room for. Induction
along the loop. -/
theorem takeRetry_taken (t : String) (room : Nat) (ds : List Delivery) :
    (takeRetry t room ds).1 = (ds.filter (·.message.topic = t)).take room := by
  fun_induction takeRetry t room ds with
  | case1 => simp
  | case2 => simp
  -- the copy is of the topic and is taken
  | case3 room d ds htopic taken left hrest ih =>
    simp only [hrest] at ih
    simp [htopic, ih]
  -- the copy is of another topic and stays
  | case4 room d ds htopic taken left hrest ih =>
    simp only [hrest] at ih
    simp [htopic, ih]

/-! ## One log -/

/-- A take reads no further than to the end of a log. -/
theorem takeLog_le (filter : TagFilter) (room : Nat) (ds : List Delivery) :
    (takeLog filter room ds).2 ≤ ds.length := by
  fun_induction takeLog filter room ds with
  | case1 => exact Nat.le_refl _
  | case2 => exact Nat.zero_le _
  | case3 room d ds _ taken n hrest ih =>
    rw [hrest] at ih
    exact Nat.succ_le_succ ih
  | case4 room d ds _ taken n hrest ih =>
    rw [hrest] at ih
    exact Nat.succ_le_succ ih

/-- What is taken from a log are the entries with a matching tag among those that were read. -/
theorem takeLog_taken (filter : TagFilter) (room : Nat) (ds : List Delivery) :
    (takeLog filter room ds).1 =
      (ds.take (takeLog filter room ds).2).filter (filter.accepts ·.message.tag) := by
  fun_induction takeLog filter room ds with
  | case1 => rfl
  | case2 => rfl
  | case3 room d ds htag taken n hrest ih =>
    simp only [hrest] at ih
    simp only [List.take_succ_cons, List.filter_cons, htag, if_true, ih]
  -- an entry with another tag is read and not handed over
  | case4 room d ds htag taken n hrest ih =>
    simp only [hrest] at ih
    simp only [List.take_succ_cons, List.filter_cons, htag, if_false, ih, Bool.false_eq_true]

/-! ## All queues of a topic -/

/-- A cursor moves forward, inside its log. -/
theorem takeLogs_cursor (filter : TagFilter) (room : Nat) (qs : List QueueLog) (cs : List Nat)
    (i : Nat) :
    cs.getD i 0 ≤ (takeLogs filter room qs cs).2.getD i 0 ∧
      (takeLogs filter room qs cs).2.getD i 0 ≤ max (cs.getD i 0) (qs.getD i {}).log.length := by
  fun_induction takeLogs filter room qs cs generalizing i with
  | case1 room q qs c cs taken n hlog more cursors hrest ih =>
    cases i with
    -- the cursor of the first log, which moves by what was read of it
    | zero =>
      have hn := takeLog_le filter room (q.log.drop c)
      rw [hlog, List.length_drop] at hn
      simp only [List.getD_cons_zero]
      omega
    | succ i =>
      rw [hrest] at ih
      simpa only [List.getD_cons_succ] using ih i
  | case2 => exact ⟨Nat.le_refl _, Nat.le_max_left _ _⟩

/-- What is taken from queue number `i` of some queues: the entries with a matching tag from one
cursor to another. -/
def passed (filter : TagFilter) (qs : List QueueLog) (start stop : List Nat) (i : Nat) :
    List Delivery :=
  (((qs.getD i {}).log.drop (start.getD i 0)).take (stop.getD i 0 - start.getD i 0)).filter
    (filter.accepts ·.message.tag)

/-- What was passed in the first of the logs, and in the ones behind it. -/
theorem passed_zero (filter : TagFilter) (q : QueueLog) (qs : List QueueLog) (c c' : Nat)
    (cs cs' : List Nat) :
    passed filter (q :: qs) (c :: cs) (c' :: cs') 0 =
      ((q.log.drop c).take (c' - c)).filter (filter.accepts ·.message.tag) := rfl

theorem passed_succ (filter : TagFilter) (q : QueueLog) (qs : List QueueLog) (c c' : Nat)
    (cs cs' : List Nat) (i : Nat) :
    passed filter (q :: qs) (c :: cs) (c' :: cs') (i + 1) = passed filter qs cs cs' i := rfl

/-- What is taken from the queues of a topic is what is taken from each, one after the other. -/
theorem takeLogs_taken (filter : TagFilter) (room : Nat) (qs : List QueueLog) (cs : List Nat) :
    (takeLogs filter room qs cs).1 =
      (List.range qs.length).flatMap (passed filter qs cs (takeLogs filter room qs cs).2) := by
  fun_induction takeLogs filter room qs cs with
  | case1 room q qs c cs taken n hlog more cursors hrest ih =>
    have htaken := takeLog_taken filter room (q.log.drop c)
    simp only [hlog] at htaken
    simp only [hrest] at ih
    -- the first queue gives `taken`, and the others are numbered one higher than in `ih`
    simp only [List.length_cons, List.range_succ_eq_map, List.flatMap_cons, List.flatMap_map]
    simp only [passed_zero, passed_succ, Nat.add_sub_cancel_left]
    rw [ih, htaken]
  | case2 room qs cs hne =>
    -- one of the lists is empty, so that no cursor moves
    simp [passed]

/-- Of pieces that are laid one after the other, those that `p` picks out are piece number `i`. -/
theorem filter_flatMap_range {α : Type} (p : α → Bool) (pieces : Nat → List α) (n i : Nat)
    (hout : n ≤ i → pieces i = [])
    (hpieces : ∀ j, (pieces j).filter p = if j = i then pieces i else []) :
    ((List.range n).flatMap pieces).filter p = pieces i := by
  rw [List.filter_flatMap]
  simp only [hpieces]
  induction n with
  | zero => simp [hout (Nat.zero_le i)]
  | succ n ih =>
    rw [List.range_succ, List.flatMap_append, List.flatMap_singleton]
    by_cases hi : n = i
    · -- the last piece is number `i`, so that none before it is
      have hbelow : (List.range n).flatMap (fun j => if j = i then pieces i else []) = [] := by
        rw [List.flatMap_eq_nil_iff]
        intro j hj
        rw [if_neg (Nat.ne_of_lt (hi ▸ List.mem_range.mp hj))]
      rw [hbelow, if_pos hi, List.nil_append]
    · rw [if_neg hi, List.append_nil]
      exact ih fun hn => hout (by omega)

/-! ## A batch -/

section Drain

variable (b : Broker) (t g : String) (filter : TagFilter) (room : Nat)

/-- Nothing is written but the state of the group. -/
theorem drainReady_groups : ∃ s, (b.drainReady t g filter room).2 =
    { b with groups := b.groups.put g s } := by
  unfold drainReady
  simp only
  split
  · exact ⟨_, rfl⟩
  · exact ⟨_, rfl⟩

/-- So a take leaves all topics, with their logs, as they are. -/
theorem topics_drainReady : (b.drainReady t g filter room).2.topics = b.topics := by
  obtain ⟨s, h⟩ := drainReady_groups b t g filter room
  rw [h]

theorem log_drainReady (t' : String) (i : Nat) :
    (b.drainReady t g filter room).2.log t' i = b.log t' i := by
  rw [log, log, queues?, queues?, topics_drainReady]

/-- A batch is not taken off the schedule. -/
theorem scheduled_drainReady : (b.drainReady t g filter room).2.scheduled = b.scheduled := by
  obtain ⟨s, h⟩ := drainReady_groups b t g filter room
  rw [h]

/-- The retry queues after a take: its group has left what the take did not reach. -/
theorem retry_drainReady (g' : String) :
    ((b.drainReady t g filter room).2.group g').retry =
      if g = g' then (takeRetry t room (b.group g).retry).2 else (b.group g').retry := by
  unfold drainReady
  simp only
  split <;> rw [group_of_put rfl] <;> split <;> rfl

/-- A take moves no cursor but those of its group on its topic. -/
theorem cursors_drainReady_of_ne {t' g' : String} (h : ¬(t = t' ∧ g = g')) :
    (b.drainReady t g filter room).2.cursors t' g' = b.cursors t' g' := by
  unfold drainReady cursors
  simp only
  split
  · rw [group_of_put rfl]
    split
    · next hg => rw [hg]
    · rfl
  · rw [group_of_put rfl]
    split
    · next hg =>
      -- the same group, and so another topic
      have ht : t ≠ t' := fun ht => h ⟨ht, hg⟩
      simp only [Table.find?_put, if_neg ht]
      rw [hg]
    · rfl

/-- Where a group begins to read a topic with `n` queues. -/
def startCursors (n : Nat) : List Nat :=
  ((b.group g).cursors.find? t).getD (List.replicate n 0)

/-- A cursor that a take has to make has read nothing, as a missing one. -/
theorem startCursors_getD (n i : Nat) : (b.startCursors t g n).getD i 0 = b.cursor t g i := by
  unfold startCursors cursor cursors
  cases (b.group g).cursors.find? t with
  | none =>
    simp only [Option.getD_none, List.getD_eq_getElem?_getD, List.getElem?_replicate]
    split <;> rfl
  | some cs => rfl

/-- The copies of a topic that a take hands over. -/
def takenCopies : List Delivery := (takeRetry t room (b.group g).retry).1

/-- A take of a topic with queues hands over copies, and then what it takes from the logs. -/
theorem drainReady_fst {slots : List QueueLog} (h : b.queues? t = some slots) :
    (b.drainReady t g filter room).1 = b.takenCopies t g room ++
      (takeLogs filter (room - (b.takenCopies t g room).length) slots
        (b.startCursors t g slots.length)).1 := by
  unfold drainReady
  simp only [h]
  rfl

/-- Its cursors are left where the reading stopped. -/
theorem cursor_drainReady_of_some {slots : List QueueLog} (h : b.queues? t = some slots) (i : Nat) :
    (b.drainReady t g filter room).2.cursor t g i =
      (takeLogs filter (room - (b.takenCopies t g room).length) slots
        (b.startCursors t g slots.length)).2.getD i 0 := by
  unfold drainReady cursor cursors
  simp only [h]
  rw [group_of_put rfl, if_pos rfl, Table.find?_put_self]
  rfl

/-- A take of a topic that is not there hands over copies only. -/
theorem drainReady_fst_of_none (h : b.queues? t = none) :
    (b.drainReady t g filter room).1 = b.takenCopies t g room := by
  unfold drainReady
  simp only [h]
  rfl

/-- A topic that is not there has no cursor to move. -/
theorem cursor_drainReady_of_none (h : b.queues? t = none) (i : Nat) :
    (b.drainReady t g filter room).2.cursor t g i = b.cursor t g i := by
  unfold drainReady cursor cursors
  simp only [h]
  rw [group_of_put rfl, if_pos rfl]

/-- A cursor moves forward, and not past the end of its log. -/
theorem cursor_drainReady (i : Nat) :
    b.cursor t g i ≤ (b.drainReady t g filter room).2.cursor t g i ∧
      (b.drainReady t g filter room).2.cursor t g i ≤
        max (b.cursor t g i) (b.log t i).length := by
  cases h : b.queues? t with
  | none =>
    rw [cursor_drainReady_of_none b t g filter room h]
    exact ⟨Nat.le_refl _, Nat.le_max_left _ _⟩
  | some slots =>
    -- a group that has not read the topic begins with cursors at zero
    have hmoved := takeLogs_cursor filter (room - (b.takenCopies t g room).length) slots
      (b.startCursors t g slots.length) i
    rw [startCursors_getD] at hmoved
    rw [cursor_drainReady_of_some b t g filter room h]
    simpa only [log, h, Option.getD_some] using hmoved

/-- **The first deliveries in a batch.** Those of one queue are the entries with a matching tag
among those that the cursor of this queue passed, in the order of the log. -/
theorem fresh_drainReady (filed : Filed b) (i : Nat) :
    (b.drainReady t g filter room).1.filter (·.isFirstOf t i) =
      (((b.log t i).drop (b.cursor t g i)).take
        ((b.drainReady t g filter room).2.cursor t g i - b.cursor t g i)).filter
          (filter.accepts ·.message.tag) := by
  -- no copy is a first delivery
  have hcopies : (b.takenCopies t g room).filter (·.isFirstOf t i) = [] := by
    rw [List.filter_eq_nil_iff]
    intro d hd
    have hmem := (takeRetry_perm t room (b.group g).retry).mem_iff.mp (List.mem_append_left _ hd)
    simp [Delivery.isFirstOf, filed.retries g d hmem]
  cases h : b.queues? t with
  | none =>
    rw [drainReady_fst_of_none b t g filter room h, hcopies]
    simp [log, h]
  | some slots =>
    rw [drainReady_fst b t g filter room h, cursor_drainReady_of_some b t g filter room h,
      List.filter_append, hcopies, List.nil_append, takeLogs_taken]
    generalize (takeLogs filter (room - (b.takenCopies t g room).length) slots
      (b.startCursors t g slots.length)).2 = stop
    have hlog : ∀ j, (slots.getD j {}).log = b.log t j := by
      intro j
      rw [log, h, Option.getD_some]
    rw [filter_flatMap_range (i := i)]
    · rw [passed, hlog, startCursors_getD]
    · intro hi
      simp [passed, List.getElem?_eq_none hi]
    · intro j
      split
      · next hj =>
        -- all that was taken from queue `i` is a first delivery of it
        subst hj
        refine List.filter_eq_self.mpr fun d hd => filed.logs t j d ?_
        rw [← hlog]
        exact List.mem_of_mem_drop (List.mem_of_mem_take (List.mem_filter.mp hd).1)
      · next hj =>
        -- and nothing that was taken from another queue
        refine List.filter_eq_nil_iff.mpr fun d hd hfirst => hj ?_
        have hlogged := filed.logs t j d (by
          rw [← hlog]
          exact List.mem_of_mem_drop (List.mem_of_mem_take (List.mem_filter.mp hd).1))
        simp only [Delivery.isFirstOf, Bool.and_eq_true, beq_iff_eq] at hfirst hlogged
        rw [← hlogged.2, hfirst.2]

end Drain

/-- Taking a batch keeps deliveries where they belong. -/
theorem Filed.drainReady {b : Broker} (filed : Filed b) (t g : String) (filter : TagFilter)
    (room : Nat) : Filed (b.drainReady t g filter room).2 where
  logs t' i d hd := filed.logs t' i d (by rwa [log_drainReady] at hd)
  schedule s hs := filed.schedule s (by rwa [scheduled_drainReady] at hs)
  retries g' d hd := by
    rw [retry_drainReady] at hd
    split at hd
    · exact filed.retries g d
        ((takeRetry_perm t room (b.group g).retry).mem_iff.mp (List.mem_append_right _ hd))
    · exact filed.retries g' d hd

end KeyedDelivery.Broker
