import KeyedDelivery.Proofs.Broker.Taking
import Mathlib.Data.List.Basic
import Mathlib.Data.List.Flatten
import Mathlib.Data.List.Induction

/-!
# A group receives every message once

Over any run of a broker, the takes of a group read the log of a queue from its beginning, entry
after entry, and hand over each entry whose tag the take's filter accepts.

* **`Consumed`** — the invariant: the takes of a group so far have examined exactly the indices
  below the cursor, in increasing order, and what they handed over are the matching entries at the
  indices they examined.
* **`consumed_run`** — it holds after every run. Events other than the group's own takes leave the
  cursor where it is and the log below it as it is; a take adds the next stretch of the log.
-/

namespace KeyedDelivery.Broker

/-! ## One event -/

/-- Every event but a take extends the broker. -/
theorem extends_apply (b : Broker) (e : Event) (h : b.took e = none) : Extends b (b.apply e) := by
  cases e with
  | createTopic topic => exact extends_createTopic b topic
  | askQueues topic =>
    rw [apply, queueNames_snd]
    exact extends_openTopic b topic
  | failSends n => exact extends_of_eq rfl rfl
  | accept now m queue => exact extends_accept b now m queue
  | promote now => exact extends_promoteDue b now
  | redeliver now g d level => exact extends_of_eq rfl rfl
  -- the two events that take something are not among them
  | take => simp [took] at h
  | drain => simp [took] at h

/-- Every event keeps deliveries where they belong. -/
theorem Filed.apply {b : Broker} (filed : Filed b) (e : Event) : Filed (b.apply e) := by
  cases e with
  | createTopic topic => exact filed.createTopic topic
  | askQueues topic =>
    rw [Broker.apply, queueNames_snd]
    exact filed.openTopic topic
  | failSends n => exact filed.of_eq (fun _ _ => log_congr rfl _ _) rfl rfl
  | accept now m queue => exact filed.accept now m queue
  | promote now => exact filed.promoteDue now
  | redeliver now g d level => exact filed.scheduleRedelivery now g d level
  | take now t g filter => exact (filed.promoteDue now).drainReady t g filter _
  | drain t g filter room => exact filed.drainReady t g filter room

/-- **What a take is.** The broker is extended first, by promoting what is due or not at all, and
then drained; what is recorded are the cursors before and after the draining, and the batch. -/
theorem took_cases {b : Broker} {e : Event} {k : Take} (h : b.took e = some k) (filed : Filed b) :
    ∃ b' room, Extends b b' ∧ Filed b' ∧
      k = b'.recordTake k.topic k.group k.filter (b'.drainReady k.topic k.group k.filter room) ∧
      b.apply e = (b'.drainReady k.topic k.group k.filter room).2 := by
  cases e with
  | take now t g filter =>
    -- a take lets what is due become ready first, and then it drains
    have hextends := extends_promoteDue b now
    have hk := (Option.some.inj h).symm
    subst hk
    refine ⟨b.promoteDue now, b.config.batchMax, hextends, filed.promoteDue now, ?_, rfl⟩
    simp only [recordTake, hextends.cursors]
    rfl
  | drain t g filter room =>
    have hk := (Option.some.inj h).symm
    subst hk
    exact ⟨b, room, .refl b, filed, rfl, rfl⟩
  | createTopic => simp [took] at h
  | askQueues => simp [took] at h
  | failSends => simp [took] at h
  | accept => simp [took] at h
  | promote => simp [took] at h
  | redeliver => simp [took] at h

/-! ## Stretches of a log -/

/-- The entries at consecutive indices are a stretch of the list. -/
theorem filterMap_range' {α : Type} (l : List α) (c n : Nat) (h : c + n ≤ l.length) :
    (List.range' c n).filterMap (l[·]?) = (l.drop c).take n := by
  induction n generalizing c with
  | zero => simp
  | succ n ih =>
    have hc : c < l.length := by omega
    rw [List.range'_succ, List.filterMap_cons_some (List.getElem?_eq_getElem hc),
      ih (c + 1) (by omega), List.drop_eq_getElem_cons hc, List.take_succ_cons]

/-- What a take examined in a log is not changed by what is appended to the log later. -/
theorem Take.matching_prefix (k : Take) (i : Nat) {log log' : List Delivery} (h : log <+: log')
    (hinside : ∀ j ∈ k.examined i, j < log.length) : k.matching i log' = k.matching i log := by
  unfold Take.matching
  congr 1
  obtain ⟨more, rfl⟩ := h
  refine List.filterMap_congr fun j hj => ?_
  exact List.getElem?_append_left (hinside j hj)

/-! ## The invariant -/

/-- What the takes `ks` of a group on a topic have done with queue number `i`: they examined the
entries below the cursor, each once and in increasing order, and handed over what matched. -/
structure Consumed (b : Broker) (t g : String) (i : Nat) (ks : List Take) : Prop where
  bounded : b.cursor t g i ≤ (b.log t i).length
  examined : ks.flatMap (·.examined i) = List.range (b.cursor t g i)
  handed : ∀ k ∈ ks, k.fresh i = k.matching i (b.log t i)

namespace Consumed

variable {b b' : Broker} {t g : String} {i : Nat} {ks : List Take}

/-- What a take has examined lies inside the log. -/
theorem inside (h : Consumed b t g i ks) {k : Take} (hk : k ∈ ks) :
    ∀ j ∈ k.examined i, j < (b.log t i).length := by
  intro j hj
  have hmem : j ∈ ks.flatMap (·.examined i) := List.mem_flatMap.mpr ⟨k, hk, hj⟩
  rw [h.examined, List.mem_range] at hmem
  exact Nat.lt_of_lt_of_le hmem h.bounded

/-- While the cursor stays where it is, the log may grow. -/
theorem mono (h : Consumed b t g i ks) (hlog : b.log t i <+: b'.log t i)
    (hcursor : b'.cursor t g i = b.cursor t g i) : Consumed b' t g i ks where
  bounded := by
    rw [hcursor]
    exact Nat.le_trans h.bounded hlog.length_le
  examined := by rw [hcursor, h.examined]
  handed k hk := by rw [h.handed k hk, k.matching_prefix i hlog (h.inside hk)]

/-- A take of the group adds the stretch of the log that its cursor passes. -/
theorem drain (h : Consumed b t g i ks) (filed : Filed b) (filter : TagFilter) (room : Nat) :
    Consumed (b.drainReady t g filter room).2 t g i
      (ks ++ [b.recordTake t g filter (b.drainReady t g filter room)]) := by
  obtain ⟨hle, hmax⟩ := cursor_drainReady b t g filter room i
  have hbound : (b.drainReady t g filter room).2.cursor t g i ≤ (b.log t i).length :=
    Nat.le_trans hmax (Nat.max_le.mpr ⟨h.bounded, Nat.le_refl _⟩)
  set k := b.recordTake t g filter (b.drainReady t g filter room) with hk
  have hexamined : k.examined i = List.range' (b.cursor t g i)
      ((b.drainReady t g filter room).2.cursor t g i - b.cursor t g i) := rfl
  refine ⟨by rwa [log_drainReady], ?_, ?_⟩
  · -- the cursor moves from the end of what was examined before
    rw [List.flatMap_append, h.examined, List.flatMap_singleton, hexamined, List.range_eq_range',
      List.range_eq_range']
    have happend := List.range'_append_1 (s := 0) (m := b.cursor t g i)
      (n := (b.drainReady t g filter room).2.cursor t g i - b.cursor t g i)
    rw [Nat.zero_add] at happend
    rw [happend, Nat.add_sub_cancel' hle]
  · intro k' hk'
    rw [log_drainReady]
    rcases List.mem_append.mp hk' with hk' | hk'
    · exact h.handed k' hk'
    · rw [List.mem_singleton.mp hk']
      rw [Take.matching, hexamined, filterMap_range' _ _ _ (by omega)]
      exact fresh_drainReady b t g filter room filed i

end Consumed

/-! ## Runs -/

/-- One more event comes after the run. -/
theorem run_concat (b : Broker) (es : List Event) (e : Event) :
    b.run (es ++ [e]) = (b.run es).apply e := by
  unfold run
  rw [List.foldl_append]
  rfl

/-- One more event adds its take, if it is one. -/
theorem takes_concat (b : Broker) (es : List Event) (e : Event) :
    b.takes (es ++ [e]) = b.takes es ++ ((b.run es).took e).toList := by
  induction es generalizing b with
  | nil => simp [takes, run]
  | cons e' es ih => rw [List.cons_append, takes, ih, takes, List.append_assoc]; rfl

/-- The logs hold first deliveries after every run. -/
theorem filed_run (c : BrokerConfig) (es : List Event) : Filed ((ofConfig c).run es) :=
  List.foldlRecOn es apply (Filed.ofConfig c) fun _ h e _ => h.apply e

/-- The takes of a group on a topic after one more event: a take of this group on this topic is
added, and anything else leaves them. -/
theorem takesOf_concat (b : Broker) (es : List Event) (e : Event) (t g : String) :
    b.takesOf (es ++ [e]) t g = b.takesOf es t g ++
      ((b.run es).took e).toList.filter fun k => k.topic == t && k.group == g := by
  unfold takesOf
  rw [takes_concat, List.filter_append]

/-- **The invariant holds after every run.** -/
theorem consumed_run (c : BrokerConfig) (es : List Event) (t g : String) (i : Nat) :
    Consumed ((ofConfig c).run es) t g i ((ofConfig c).takesOf es t g) := by
  induction es using List.reverseRecOn with
  | nil =>
    refine ⟨Nat.zero_le _, rfl, ?_⟩
    intro k hk
    cases hk
  | append_singleton es e ih =>
    have filed := filed_run c es
    rw [run_concat, takesOf_concat]
    generalize (ofConfig c).run es = b at ih filed
    cases htook : b.took e with
    | none =>
      -- not a take: logs grow at their ends at most, and the cursor stays
      have hextends := extends_apply b e htook
      simpa using ih.mono (hextends.logs t i) (hextends.cursor t g i)
    | some k =>
      -- what a take promotes before it drains is a change of the same kind
      obtain ⟨b', room, hextends, filed', hk, happly⟩ := took_cases htook filed
      have hpromoted := ih.mono (hextends.logs t i) (hextends.cursor t g i)
      rw [happly]
      by_cases hmine : k.topic = t ∧ k.group = g
      · obtain ⟨rfl, rfl⟩ := hmine
        have hdrained := hpromoted.drain filed' k.filter room
        rw [← hk] at hdrained
        simpa using hdrained
      · -- a take of another group, or on another topic
        have hcursor := cursors_drainReady_of_ne b' k.topic k.group k.filter room hmine
        have hother : (k.topic == t && k.group == g) = false := by simpa using hmine
        simp only [Option.toList_some, List.filter_cons, hother, Bool.false_eq_true, if_false,
          List.filter_nil, List.append_nil]
        have hlog := log_drainReady b' k.topic k.group k.filter room t i
        refine hpromoted.mono ?_ ?_
        · exact hlog ▸ List.prefix_rfl
        · rw [cursor, cursor, hcursor]

/-- The entries that the takes of a group examined, one take after the other, are those below the
cursor, in the order of the log. -/
theorem Consumed.read {b : Broker} {t g : String} {i : Nat} {ks : List Take}
    (h : Consumed b t g i ks) :
    ks.flatMap (fun k => (k.examined i).filterMap ((b.log t i)[·]?)) =
      (b.log t i).take (b.cursor t g i) := by
  rw [← List.filterMap_flatMap, h.examined, List.range_eq_range',
    filterMap_range' _ _ _ (by rw [Nat.zero_add]; exact h.bounded), List.drop_zero]

/-- What the takes of a group handed over from a queue, one take after the other, are entries of the
log below the cursor, in the order of the log. -/
theorem Consumed.matching_sublist {b : Broker} {t g : String} {i : Nat} {ks : List Take}
    (h : Consumed b t g i ks) :
    (ks.flatMap (·.matching i (b.log t i))).Sublist ((b.log t i).take (b.cursor t g i)) := by
  rw [← h.read]
  exact List.Sublist.flatMap_right ks fun k _ => List.filter_sublist

/-- **A group receives every message of a queue once, in order.** After any run of any broker, the
takes of a group on a topic, whichever clients made them and with whichever filters, have examined
the entries of a queue's log from the first to the one before the cursor, each by one take and in
increasing order; and the first deliveries that they handed over from the queue, put one after the
other, are the entries that matched the filter of the take that examined them, in the order of the
log. -/
theorem first_deliveries_exact (c : BrokerConfig) (es : List Event) (t g : String) (i : Nat) :
    let b := (ofConfig c).run es
    let ks := (ofConfig c).takesOf es t g
    b.cursor t g i ≤ (b.log t i).length ∧
    ks.flatMap (·.examined i) = List.range (b.cursor t g i) ∧
    ks.flatMap (·.fresh i) = ks.flatMap (·.matching i (b.log t i)) ∧
    (ks.flatMap (·.fresh i)).Sublist ((b.log t i).take (b.cursor t g i)) := by
  intro b ks
  have h : Consumed b t g i ks := consumed_run c es t g i
  -- take by take, what was handed over are the matching entries among the examined ones
  have hhanded : ks.flatMap (·.fresh i) = ks.flatMap (·.matching i (b.log t i)) :=
    List.flatMap_congr h.handed
  refine ⟨h.bounded, h.examined, hhanded, ?_⟩
  rw [hhanded]
  exact h.matching_sublist

end KeyedDelivery.Broker
