import KeyedDelivery.Proofs.Pool.Replies

/-!
# What a handle stands for

* **`Condition`** — what can become of a submitted task; **`Stands`** says when a task is in each
  condition, by what happened to its job, without the channels and the counters.
* **`Replied`** — what is known of the channels and the counters of a pool by the notes of its run and
  the jobs that ended. **`Replied.step`** keeps it.
* **`handles_settled`** — every handle is in exactly one condition, finds what it stands for, and the
  counters count the handles of each kind.
-/

namespace KeyedDelivery.WorkerPool

open scoped List

variable {τ ρ : Type} {p q : WorkerPool τ ρ} {ns : List (Note τ)}

/-! ## Conditions -/

/-- What can become of a submitted task. -/
inductive Condition (ρ : Type) where
  | pending
  | value (v : ρ)
  | panicked (message : String)
  | discarded

/-- What the handle of a task in this condition finds; `none` means that it has to wait. -/
def Condition.found : Condition ρ → Option (Except TaskError ρ)
  | .pending => none
  | .value v => some (.ok v)
  | .panicked m => some (.error (.panicked m))
  | .discarded => some (.error .discarded)

/-- The jobs that ended in a run, in order, and how each ended. -/
def endings (p : WorkerPool τ ρ) (is : List (Incident τ ρ)) : List (Job τ × Outcome ρ) :=
  Runs.noted undergo (fun p i => (p.ending? i).toList) p is

/-- What it is for the task of a number to be in a condition after a run that led to `p`. -/
def Stands (c : PoolConfig) (is : List (Incident τ ρ)) (p : WorkerPool τ ρ) (k : Nat) :
    Condition ρ → Prop
  | .pending => ∃ j ∈ p.queue ++ p.running, j.number = k
  | .value v => HasBegun (chronicle { config := c } is) k ∧
      ∃ j, (j, .returned v) ∈ endings { config := c } is ∧ j.number = k
  | .panicked m => HasBegun (chronicle { config := c } is) k ∧
      ∃ j payload, (j, .panicked payload) ∈ endings { config := c } is ∧ j.number = k ∧
        payload.message = m
  | .discarded => (∃ j ∈ (chronicle { config := c } is).filterMap Note.discarded?, j.number = k) ∧
      ∀ later q, p.undergoAll later = some q → ¬ HasBegun (chronicle { config := c } (is ++ later)) k

/-! ## What is known of the channels -/

/-- What is known of the channels and the counters of a pool, by the notes of its run and the jobs
that ended. -/
structure Replied (ns : List (Note τ)) (ends : List (Job τ × Outcome ρ)) (s : ReplyPool τ ρ) :
    Prop where
  ran : (ns.filterMap Note.begun?).Perm (s.pool.running ++ ends.map (·.1))
  sent : ∀ k fate, s.sent.find? k = some fate ↔ ∃ e ∈ ends, e.1.number = k ∧ fateOf e.2 = fate
  fates : ∀ k, s.pool.fates.find? k =
    if k ∈ (ns.filterMap Note.discarded?).map (·.number) then some (.error .discarded)
    else s.sent.find? k
  completed : s.pool.completed = ends.countP (·.2.isReturned)
  panicked : s.pool.panicked = ends.countP (! ·.2.isReturned)
  discarded : s.pool.discarded = (ns.filterMap Note.discarded?).length
  rejected : s.pool.rejected = s.answers.countP isRejection
  answered : ((ns.filterMap Note.offered?).map (·.number)).Perm
    (s.handles ++ (ns.filterMap Note.refused?).map (·.number))

section Replied

variable {ends : List (Job τ × Outcome ρ)} {s t : ReplyPool τ ρ}

/-- The queued jobs, those that run, those that ended and those that were discarded are all different
ones. -/
theorem distinct_of_ran (told : Told ns p)
    (ran : (ns.filterMap Note.begun?).Perm (p.running ++ ends.map (·.1))) :
    ((p.queue ++ p.running).map (·.number) ++ ends.map (·.1.number) ++
      (ns.filterMap Note.discarded?).map (·.number)).Nodup := by
  have hnodup := told.placed.nodup_iff.mpr List.nodup_range
  have hran := ran.map (·.number)
  refine List.Nodup.sublist (List.sublist_append_left _
    ((ns.filterMap Note.refused?).map (·.number))) ?_
  refine (List.Perm.nodup_iff (List.perm_iff_count.mpr fun k => ?_)).mp hnodup
  have hcount := hran.count_eq k
  simp only [List.map_append, List.map_map, Function.comp_def, List.count_append] at hcount ⊢
  omega

/-- What is sent for a job that ends: no job ended before it. -/
theorem find?_sent {sent : Table Nat (Except TaskError ρ)}
    (hsent : ∀ k fate, sent.find? k = some fate ↔ ∃ e ∈ ends, e.1.number = k ∧ fateOf e.2 = fate)
    {ended : Option (Job τ × Outcome ρ)}
    (distinct : ((ends ++ ended.toList).map (·.1.number)).Nodup) (k : Nat)
    (fate : Except TaskError ρ) :
    (ended.elim sent fun e => sent.put e.1.number (fateOf e.2)).find? k = some fate ↔
      ∃ e ∈ ends ++ ended.toList, e.1.number = k ∧ fateOf e.2 = fate := by
  cases ended with
  | none => simpa using hsent k fate
  | some e =>
    rw [Option.elim_some, Option.toList_some, Table.find?_put]
    by_cases hk : e.1.number = k
    · -- every job ends once, so an earlier entry is not overwritten
      have hnew : ∀ e' ∈ ends, e'.1.number ≠ k := by
        intro e' he'
        rw [Option.toList_some, List.map_append] at distinct
        exact hk ▸ (List.nodup_append.mp distinct).2.2 _ (List.mem_map_of_mem he') _
          (List.mem_singleton_self _)
      rw [if_pos hk, Option.some.injEq]
      constructor
      · exact fun hfate => ⟨e, by simp, hk, hfate⟩
      · rintro ⟨e', he', heq, hfate⟩
        rcases List.mem_append.mp he' with he' | he'
        · exact absurd heq (hnew e' he')
        · exact List.mem_singleton.mp he' ▸ hfate
    · rw [if_neg hk, hsent]
      simp [or_and_right, exists_or, hk]

/-- What is recorded when a job ends and others are dropped, besides those that were discarded
before. -/
theorem find?_recorded {fates sent : Table Nat (Except TaskError ρ)} {discarded : List Nat}
    (hfates : ∀ k, fates.find? k =
      if k ∈ discarded then some (.error .discarded) else sent.find? k)
    {ended : Option (Job τ × Outcome ρ)} (apart : ∀ e ∈ ended, e.1.number ∉ discarded)
    (dropped : List (Job τ)) (k : Nat) :
    (dropAll (ended.elim fates fun e => fates.put e.1.number (fateOf e.2)) dropped).find? k =
      if k ∈ discarded ++ dropped.map (·.number) then some (.error .discarded)
      else (ended.elim sent fun e => sent.put e.1.number (fateOf e.2)).find? k := by
  -- what ended is recorded before what is dropped
  have hended : (ended.elim fates fun e => fates.put e.1.number (fateOf e.2)).find? k =
      if k ∈ discarded then some (.error .discarded)
      else (ended.elim sent fun e => sent.put e.1.number (fateOf e.2)).find? k := by
    cases ended with
    | none => exact hfates k
    | some e =>
      simp only [Option.elim_some, Table.find?_put, hfates]
      by_cases hk : e.1.number = k
      · rw [if_pos hk, if_pos hk, if_neg (hk ▸ apart e rfl)]
      · rw [if_neg hk, if_neg hk]
  rw [find?_dropAll, hended]
  -- a dropped job overwrites whatever was there
  by_cases hmem : k ∈ dropped.map (·.number)
  · rw [if_pos hmem, if_pos (List.mem_append_right _ hmem)]
  · rw [if_neg hmem]
    simp only [List.mem_append, hmem, or_false]

namespace Replied

theorem start (c : PoolConfig) : Replied [] [] ({ pool := { config := c } } : ReplyPool τ ρ) where
  ran := .refl _
  sent k fate := by simp
  fates k := rfl
  completed := rfl
  panicked := rfl
  discarded := rfl
  rejected := rfl
  answered := .refl _

/-- **One more incident.** -/
theorem step (replied : Replied ns ends s) (told : Told ns s.pool) (sound : Sound s.pool)
    {i : Incident τ ρ} (h : s.step i = some t) :
    Replied (ns ++ s.pool.notes i) (ends ++ (s.pool.ending? i).toList) t := by
  obtain ⟨q, hq, rfl⟩ := Option.map_eq_some_iff.mp h
  have told' : Told (ns ++ s.pool.notes i) q := told.handled (handled_of_undergo sound hq)
  have dealt := dealt_of_undergo sound hq
  generalize s.pool.notes i = news, s.pool.ending? i = ended, s.pool.answer? i = answer
    at told' dealt
  have ran : ((ns ++ news).filterMap Note.begun?).Perm
      (q.running ++ (ends ++ ended.toList).map (·.1)) := by
    rw [List.filterMap_append, List.map_append]
    calc ns.filterMap Note.begun? ++ news.filterMap Note.begun?
      _ ~ s.pool.running ++ ends.map (·.1) ++ news.filterMap Note.begun? :=
        replied.ran.append_right _
      _ ~ s.pool.running ++ news.filterMap Note.begun? ++ ends.map (·.1) := by
        simp only [List.append_assoc]
        exact List.perm_append_comm.append_left _
      _ ~ q.running ++ ended.toList.map (·.1) ++ ends.map (·.1) := dealt.ran.append_right _
      _ ~ q.running ++ (ends.map (·.1) ++ ended.toList.map (·.1)) := by
        simp only [List.append_assoc]
        exact List.perm_append_comm.append_left _
  have distinct := distinct_of_ran told' ran
  refine ⟨ran, fun k fate => ?_, fun k => ?_, ?_, ?_, ?_, ?_, ?_⟩
  · refine find?_sent replied.sent ?_ k fate
    exact (List.nodup_append.mp (List.nodup_append.mp distinct).1).2.1
  · rw [dealt.fates, List.filterMap_append, List.map_append]
    refine find?_recorded replied.fates (fun e he hmem => ?_) _ k
    -- what ended was not discarded
    refine (List.nodup_append.mp distinct).2.2 e.1.number ?_ e.1.number ?_ rfl
    · simp [Option.mem_def.mp he]
    · rw [List.filterMap_append, List.map_append]
      exact List.mem_append_left _ hmem
  · rw [List.countP_append, ← replied.completed]
    exact dealt.completed
  · rw [List.countP_append, ← replied.panicked]
    exact dealt.panicked
  · rw [List.filterMap_append, List.length_append, ← replied.discarded]
    exact dealt.discarded
  · rw [List.countP_append, ← replied.rejected]
    exact dealt.rejected
  · have hold := replied.answered
    simp only [ReplyPool.handles, List.filterMap_append, List.map_append, dealt.answered] at hold ⊢
    refine List.perm_iff_count.mpr fun k => ?_
    have hcount := hold.count_eq k
    simp only [List.count_append] at hcount ⊢
    omega

/-- Every handle is that of a job that is queued, runs, ended or was discarded. -/
theorem handles_perm (replied : Replied ns ends s) (told : Told ns s.pool) :
    s.handles ~ (s.pool.queue ++ s.pool.running).map (·.number) ++ ends.map (·.1.number) ++
      (ns.filterMap Note.discarded?).map (·.number) := by
  have hanswered := replied.answered
  rw [told.offered] at hanswered
  -- jobs that were placed, less the refused ones, are those that were answered
  have hplaced := told.placed.trans hanswered
  have hran := replied.ran.map (·.number)
  -- by counting each number: the equations of `placed`, `answered` and `ran` leave no other
  refine List.perm_iff_count.mpr fun k => ?_
  have hall := hplaced.count_eq k
  have hbegun := hran.count_eq k
  simp only [List.map_append, List.map_map, Function.comp_def, List.count_append] at hall hbegun ⊢
  omega

/-- The job of a handle that has to wait is queued or runs. -/
theorem join_standing (replied : Replied ns ends s) (told : Told ns s.pool) {j : Job τ}
    (hj : j ∈ s.pool.queue ++ s.pool.running) :
    s.join? j.number = none ∧ s.pool.fates.find? j.number = none := by
  have distinct := distinct_of_ran told replied.ran
  have hmem : j.number ∈ (s.pool.queue ++ s.pool.running).map (·.number) :=
    List.mem_map_of_mem hj
  -- nothing was sent for it: only jobs that ended send
  have hsent : s.sent.find? j.number = none := by
    refine Option.eq_none_iff_forall_ne_some.mpr fun fate hfate => ?_
    obtain ⟨e, he, hk, -⟩ := (replied.sent _ _).mp hfate
    exact (List.nodup_append.mp (List.nodup_append.mp distinct).1).2.2 _ hmem _
      (List.mem_map_of_mem he) hk.symm
  -- the job that holds the other end of the channel is still there
  have hsender : s.hasSender j.number = true := List.any_eq_true.mpr ⟨j, hj, by simp⟩
  have hkept : j.number ∉ (ns.filterMap Note.discarded?).map (·.number) := fun h =>
    (List.nodup_append.mp distinct).2.2 _ (List.mem_append_left _ hmem) _ h rfl
  constructor
  · rw [ReplyPool.join?, hsent, hsender]
    rfl
  · rw [replied.fates, if_neg hkept, hsent]

/-- The handle of a job that ended finds what it left. -/
theorem join_ended (replied : Replied ns ends s) (told : Told ns s.pool) {e : Job τ × Outcome ρ}
    (he : e ∈ ends) :
    s.join? e.1.number = some (fateOf e.2) ∧
      s.pool.fates.find? e.1.number = some (fateOf e.2) := by
  have distinct := distinct_of_ran told replied.ran
  have hsent : s.sent.find? e.1.number = some (fateOf e.2) :=
    (replied.sent _ _).mpr ⟨e, he, rfl, rfl⟩
  have hkept : e.1.number ∉ (ns.filterMap Note.discarded?).map (·.number) := fun h =>
    (List.nodup_append.mp distinct).2.2 _
      (List.mem_append_right _ (List.mem_map_of_mem he)) _ h rfl
  constructor
  · rw [ReplyPool.join?, hsent]
  · rw [replied.fates, if_neg hkept, hsent]

/-- The handle of a job that was discarded finds that its sender is gone. -/
theorem join_discarded (replied : Replied ns ends s) (told : Told ns s.pool) {j : Job τ}
    (hj : j ∈ ns.filterMap Note.discarded?) :
    s.join? j.number = some (.error .discarded) ∧
      s.pool.fates.find? j.number = some (.error .discarded) := by
  have distinct := distinct_of_ran told replied.ran
  have hmem : j.number ∈ (ns.filterMap Note.discarded?).map (·.number) := List.mem_map_of_mem hj
  -- a discarded job neither stands nor ended
  have hother := fun k hk => (List.nodup_append.mp distinct).2.2 k hk _ hmem
  have hsent : s.sent.find? j.number = none := by
    refine Option.eq_none_iff_forall_ne_some.mpr fun fate hfate => ?_
    obtain ⟨e, he, hk, -⟩ := (replied.sent _ _).mp hfate
    exact hother _ (List.mem_append_right _ (List.mem_map_of_mem he)) hk
  -- so the channel is closed, with nothing in it
  have hsender : s.hasSender j.number = false := by
    refine Bool.eq_false_iff.mpr fun h => ?_
    obtain ⟨i, hi, hk⟩ := List.any_eq_true.mp h
    exact hother _ (List.mem_append_left _ (List.mem_map_of_mem hi)) (by simpa using hk)
  constructor
  · rw [ReplyPool.join?, hsent, hsender]
    rfl
  · rw [replied.fates, if_pos hmem]

/-- How many handles find something of one kind: a sum over where their jobs are. -/
theorem countP_join (replied : Replied ns ends s) (told : Told ns s.pool)
    (f : Option (Except TaskError ρ) → Bool) :
    s.handles.countP (fun k => f (s.join? k)) =
      (s.pool.queue ++ s.pool.running).countP (fun _ => f none) +
        ends.countP (fun e => f (some (fateOf e.2))) +
        (ns.filterMap Note.discarded?).countP (fun _ => f (some (.error .discarded))) := by
  rw [(replied.handles_perm told).countP_eq, List.countP_append, List.countP_append,
    List.countP_map, List.countP_map, List.countP_map]
  -- the three kinds of handles, each with what its handle finds
  congr 1
  · congr 1
    · refine List.countP_congr fun j hj => ?_
      rw [Function.comp_apply, (replied.join_standing told hj).1]
    · refine List.countP_congr fun e he => ?_
      rw [Function.comp_apply, (replied.join_ended told he).1]
  · refine List.countP_congr fun j hj => ?_
    rw [Function.comp_apply, (replied.join_discarded told hj).1]

end Replied

end Replied

/-! ## Runs -/

variable {c : PoolConfig}

/-- A run of a pool with handles is a run of the pool. -/
theorem replied_run (valid : c.validate = .ok ()) {is : List (Incident τ ρ)} {s : ReplyPool τ ρ}
    (hrun : ReplyPool.run { pool := { config := c } } is = some s) :
    undergoAll { config := c } is = some s.pool ∧
      Replied (chronicle { config := c } is) (endings { config := c } is) s := by
  refine Runs.keeps (I := fun is s => undergoAll { config := c } is = some s.pool ∧
    Replied (chronicle { config := c } is) (endings { config := c } is) s)
    ⟨rfl, .start c⟩ ?_ hrun
  intro is s t i _ hstep ⟨hpool, replied⟩
  obtain ⟨q, hq, ht⟩ := Option.map_eq_some_iff.mp hstep
  have sound := (journal_keeps valid (fun _ _ => True) trivial (fun _ _ _ => trivial) hpool).1.sound
  constructor
  · rw [undergoAll_concat, hpool, ← ht]
    exact hq
  · rw [chronicle_concat hpool, endings, Runs.noted_concat _ hpool]
    exact replied.step (told_run valid hpool) sound hstep

theorem Condition.eq_of_found {x y : Condition ρ} (h : x.found = y.found) : x = y := by
  cases x <;> cases y <;> simp_all [Condition.found]

section Run

variable {is : List (Incident τ ρ)} {s : ReplyPool τ ρ} {k : Nat}

/-- A handle finds what the condition of its task says. -/
theorem found_of_stands (valid : c.validate = .ok ())
    (hrun : ReplyPool.run { pool := { config := c } } is = some s) {x : Condition ρ}
    (h : Stands c is s.pool k x) : s.join? k = x.found ∧ s.pool.fates.find? k = x.found := by
  obtain ⟨hpool, replied⟩ := replied_run valid hrun
  have told := told_run valid hpool
  cases x with
  | pending =>
    obtain ⟨j, hj, rfl⟩ := h
    exact replied.join_standing told hj
  | value v =>
    obtain ⟨-, j, hj, rfl⟩ := h
    exact replied.join_ended told hj
  | panicked m =>
    obtain ⟨-, j, payload, hj, rfl, rfl⟩ := h
    exact replied.join_ended told hj
  | discarded =>
    obtain ⟨⟨j, hj, rfl⟩, -⟩ := h
    exact replied.join_discarded told hj

/-- What was discarded never begins. -/
theorem not_hasBegun_of_discarded (valid : c.validate = .ok ())
    (hrun : undergoAll { config := c } is = some p) (h : WasDiscarded p k)
    {later : List (Incident τ ρ)} (hlater : p.undergoAll later = some q) :
    ¬ HasBegun (chronicle { config := c } (is ++ later)) k := by
  have hboth : undergoAll { config := c } (is ++ later) = some q := by
    rw [undergoAll, List.foldlM_append]
    exact Option.bind_eq_some_iff.mpr ⟨p, hrun, hlater⟩
  have told' := told_run valid hboth
  have answered' := answered_run valid hboth
  rw [chronicle_append hrun] at told' answered' ⊢
  exact never_begins (told_run valid hrun) told' answered' (.inl h)

/-- The task of every handle is in some condition. -/
theorem exists_stands (valid : c.validate = .ok ())
    (hrun : ReplyPool.run { pool := { config := c } } is = some s) (hk : k ∈ s.handles) :
    ∃ x, Stands c is s.pool k x := by
  obtain ⟨hpool, replied⟩ := replied_run valid hrun
  have told := told_run valid hpool
  rw [(replied.handles_perm told).mem_iff, List.mem_append, List.mem_append] at hk
  rcases hk with (hk | hk) | hk
  · obtain ⟨j, hj, rfl⟩ := List.mem_map.mp hk
    exact ⟨.pending, j, hj, rfl⟩
  · obtain ⟨⟨j, outcome⟩, he, rfl⟩ := List.mem_map.mp hk
    have hbegun : HasBegun (chronicle { config := c } is) j.number :=
      ⟨j, replied.ran.mem_iff.mpr (List.mem_append_right _ (List.mem_map_of_mem he)), rfl⟩
    cases outcome with
    | returned v => exact ⟨.value v, hbegun, j, he, rfl⟩
    | panicked payload => exact ⟨.panicked payload.message, hbegun, j, payload, he, rfl, rfl⟩
  · obtain ⟨j, hj, rfl⟩ := List.mem_map.mp hk
    exact ⟨.discarded, ⟨j, hj, rfl⟩, fun later q hlater =>
      not_hasBegun_of_discarded valid hpool (replied.join_discarded told hj).2 hlater⟩

end Run

/-- **What handles stand for.** After every run of a pool whose tasks are all submitted, with valid
settings and also if there was no thread for some of its workers:

* every handle is another one, and its task is in exactly one condition: it is queued or runs, it ran
  and returned a value, it ran and panicked, or it was dropped, has not run and never will;
* the handle finds what this condition says, by its channel and by the record of the pool alike;
* the counters of the pool are the numbers of the handles that find a value, a panic, and that the
  task was discarded, and the number of submissions that were told that the pool is saturated. -/
theorem handles_settled (valid : c.validate = .ok ()) {is : List (Incident τ ρ)}
    {s : ReplyPool τ ρ} (hrun : ReplyPool.run { pool := { config := c } } is = some s) :
    s.handles.Nodup ∧
    (∀ k ∈ s.handles, (∃! x, Stands c is s.pool k x) ∧
      ∀ x, Stands c is s.pool k x → s.join? k = x.found ∧ s.pool.fates.find? k = x.found) ∧
    s.handles.countP (fun k => s.join? k matches some (.ok _)) = s.pool.completed ∧
    s.handles.countP (fun k => s.join? k matches some (.error (.panicked _))) =
      s.pool.panicked ∧
    s.handles.countP (fun k => s.join? k matches some (.error .discarded)) = s.pool.discarded ∧
    s.answers.countP (fun a => a matches .error (.rejected _)) = s.pool.rejected := by
  obtain ⟨hpool, replied⟩ := replied_run valid hrun
  have told := told_run valid hpool
  have hcount := replied.countP_join told
  generalize endings { config := c } is = ends at replied hcount
  refine ⟨?_, fun k hk => ⟨?_, fun x hx => found_of_stands valid hrun hx⟩, ?_, ?_, ?_, ?_⟩
  · exact (replied.handles_perm told).nodup_iff.mpr (distinct_of_ran told replied.ran)
  · obtain ⟨x, hx⟩ := exists_stands valid hrun hk
    refine ⟨x, hx, fun y hy => Condition.eq_of_found ?_⟩
    rw [← (found_of_stands valid hrun hx).1, ← (found_of_stands valid hrun hy).1]
  · refine (hcount fun r => r matches some (.ok _)).trans ?_
    have hended : ends.countP (fun e => some (fateOf e.2) matches some (.ok _)) =
        ends.countP (·.2.isReturned) :=
      List.countP_congr fun e _ => by cases e.2 <;> rfl
    rw [hended, replied.completed]
    simp
  · refine (hcount fun r => r matches some (.error (.panicked _))).trans ?_
    have hended : ends.countP (fun e => some (fateOf e.2) matches some (.error (.panicked _))) =
        ends.countP (! ·.2.isReturned) :=
      List.countP_congr fun e _ => by cases e.2 <;> rfl
    rw [hended, replied.panicked]
    simp
  · refine (hcount fun r => r matches some (.error .discarded)).trans ?_
    have hended : ends.countP (fun e => some (fateOf e.2) matches some (.error .discarded)) = 0 :=
      List.countP_eq_zero.mpr fun e _ => by cases e.2 <;> simp [fateOf]
    rw [hended, replied.discarded]
    simp
  · rw [replied.rejected]
    rfl

/-- Two workers, room for one queued task, and what comes then is turned away. -/
def strict : PoolConfig :=
  { coreSize := 2, maxSize := 2, queueCapacity := 1, policy := .abort }

/-- Tasks 0 and 1 begin, task 2 is queued, task 3 is turned away. Task 0 returns 7, its worker takes
task 2, and task 1 panics. Task 4 is queued and dropped with the queue. -/
def shift : List (Incident Nat Nat) :=
  [.event (.offer 0 {}), .event (.offer 1 {}), .event (.offer 2 {}), .event (.offer 3 {}),
    .event (.finish 1 (.returned 7)), .event (.pick 1),
    .event (.finish 2 (.panicked (.text "boom"))), .event (.offer 4 {}), .event .discardQueue]

/-- After that shift the handle of task 2 has to wait, and the others find a value, a panic, and that
the task was discarded, one each. -/
theorem handles_settled_shift :
    strict.validate = .ok () ∧
    ∃ s : ReplyPool Nat Nat, ReplyPool.run { pool := { config := strict } } shift = some s ∧
      s.handles = [0, 1, 2, 4] ∧
      s.handles.map s.join? = [some (.ok 7), some (.error (.panicked "boom")), none,
        some (.error .discarded)] ∧
      (∃! x, Stands strict shift s.pool 2 x) ∧ Stands strict shift s.pool 2 .pending ∧
      s.pool.completed = 1 ∧ s.pool.panicked = 1 ∧ s.pool.discarded = 1 ∧ s.pool.rejected = 1 := by
  have valid : strict.validate = .ok () := by rfl
  have hrun : ReplyPool.run { pool := { config := strict } } shift = some _ := rfl
  obtain ⟨-, hstands, hvalues, hpanics, hdiscarded, hrejected⟩ := handles_settled valid hrun
  refine ⟨valid, _, hrun, rfl, rfl, (hstands 2 (by decide)).1, ⟨⟨2, 2, {}⟩, by decide, rfl⟩, ?_, ?_,
    ?_, ?_⟩
  · exact hvalues.symm
  · exact hpanics.symm
  · exact hdiscarded.symm
  · exact hrejected.symm

end KeyedDelivery.WorkerPool
