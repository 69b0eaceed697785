import KeyedDelivery.Proofs.Pool.Transition

/-!
# Which pools run what they take

A task that is queued waits for a worker. Whether there always is one depends on the core size only.

* **`Located`** — where the task of a number is: queued, on a worker, on its submitter's thread, or
  done with. No transition loses a task (`Located.transition`), and an admitted task has a place
  from the start (`located_of_admits`).
* **`Staffed`** — no task is ever queued while there is no worker. With a core size of at least one
  this holds: a task is queued only when the core workers are there, and they stay until the queue
  is empty.
* **`RunsAll`** — a pool that was shut down and whose workers have exited has run all it took.
* **`serves_iff_core`** — both hold exactly for the settings with a core size of at least one.
  Settings with core size zero are valid, and the first task offered to such a pool is queued before
  there is any worker.
-/

namespace KeyedDelivery.WorkerPool

variable {τ ρ : Type} {p q : WorkerPool τ ρ} {n : Nat}

/-! ## Admitted tasks -/

/-- The number of the task that an event admits: one that is offered and not refused. -/
def admits (p : WorkerPool τ ρ) : Event τ ρ → Option Nat
  | .offer task context =>
    match (p.offer task context).1 with
    | .refused _ => none
    | _ => some p.submitted
  | _ => none

/-- The numbers of the tasks that are admitted in a run. -/
def admitted (p : WorkerPool τ ρ) : List (Event τ ρ) → List Nat
  | [] => []
  | e :: es => (p.admits e).toList ++ admitted (p.apply e) es

/-- Whether a task has run, to its end or to its panic, or is running on its submitter's thread. -/
def HasRun (p : WorkerPool τ ρ) (n : Nat) : Prop :=
  (∃ v, p.fates.find? n = some (.ok v)) ∨ (∃ m, p.fates.find? n = some (.error (.panicked m))) ∨
    ∃ j ∈ p.onCaller, j.number = n

/-- In no state that is reached is a task queued while there is no worker. -/
def Staffed (τ ρ : Type) (c : PoolConfig) : Prop :=
  ∀ p : WorkerPool τ ρ, Reachable c p → p.workers = [] → p.queue = []

/-- After the shutdown, and when the workers have exited, nothing is queued, and all that was
admitted and not discarded has run. -/
def RunsAll (τ ρ : Type) (c : PoolConfig) : Prop :=
  ∀ (es : List (Event τ ρ)) (p : WorkerPool τ ρ), run { config := c } es = some p →
    p.isShutDown = true → p.workers = [] →
      p.queue = [] ∧ ∀ n ∈ admitted { config := c } es,
        p.fates.find? n ≠ some (.error .discarded) → HasRun p n

/-! ## What became of a task -/

/-- A task is done with: it has a value, it panicked, or it was dropped. -/
def Settled (fates : Table Nat (Except TaskError ρ)) (n : Nat) : Prop :=
  ∃ fate, fates.find? n = some fate ∧ fate ≠ .error .timeout

namespace Settled

variable {fates : Table Nat (Except TaskError ρ)}

theorem put_self (n : Nat) {fate : Except TaskError ρ} (hfate : fate ≠ .error .timeout) :
    Settled (fates.put n fate) n :=
  ⟨fate, Table.find?_put_self fates n fate, hfate⟩

/-- What is done with stays so, whatever else is recorded. -/
theorem put (h : Settled fates n) (m : Nat) {fate : Except TaskError ρ}
    (hfate : fate ≠ .error .timeout) : Settled (fates.put m fate) n := by
  by_cases hm : m = n
  · subst hm
    exact put_self m hfate
  · obtain ⟨fate', hfind, hfate'⟩ := h
    refine ⟨fate', ?_, hfate'⟩
    rw [Table.find?_put, if_neg hm, hfind]

theorem dropAll (h : Settled fates n) (jobs : List (Job τ)) :
    Settled (WorkerPool.dropAll fates jobs) n := by
  induction jobs generalizing fates with
  | nil => exact h
  | cons j jobs ih => exact ih (h.put j.number (by simp))

/-- A job that is dropped is done with. -/
theorem of_dropped {jobs : List (Job τ)} {j : Job τ} (hj : j ∈ jobs) :
    Settled (WorkerPool.dropAll fates jobs) j.number := by
  induction jobs generalizing fates with
  | nil => cases hj
  | cons i jobs ih =>
    rcases List.mem_cons.mp hj with rfl | hj
    · exact (put_self j.number (by simp)).dropAll jobs
    · exact ih hj

end Settled

/-- A job that ends leaves a value or a panic. -/
theorem fateOf_ne_timeout (outcome : Outcome ρ) : fateOf outcome ≠ .error .timeout := by
  cases outcome <;> simp [fateOf]

/-! ## Where a task is -/

/-- Where the task of a number is. -/
inductive Located (p : WorkerPool τ ρ) (n : Nat) : Prop where
  | queued {j : Job τ} (mem : j ∈ p.queue) (number : j.number = n)
  | running {w : Worker τ} {j : Job τ} {guard : LogContext.Guard} (mem : w ∈ p.workers)
      (running : w.running = some (j, guard)) (number : j.number = n)
  | onCaller {j : Job τ} (mem : j ∈ p.onCaller) (number : j.number = n)
  | settled (settled : Settled p.fates n)

namespace Located

/-- To follow a task it is enough to follow the tasks in each of the four places. -/
theorem follow (located : Located p n) (hqueue : ∀ j ∈ p.queue, Located q j.number)
    (hworkers : ∀ w ∈ p.workers, ∀ j guard, w.running = some (j, guard) → Located q j.number)
    (hcallers : ∀ j ∈ p.onCaller, Located q j.number)
    (hsettled : Settled p.fates n → Settled q.fates n) : Located q n := by
  cases located with
  | queued mem number => exact number ▸ hqueue _ mem
  | running mem running number => exact number ▸ hworkers _ mem _ _ running
  | onCaller mem number => exact number ▸ hcallers _ mem
  | settled settled => exact .settled (hsettled settled)

/-- Tasks stay where they are when each place keeps what it has. -/
theorem mono (located : Located p n) (hqueue : p.queue ⊆ q.queue)
    (hworkers : p.workers ⊆ q.workers) (hcallers : p.onCaller ⊆ q.onCaller)
    (hsettled : Settled p.fates n → Settled q.fates n) : Located q n :=
  located.follow (fun _ mem => .queued (hqueue mem) rfl)
    (fun _ mem _ _ running => .running (hworkers mem) running rfl)
    (fun _ mem => .onCaller (hcallers mem) rfl) hsettled

/-- Tasks on workers stay where they are when only one worker is replaced, provided that its own
task is found. -/
theorem of_worker (new : List (Worker τ)) {l₁ l₂ : List (Worker τ)} {w v : Worker τ} {j : Job τ}
    {guard : LogContext.Guard} (hworkers : p.workers = l₁ ++ w :: l₂)
    (hq : q.workers = l₁ ++ (new ++ l₂)) (hw : w.running = some (j, guard) → Located q j.number)
    (hv : v ∈ p.workers) (running : v.running = some (j, guard)) : Located q j.number := by
  -- the other workers are still there
  have hmem (x : Worker τ) (hx : x ∈ l₁ ∨ x ∈ l₂) : x ∈ q.workers := by
    rw [hq]
    rcases hx with hx | hx
    · exact List.mem_append_left _ hx
    · exact List.mem_append_right _ (List.mem_append_right _ hx)
  rw [hworkers] at hv
  rcases List.mem_append.mp hv with hv | hv
  · exact .running (hmem v (.inl hv)) running rfl
  · rcases List.mem_cons.mp hv with rfl | hv
    · exact hw running
    · exact .running (hmem v (.inr hv)) running rfl

/-- An idle worker exits. -/
theorem leave {l₁ l₂ : List (Worker τ)} {w : Worker τ} (located : Located p n)
    (hworkers : p.workers = l₁ ++ w :: l₂) (idle : w.running = none) :
    Located { p with workers := l₁ ++ l₂, threads := p.threads - 1 } n := by
  refine located.follow (fun _ mem => .queued mem rfl) (fun v mem j guard running => ?_)
    (fun _ mem => .onCaller mem rfl) id
  refine of_worker [] hworkers rfl (fun hw => ?_) mem running
  rw [idle] at hw
  cases hw

/-- **No task is lost.** A task is found after a transition if it was found before. -/
theorem transition {e : Event τ ρ} (h : Transition p e q) (located : Located p n) :
    Located q n := by
  cases h with
  | refused | rejected | shutdown =>
    exact located.mono (List.Subset.refl _) (List.Subset.refl _) (List.Subset.refl _) id
  | started task context =>
    exact located.mono (List.Subset.refl _) (List.subset_append_left _ _) (List.Subset.refl _) id
  | queued task context =>
    exact located.mono (List.subset_append_left _ _) (List.Subset.refl _) (List.Subset.refl _) id
  | toCaller task context =>
    exact located.mono (List.Subset.refl _) (List.Subset.refl _) (List.subset_append_left _ _) id
  | dropped task context =>
    exact located.mono (List.Subset.refl _) (List.Subset.refl _) (List.Subset.refl _)
      fun settled => settled.put _ (by simp)
  | evicted task context isOpen full policy hqueue =>
    refine located.follow (fun j mem => ?_) (fun _ mem _ _ running => .running mem running rfl)
      (fun _ mem => .onCaller mem rfl) (fun settled => settled.put _ (by simp))
    rw [hqueue] at mem
    rcases List.mem_cons.mp mem with rfl | mem
    · exact .settled (.put_self j.number (by simp))
    · exact .queued (List.mem_append_left _ mem) rfl
  | @picked l₁ l₂ w i rest hworkers idle hqueue =>
    refine located.follow (fun j mem => ?_) (fun v mem j guard running => ?_)
      (fun _ mem => .onCaller mem rfl) id
    · rw [hqueue] at mem
      rcases List.mem_cons.mp mem with rfl | mem
      · exact .running (List.mem_append_right l₁ List.mem_cons_self) rfl rfl
      · exact .queued mem rfl
    · refine of_worker [w.begin i] hworkers rfl (fun hw => ?_) mem running
      rw [idle] at hw
      cases hw
  | @finished l₁ l₂ w i guard hworkers hrunning outcome =>
    refine located.follow (fun _ mem => .queued mem rfl) (fun v mem j guard' running => ?_)
      (fun _ mem => .onCaller mem rfl) (fun settled => settled.put _ (fateOf_ne_timeout outcome))
    refine of_worker [w.ended] hworkers rfl (fun hw => ?_) mem running
    -- the task of the worker is the one that ended
    rw [hrunning] at hw
    cases hw
    exact .settled (.put_self i.number (fateOf_ne_timeout outcome))
  | @finishedOnCaller l₁ l₂ i hcallers outcome =>
    refine located.follow (fun _ mem => .queued mem rfl)
      (fun _ mem _ _ running => .running mem running rfl) (fun j mem => ?_)
      (fun settled => settled.put _ (fateOf_ne_timeout outcome))
    rw [hcallers] at mem
    rcases List.mem_append.mp mem with mem | mem
    · exact .onCaller (List.mem_append_left _ mem) rfl
    · rcases List.mem_cons.mp mem with rfl | mem
      · exact .settled (.put_self j.number (fateOf_ne_timeout outcome))
      · exact .onCaller (List.mem_append_right _ mem) rfl
  | @updated l₁ l₂ w hworkers busy f =>
    refine located.follow (fun _ mem => .queued mem rfl) (fun v mem j guard running => ?_)
      (fun _ mem => .onCaller mem rfl) id
    refine of_worker [{ w with context := f w.context }] hworkers rfl (fun hw => ?_) mem
      running
    exact .running (List.mem_append_right l₁ List.mem_cons_self) hw rfl
  | retired hworkers idle => exact located.leave hworkers idle
  | left hworkers idle => exact located.leave hworkers idle
  | discardedQueue =>
    exact located.follow (fun j mem => .settled (.of_dropped mem))
      (fun _ mem _ _ running => .running mem running rfl) (fun _ mem => .onCaller mem rfl)
      (fun settled => settled.dropAll p.queue)

end Located

/-- A saturated pool whose policy is to refuse does refuse. -/
theorem offer_of_abort (isOpen : p.isShutDown = false) (full : p.Saturated)
    (policy : p.config.policy = .abort) (cores : p.config.coreSize ≤ p.config.maxSize) (task : τ)
    (context : LogContext) : (p.offer task context).1 = .refused (.rejected p.config.name) := by
  obtain ⟨hqueue, hthreads⟩ := full
  rw [offer, if_neg (by simp [isOpen])]
  dsimp only
  rw [if_neg (by omega), if_neg (by omega), if_neg (by omega)]
  simp only [overload, policy]

/-- An admitted task has the number of the next submission. -/
theorem eq_submitted_of_admits {task : τ} {context : LogContext}
    (h : p.admits (.offer task context : Event τ ρ) = some n) : p.submitted = n := by
  rw [admits] at h
  split at h
  · cases h
  · exact Option.some.inj h

/-- An admitted task has a place. -/
theorem located_of_admits {e : Event τ ρ} (sound : Sound p) (h : Transition p e q)
    (hadmits : p.admits e = some n) : Located q n := by
  cases h with
  | refused task context closed =>
    rw [admits, offer, if_pos closed] at hadmits
    cases hadmits
  | rejected task context isOpen full policy =>
    -- an overloaded pool that refuses gives no number
    have hcore := (p.config.validate_eq_ok_iff.mp sound.valid).2.2.1
    rw [admits, offer_of_abort isOpen full policy hcore] at hadmits
    cases hadmits
  | started task context =>
    obtain rfl := eq_submitted_of_admits hadmits
    exact .running (List.mem_append_right p.workers (List.mem_singleton_self _)) rfl rfl
  | queued task context =>
    obtain rfl := eq_submitted_of_admits hadmits
    exact .queued (List.mem_append_right p.queue (List.mem_singleton_self _)) rfl
  | @evicted task context isOpen full policy oldest rest hqueue =>
    obtain rfl := eq_submitted_of_admits hadmits
    exact .queued (List.mem_append_right rest (List.mem_singleton_self _)) rfl
  | dropped task context =>
    obtain rfl := eq_submitted_of_admits hadmits
    exact .settled (.put_self p.submitted (by simp))
  | toCaller task context =>
    obtain rfl := eq_submitted_of_admits hadmits
    exact .onCaller (List.mem_append_right p.onCaller (List.mem_singleton_self _)) rfl
  | _ => cases hadmits

/-- **A whole run loses no task**: neither those it starts with nor those it admits. -/
theorem located_run {es : List (Event τ ρ)} (sound : Sound p) (hrun : p.run es = some q)
    (h : Located p n ∨ n ∈ admitted p es) : Located q n := by
  induction es generalizing p with
  | nil =>
    cases hrun
    rcases h with h | h
    · exact h
    · cases h
  | cons e es ih =>
    rw [run, List.foldlM_cons] at hrun
    obtain ⟨r, hr, hrest⟩ := Option.bind_eq_some_iff.mp hrun
    have htransition := transition_of_step sound hr
    refine ih (sound.transition htransition) hrest ?_
    -- the task was there before, is admitted by this event, or by a later one
    rcases h with h | h
    · exact .inl (h.transition htransition)
    rw [admitted, (step_eq_some_iff.mp hr).2] at h
    rcases List.mem_append.mp h with h | h
    · exact .inl (located_of_admits sound htransition (Option.mem_toList.mp h))
    · exact .inr h

/-! ## With core threads -/

variable {c : PoolConfig}

/-- When something is queued, there is a worker. -/
def Attended (p : WorkerPool τ ρ) : Prop := p.queue ≠ [] → 0 < p.threads

/-- With a core size of at least one, every transition keeps queued tasks attended. -/
theorem attended_transition {e : Event τ ρ} (hcore : 0 < p.config.coreSize)
    (h : Transition p e q) (attended : Attended p) : Attended q := by
  cases h with
  | refused | rejected | toCaller | dropped | shutdown | updated => exact attended
  | finished | finishedOnCaller => exact attended
  | started => exact fun _ => Nat.succ_pos _
  | queued task context isOpen cores room =>
    -- a task is queued only when all core workers are there
    exact fun _ => Nat.lt_of_lt_of_le hcore cores
  | evicted task context isOpen full policy hqueue =>
    -- the queue was not empty before either
    intro _
    exact attended (by rw [hqueue]; exact List.cons_ne_nil _ _)
  | picked hworkers idle hqueue =>
    intro _
    exact attended (by rw [hqueue]; exact List.cons_ne_nil _ _)
  | retired hworkers idle hqueue => exact fun hne => absurd hqueue hne
  | left hworkers idle hqueue => exact fun hne => absurd hqueue hne
  | discardedQueue => exact fun hne => absurd rfl hne

theorem attended_of_core (valid : c.validate = .ok ()) (hcore : 0 < c.coreSize)
    (h : Reachable c p) : Attended p :=
  invariant_of_reachable valid Attended (fun h => absurd rfl h)
    (fun _ hconfig hstep => attended_transition (hconfig ▸ hcore) hstep) h

/-- A pool with core threads is staffed. -/
theorem staffed_of_core (valid : c.validate = .ok ()) (hcore : 0 < c.coreSize) : Staffed τ ρ c := by
  intro p hp hworkers
  have sound := sound_of_reachable valid hp
  refine Decidable.byContradiction fun hne => ?_
  have hthreads := attended_of_core valid hcore hp hne
  rw [sound.threads, hworkers] at hthreads
  exact Nat.lt_irrefl 0 hthreads

/-- A pool that is always staffed has run all it took when its workers have exited. -/
theorem runsAll_of_staffed (valid : c.validate = .ok ()) (staffed : Staffed τ ρ c) :
    RunsAll τ ρ c := by
  intro es p hrun _ hworkers
  have hqueue := staffed p (Reachable.start.run hrun) hworkers
  refine ⟨hqueue, fun n hn hkept => ?_⟩
  -- without queued tasks and without workers there are two places left
  cases located_run (sound_start valid) hrun (.inr hn) with
  | queued mem => rw [hqueue] at mem; cases mem
  | running mem => rw [hworkers] at mem; cases mem
  | onCaller mem number => exact .inr (.inr ⟨_, mem, number⟩)
  | settled settled =>
    obtain ⟨fate, hfate, hne⟩ := settled
    rcases fate with (m | _ | _) | v
    · exact .inr (.inl ⟨m, hfate⟩)
    · exact absurd hfate hkept
    · exact absurd rfl hne
    · exact .inl ⟨v, hfate⟩

/-! ## Without core threads -/

/-- A pool without core threads queues the first task, for there is room in the queue. -/
theorem offer_coreless (valid : c.validate = .ok ()) (hcore : c.coreSize = 0) (task : τ) :
    ({ config := c } : WorkerPool τ ρ).offer task {} =
      (.queued, { config := c, submitted := 1, queue := [⟨0, task, {}⟩] }) := by
  obtain ⟨-, -, -, hcapacity⟩ := c.validate_eq_ok_iff.mp valid
  have hroom : ([] : List (Job τ)).length < c.queueCapacity := hcapacity
  rw [offer, if_neg (by simp)]
  dsimp only
  rw [if_neg (by omega), if_pos hroom]
  rfl

/-- **A stranded task.** A pool without core threads has no worker for the first task it queues, and
after the shutdown none is started any more. -/
theorem stranded (valid : c.validate = .ok ()) (hcore : c.coreSize = 0) (task : τ) :
    ∃ p : WorkerPool τ ρ, run { config := c } [.offer task {}, .shutdown] = some p ∧
      p.isShutDown = true ∧ p.workers = [] ∧ p.queue = [⟨0, task, {}⟩] := by
  refine ⟨{ config := c, submitted := 1, queue := [⟨0, task, {}⟩], isShutDown := true },
    ?_, rfl, rfl, rfl⟩
  have hstep : step { config := c } (.offer task {} : Event τ ρ) =
      some { config := c, submitted := 1, queue := [⟨0, task, {}⟩] } := by
    rw [step, allows, if_pos rfl, apply, offer_coreless valid hcore]
  rw [run, List.foldlM_cons, hstep]
  rfl

theorem not_staffed_of_coreless [Inhabited τ] (valid : c.validate = .ok ())
    (hcore : c.coreSize = 0) : ¬ Staffed τ ρ c := by
  intro h
  obtain ⟨p, hrun, -, hworkers, hqueue⟩ := stranded (ρ := ρ) valid hcore (default : τ)
  have hempty := h p (Reachable.start.run hrun) hworkers
  rw [hqueue] at hempty
  cases hempty

theorem not_runsAll_of_coreless [Inhabited τ] (valid : c.validate = .ok ())
    (hcore : c.coreSize = 0) : ¬ RunsAll τ ρ c := by
  intro h
  obtain ⟨p, hrun, hclosed, hworkers, hqueue⟩ := stranded (ρ := ρ) valid hcore (default : τ)
  have hempty := (h _ p hrun hclosed hworkers).1
  rw [hqueue] at hempty
  cases hempty

/-! ## Which pools serve -/

/-- **Exactly the pools with core threads serve.** For valid settings, the core size decides whether
a queued task always has a worker, and whether a pool that was shut down and whose workers have
exited has run all it admitted and did not discard. -/
theorem serves_iff_core [Inhabited τ] (valid : c.validate = .ok ()) :
    (Staffed τ ρ c ↔ 0 < c.coreSize) ∧ (RunsAll τ ρ c ↔ 0 < c.coreSize) := by
  have hstaffed (hcore : 0 < c.coreSize) : Staffed τ ρ c := staffed_of_core valid hcore
  constructor
  · refine ⟨fun h => Nat.pos_of_ne_zero fun hcore => ?_, hstaffed⟩
    exact not_staffed_of_coreless valid hcore h
  · refine ⟨fun h => Nat.pos_of_ne_zero fun hcore => ?_, fun hcore => ?_⟩
    · exact not_runsAll_of_coreless valid hcore h
    · exact runsAll_of_staffed valid (hstaffed hcore)

/-- The default pool has a core thread. -/
theorem default_pool_serves :
    ({} : PoolConfig).validate = .ok () ∧ Staffed Unit Unit {} ∧ RunsAll Unit Unit {} := by
  have valid : ({} : PoolConfig).validate = .ok () := by rfl
  obtain ⟨hstaffed, hruns⟩ := serves_iff_core (τ := Unit) (ρ := Unit) valid
  exact ⟨valid, hstaffed.mpr (by decide), hruns.mpr (by decide)⟩

/-- Settings without core threads are valid, and a pool of them strands a task. -/
theorem coreless_pool_strands :
    ({ coreSize := 0 } : PoolConfig).validate = .ok () ∧
      ¬ Staffed Unit Unit { coreSize := 0 } ∧ ¬ RunsAll Unit Unit { coreSize := 0 } := by
  have valid : ({ coreSize := 0 } : PoolConfig).validate = .ok () := by rfl
  exact ⟨valid, not_staffed_of_coreless valid rfl, not_runsAll_of_coreless valid rfl⟩

end KeyedDelivery.WorkerPool
