import KeyedDelivery.Proofs.Pool.Transition

/-!
# Every submitted task is counted in one place

The counters of a pool are changed in different operations: `submitted` when a task is offered,
`active` when a worker is started with a task, takes one or ends one, `discarded`, `rejected`,
`completed` and `panicked` when something became of a task.

* **`Balanced`** — the equation between them: every submitted task is done with, or active, or
  queued, or runs on its submitter's thread.
* **`balanced_transition`** — every transition of a sound pool keeps it: whatever happens adds one
  on both sides, or moves tasks from one summand to another.
* **`stats_balance`** — so the figures a pool reports add up in every state it reaches, and a task
  that is refused after the shutdown is not among them.
-/

namespace KeyedDelivery.WorkerPool

variable {τ ρ : Type} {p q : WorkerPool τ ρ}

/-- Every submitted task is counted in exactly one place. -/
def Balanced (p : WorkerPool τ ρ) : Prop :=
  p.submitted = p.completed + p.panicked + p.discarded + p.rejected + p.active + p.queue.length +
    p.onCaller.length

/-- A job that ended is counted once, as completed or as panicked. -/
theorem counted_once (outcome : Outcome ρ) :
    outcome.isReturned.toNat + (!outcome.isReturned).toNat = 1 := by
  cases outcome <;> rfl

/-- **One transition.** Whatever happens to a sound pool, its counters still add up. -/
theorem balanced_transition {e : Event τ ρ} (sound : Sound p) (h : Transition p e q)
    (balanced : Balanced p) : Balanced q := by
  unfold Balanced at balanced
  cases h with
  | refused => exact balanced
  | started task context isOpen room =>
    -- the new task is active at once
    show p.submitted + 1 = p.completed + p.panicked + p.discarded + p.rejected + (p.active + 1) +
      p.queue.length + p.onCaller.length
    omega
  | queued task context isOpen cores room =>
    show p.submitted + 1 = p.completed + p.panicked + p.discarded + p.rejected + p.active +
      (p.queue ++ [p.nextJob task context]).length + p.onCaller.length
    rw [List.length_append, List.length_singleton]
    omega
  | @evicted task context isOpen full policy oldest rest hqueue =>
    -- the queue is as long as before, and the oldest task counts as discarded
    rw [hqueue, List.length_cons] at balanced
    show p.submitted + 1 = p.completed + p.panicked + (p.discarded + 1) + p.rejected + p.active +
      (rest ++ [p.nextJob task context]).length + p.onCaller.length
    rw [List.length_append, List.length_singleton]
    omega
  | dropped task context isOpen full policy =>
    show p.submitted + 1 = p.completed + p.panicked + (p.discarded + 1) + p.rejected + p.active +
      p.queue.length + p.onCaller.length
    omega
  | rejected task context isOpen full policy =>
    show p.submitted + 1 = p.completed + p.panicked + p.discarded + (p.rejected + 1) + p.active +
      p.queue.length + p.onCaller.length
    omega
  | toCaller task context isOpen full policy =>
    show p.submitted + 1 = p.completed + p.panicked + p.discarded + p.rejected + p.active +
      p.queue.length + (p.onCaller ++ [p.nextJob task context]).length
    rw [List.length_append, List.length_singleton]
    omega
  | @picked l₁ l₂ w j rest hworkers idle hqueue =>
    rw [hqueue, List.length_cons] at balanced
    show p.submitted = p.completed + p.panicked + p.discarded + p.rejected + (p.active + 1) +
      rest.length + p.onCaller.length
    omega
  | @finished l₁ l₂ w j guard hworkers running outcome =>
    -- the worker that ends its task is one of the active ones
    have hactive := sound.active_pos hworkers running
    have hcount := counted_once outcome
    show p.submitted = p.completed + outcome.isReturned.toNat +
      (p.panicked + (!outcome.isReturned).toNat) + p.discarded + p.rejected + (p.active - 1) +
      p.queue.length + p.onCaller.length
    omega
  | @finishedOnCaller l₁ l₂ j hcallers outcome =>
    rw [hcallers, List.length_append, List.length_cons] at balanced
    have hcount := counted_once outcome
    show p.submitted = p.completed + outcome.isReturned.toNat +
      (p.panicked + (!outcome.isReturned).toNat) + p.discarded + p.rejected + p.active +
      p.queue.length + (l₁ ++ l₂).length
    rw [List.length_append]
    omega
  | updated => exact balanced
  | retired => exact balanced
  | left => exact balanced
  | shutdown => exact balanced
  | discardedQueue =>
    show p.submitted = p.completed + p.panicked + (p.discarded + p.queue.length) + p.rejected +
      p.active + 0 + p.onCaller.length
    omega

/-- After the shutdown a task is refused, and nothing of the pool changes. -/
theorem offer_of_isShutDown (h : p.isShutDown = true) (task : τ) (context : LogContext) :
    p.offer task context = (.refused (.shutDown p.config.name), p) := by
  rw [offer, if_pos h]

/-- A task is refused because of the shutdown only after the shutdown. -/
theorem isShutDown_of_refused {task : τ} {context : LogContext} {pool : String}
    (h : (p.offer task context).1 = .refused (.shutDown pool)) : p.isShutDown = true := by
  refine Decidable.byContradiction fun hopen => ?_
  -- an open pool may refuse an offer for other reasons, in the branch of its policy
  rw [offer, if_neg hopen] at h
  dsimp only at h
  split at h
  · cases h
  split at h
  · cases h
  split at h
  · cases h
  unfold overload at h
  split at h <;> cases h

/-! ### Open pools -/

/-- What is offered, taken or ended shuts no pool down. -/
@[simp] theorem offer_isShutDown (p : WorkerPool τ ρ) (task : τ) (context : LogContext) :
    (p.offer task context).2.isShutDown = p.isShutDown := by
  unfold offer
  split
  · rfl
  dsimp only
  split
  · rfl
  split
  · rfl
  split
  · rfl
  -- the policies change the queue and the table of fates only
  unfold overload
  split <;> simp only [settleDropped_eq]

@[simp] theorem pick_isShutDown (p : WorkerPool τ ρ) (n : Nat) :
    (p.pick n).isShutDown = p.isShutDown := by
  unfold pick
  split <;> rfl

@[simp] theorem finish_isShutDown (p : WorkerPool τ ρ) (n : Nat) (outcome : Outcome ρ) :
    (p.finish n outcome).isShutDown = p.isShutDown := by
  unfold finish
  split
  · rfl
  · rw [record_eq]
    rfl

@[simp] theorem finishOnCaller_isShutDown (p : WorkerPool τ ρ) (number : Nat)
    (outcome : Outcome ρ) : (p.finishOnCaller number outcome).isShutDown = p.isShutDown := by
  unfold finishOnCaller
  split
  · rfl
  · rw [record_eq]

variable {c : PoolConfig}

/-- **The figures of a pool add up.** In every state that a pool with valid settings reaches, each
submitted task is completed, panicked, discarded, rejected, active, queued, or running on its
submitter's thread. A task that is refused because the pool is shut down changes nothing. -/
theorem stats_balance (valid : c.validate = .ok ()) {p : WorkerPool τ ρ} (h : Reachable c p) :
    p.stats.submitted = p.stats.completed + p.stats.panicked + p.stats.discarded +
        p.stats.rejected + p.stats.active + p.stats.queued + p.onCaller.length ∧
      (p.isShutDown = true → ∀ task context,
        (p.offer task context).1 = .refused (.shutDown p.config.name)) ∧
      ∀ task context pool, (p.offer task context).1 = .refused (.shutDown pool) →
        (p.offer task context).2 = p := by
  refine ⟨?_, fun hclosed task context => ?_, fun task context pool hrefused => ?_⟩
  · exact invariant_of_reachable valid Balanced rfl
      (fun sound _ hstep balanced => balanced_transition sound hstep balanced) h
  · rw [offer_of_isShutDown hclosed]
  · rw [offer_of_isShutDown (isShutDown_of_refused hrefused)]

/-- A pool of one thread with room for one more task. -/
def tight : PoolConfig := { queueCapacity := 1, policy := .callerRuns }

/-- Three tasks offered to such a pool: one is active, one queued and one on its submitter's thread.
Then the first ends, and the pool is shut down. -/
def crowding : List (Event Unit Unit) :=
  [.offer () {}, .offer () {}, .offer () {}, .finish 1 (.returned ()), .shutdown]

theorem stats_balance_crowding :
    ∃ p, run { config := tight } crowding = some p ∧
      p.stats.completed = 1 ∧ p.stats.queued = 1 ∧ p.onCaller.length = 1 ∧
      p.stats.submitted = p.stats.completed + p.stats.panicked + p.stats.discarded +
        p.stats.rejected + p.stats.active + p.stats.queued + p.onCaller.length ∧
      (p.offer () {}).1 = .refused (.shutDown "worker") ∧ (p.offer () {}).2 = p := by
  have valid : tight.validate = .ok () := by rfl
  have hrun : run { config := tight } crowding = some _ := rfl
  obtain ⟨hsum, hrefused, hsame⟩ := stats_balance valid (Reachable.start.run hrun)
  exact ⟨_, hrun, rfl, rfl, rfl, hsum, hrefused rfl () {}, hsame () {} _ (hrefused rfl () {})⟩

end KeyedDelivery.WorkerPool
