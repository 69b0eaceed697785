import KeyedDelivery.Proofs.Pool.Transition
import Mathlib.Data.List.Induction
import Mathlib.Order.Bounds.Basic

/-!
# How large a pool gets

The settings bound the threads and the queue of a pool, in every state it reaches.

* **`Sized`** — the queue is within its capacity, and the threads are within the largest number of
  them so far, which is within the maximal size. Every transition keeps it (`Sized.transition`).
* **`largest_transition`** — the record of the largest number of threads grows with the threads
  only, so that after a run it is the greatest number that any state of the run had (`largest_run`).
* **`core_run`** — until the shutdown, a pool that has its core threads keeps them.
* **`sizes_bounded`** — all of it for the runs of pools with valid settings, with the two counters
  that are counted down, and the queue that is never empty when its oldest job is evicted.
-/

namespace KeyedDelivery.WorkerPool

variable {τ ρ : Type} {p q : WorkerPool τ ρ}

/-! ## Bounds -/

/-- The sizes of a pool are within its settings. -/
structure Sized (p : WorkerPool τ ρ) : Prop where
  queued : p.queue.length ≤ p.config.queueCapacity
  threads : p.threads ≤ p.largest
  largest : p.largest ≤ p.config.maxSize

/-- Fewer threads are within the bounds as well. -/
theorem Sized.fewer (sized : Sized p) : p.threads - 1 ≤ p.largest :=
  Nat.le_trans (Nat.sub_le _ _) sized.threads

/-- There are as many busy workers as workers at most. -/
theorem Sound.active_le (sound : Sound p) : p.active ≤ p.threads := by
  rw [sound.active, sound.threads]
  exact List.countP_le_length

/-- A worker is started only while there are fewer than the maximal size. -/
theorem Sound.room_le (sound : Sound p) (room : p.threads < p.config.coreSize ∨
    p.config.queueCapacity ≤ p.queue.length ∧ p.threads < p.config.maxSize) :
    p.threads + 1 ≤ p.config.maxSize := by
  obtain ⟨-, -, hcore, -⟩ := p.config.validate_eq_ok_iff.mp sound.valid
  rcases room with hless | ⟨-, hless⟩
  · exact Nat.le_trans hless hcore
  · exact hless

/-- **Every transition keeps the sizes of a sound pool within its settings.** -/
theorem Sized.transition {e : Event τ ρ} (sized : Sized p) (sound : Sound p)
    (h : Transition p e q) : Sized q := by
  cases h with
  | refused | dropped | rejected | toCaller | finished | finishedOnCaller | updated | shutdown =>
    exact ⟨sized.queued, sized.threads, sized.largest⟩
  | started task context isOpen room =>
    refine ⟨sized.queued, Nat.le_max_right _ _, ?_⟩
    exact Nat.max_le.mpr ⟨sized.largest, sound.room_le room⟩
  | queued task context isOpen cores room =>
    refine ⟨?_, sized.threads, sized.largest⟩
    rw [List.length_append, List.length_singleton]
    exact room
  | @evicted task context isOpen full policy oldest rest hqueue =>
    -- the queue is as long as before
    have hlength := sized.queued
    rw [hqueue, List.length_cons] at hlength
    refine ⟨?_, sized.threads, sized.largest⟩
    rw [List.length_append, List.length_singleton]
    exact hlength
  | picked hworkers idle hqueue =>
    have hlength := sized.queued
    rw [hqueue, List.length_cons] at hlength
    exact ⟨Nat.le_of_succ_le hlength, sized.threads, sized.largest⟩
  | retired | left => exact ⟨sized.queued, sized.fewer, sized.largest⟩
  | discardedQueue => exact ⟨Nat.zero_le _, sized.threads, sized.largest⟩

/-! ## What one transition does to the threads -/

/-- The record follows the threads upwards. -/
theorem largest_transition {e : Event τ ρ} (sized : Sized p) (h : Transition p e q) :
    q.largest = max p.largest q.threads := by
  cases h with
  | started => rfl
  | retired | left => exact (Nat.max_eq_left sized.fewer).symm
  | _ => exact (Nat.max_eq_left sized.threads).symm

/-- A pool that was shut down stays so. -/
theorem isOpen_of_transition {e : Event τ ρ} (h : Transition p e q)
    (isOpen : q.isShutDown = false) : p.isShutDown = false := by
  cases h with
  | shutdown | discardedQueue => cases isOpen
  | _ => exact isOpen

/-- Before the shutdown, a worker exits only when there are more than the core size. -/
theorem core_transition {e : Event τ ρ} (h : Transition p e q) (isOpen : q.isShutDown = false)
    (cores : p.config.coreSize ≤ p.threads) : q.config.coreSize ≤ q.threads := by
  cases h with
  | started => exact Nat.le_succ_of_le cores
  | retired hworkers idle hqueue surplus => exact Nat.le_sub_one_of_lt surplus
  | left hworkers idle hqueue closed =>
    rw [closed] at isOpen
    cases isOpen
  | _ => exact cores

/-- A worker is started only for a task that finds too few core threads or a full queue. -/
theorem room_of_started {e : Event τ ρ} (h : Transition p e q) (hstarted : p.started < q.started) :
    p.threads < p.config.coreSize ∨
      p.config.queueCapacity ≤ p.queue.length ∧ p.threads < p.config.maxSize := by
  cases h with
  | started task context isOpen room => exact room
  | _ => exact absurd hstarted (Nat.lt_irrefl _)

/-- A worker that ends its task was counted as active. -/
theorem active_of_finish (sound : Sound p) {n : Nat} {outcome : Outcome ρ}
    (h : Transition p (.finish n outcome) q) : q.active + 1 = p.active := by
  cases h with
  | finished hworkers running =>
    exact Nat.sub_add_cancel (sound.active_pos hworkers running)

/-- A worker that exits was counted among the threads. -/
theorem threads_of_exit (sound : Sound p) {n : Nat}
    (h : Transition p (.retire n) q ∨ Transition p (.leave n) q) : q.threads + 1 = p.threads := by
  -- there is a thread to take away, so the subtraction is exact
  have hpos {l₁ l₂ : List (Worker τ)} {w : Worker τ} (hworkers : p.workers = l₁ ++ w :: l₂) :
      0 < p.threads := by
    rw [sound.threads, hworkers, List.length_append, List.length_cons]
    omega
  rcases h with h | h
  · cases h with
    | retired hworkers => exact Nat.sub_add_cancel (hpos hworkers)
  · cases h with
    | left hworkers => exact Nat.sub_add_cancel (hpos hworkers)

/-! ## Runs -/

variable {c : PoolConfig}

/-- The state after one more event. -/
theorem run_concat (p : WorkerPool τ ρ) (es : List (Event τ ρ)) (e : Event τ ρ) :
    p.run (es ++ [e]) = (p.run es).bind (·.step e) :=
  Runs.foldlM_concat step p es e

theorem config_of_reachable (valid : c.validate = .ok ()) (h : Reachable c p) : p.config = c :=
  invariant_of_reachable valid (·.config = c) rfl
    (fun _ _ hstep hconfig => hstep.config_eq.trans hconfig) h

theorem sized_of_reachable (valid : c.validate = .ok ()) (h : Reachable c p) : Sized p :=
  invariant_of_reachable valid Sized ⟨Nat.zero_le _, Nat.le_refl _, Nat.zero_le _⟩
    (fun sound _ hstep sized => sized.transition sound hstep) h

/-- The number of threads in a state of a run. -/
def threadsIn (c : PoolConfig) (es : List (Event τ ρ)) : Set Nat :=
  {n | ∃ past q, past <+: es ∧ run { config := c } past = some q ∧ q.threads = n}

/-- **The record is the greatest number of threads** that any state of the run had; induction on the
events, the last one first. -/
theorem largest_run (valid : c.validate = .ok ()) {es : List (Event τ ρ)}
    (hrun : run { config := c } es = some p) : IsGreatest (threadsIn c es) p.largest := by
  induction es using List.reverseRecOn generalizing p with
  | nil =>
    cases hrun
    refine ⟨⟨[], _, List.prefix_rfl, rfl, rfl⟩, ?_⟩
    rintro n ⟨past, q, hpast, hq, rfl⟩
    obtain rfl := List.prefix_nil.mp hpast
    cases hq
    exact Nat.le_refl 0
  | append_singleton es e ih =>
    have hlast := hrun
    rw [run_concat] at hlast
    obtain ⟨r, hr, hstep⟩ := Option.bind_eq_some_iff.mp hlast
    have reached := Reachable.start.run hr
    have htransition := transition_of_step (sound_of_reachable valid reached) hstep
    obtain ⟨⟨past, x, hpast, hx, hthreads⟩, hbound⟩ := ih hr
    rw [largest_transition (sized_of_reachable valid reached) htransition]
    refine ⟨?_, ?_⟩
    · -- the record is that of the run so far, or the threads there are now
      rcases Nat.le_total p.threads r.largest with hle | hle
      · rw [Nat.max_eq_left hle]
        exact ⟨past, x, hpast.trans (List.prefix_append _ _), hx, hthreads⟩
      · rw [Nat.max_eq_right hle]
        exact ⟨es ++ [e], p, List.prefix_rfl, hrun, rfl⟩
    · rintro n ⟨past, x, hpast, hx, rfl⟩
      rcases List.prefix_concat_iff.mp hpast with rfl | hpast
      · rw [hrun] at hx
        cases hx
        exact Nat.le_max_right _ _
      · exact Nat.le_trans (hbound ⟨past, x, hpast, hx, rfl⟩) (Nat.le_max_left _ _)

/-- **The core threads stay until the shutdown.** -/
theorem core_run (valid : c.validate = .ok ()) (reached : Reachable c p) {es : List (Event τ ρ)}
    (hrun : p.run es = some q) (cores : c.coreSize ≤ p.threads) (isOpen : q.isShutDown = false) :
    c.coreSize ≤ q.threads := by
  induction es using List.reverseRecOn generalizing q with
  | nil =>
    cases hrun
    exact cores
  | append_singleton es e ih =>
    rw [run_concat] at hrun
    obtain ⟨r, hr, hstep⟩ := Option.bind_eq_some_iff.mp hrun
    -- one event more: the state before it was open as well
    have reached' := reached.run hr
    have htransition := transition_of_step (sound_of_reachable valid reached') hstep
    have hconfig := config_of_reachable valid reached'
    have hkept := core_transition htransition isOpen
    rw [htransition.config_eq, hconfig] at hkept
    exact hkept (ih hr (isOpen_of_transition htransition isOpen))

/-- A full pool whose policy is to evict has a job to evict. -/
theorem evicts_oldest (sound : Sound p) (isOpen : p.isShutDown = false) (full : p.Saturated)
    (policy : p.config.policy = .discardOldest) (task : τ) (context : LogContext) :
    ∃ oldest rest, p.queue = oldest :: rest ∧
      (p.offer task context).2.queue = rest ++ [p.nextJob task context] ∧
      (p.offer task context).2.fates.find? oldest.number = some (.error .discarded) := by
  obtain ⟨-, -, hcore, hcapacity⟩ := p.config.validate_eq_ok_iff.mp sound.valid
  have hthreads := full.2
  have hqueued := full.1
  have htransition := transition_of_offer sound task context
  generalize (p.offer task context).2 = q at htransition
  cases htransition with
  | refused task context closed => rw [closed] at isOpen; cases isOpen
  -- a saturated pool can neither start a thread nor queue
  | started task context isOpen room => omega
  | queued task context isOpen cores room => omega
  | @evicted task context isOpen full policy oldest rest hqueue =>
    exact ⟨oldest, rest, hqueue, rfl, Table.find?_put_self _ _ _⟩
  | dropped task context isOpen full policy' => rw [policy'] at policy; cases policy
  | rejected task context isOpen full policy' => rw [policy'] at policy; cases policy
  | toCaller task context isOpen full policy' => rw [policy'] at policy; cases policy

/-- **The sizes of a pool are bounded by its settings.** After any run of a pool with valid
settings:

* there are as many active workers as threads at most, the threads are within the record, the record
  within the maximal size, and the queue within its capacity;
* the record is the greatest number of threads that any state of the run had;
* if some state of the run had the core threads and the pool is not shut down, it has them still;
* an event that starts a worker beyond the core size finds the queue at its capacity;
* an event that counts the active workers or the threads down takes one away from each;
* a saturated pool whose policy is to evict has an oldest queued job, which is the one that goes. -/
theorem sizes_bounded (valid : c.validate = .ok ()) {es : List (Event τ ρ)}
    (hrun : run { config := c } es = some p) :
    (p.active ≤ p.threads ∧ p.threads ≤ p.largest ∧ p.largest ≤ c.maxSize ∧
      p.queue.length ≤ c.queueCapacity) ∧
    IsGreatest (threadsIn c es) p.largest ∧
    (∀ past rest q, past ++ rest = es → run { config := c } past = some q →
      c.coreSize ≤ q.threads → p.isShutDown = false → c.coreSize ≤ p.threads) ∧
    (∀ e q, p.step e = some q → p.started < q.started → c.coreSize ≤ p.threads →
      p.queue.length = c.queueCapacity) ∧
    (∀ n outcome q, p.step (.finish n outcome) = some q → q.active + 1 = p.active) ∧
    (∀ n q, p.step (.retire n) = some q ∨ p.step (.leave n) = some q →
      q.threads + 1 = p.threads) ∧
    ∀ task context, p.isShutDown = false → p.Saturated → c.policy = .discardOldest →
      ∃ oldest rest, p.queue = oldest :: rest ∧
        (p.offer task context).2.queue = rest ++ [p.nextJob task context] ∧
        (p.offer task context).2.fates.find? oldest.number = some (.error .discarded) := by
  have reached := Reachable.start.run hrun
  have sound := sound_of_reachable valid reached
  have hconfig := config_of_reachable valid reached
  obtain ⟨hqueued, hthreads, hlargest⟩ := sized_of_reachable valid reached
  rw [hconfig] at hqueued hlargest
  refine ⟨⟨sound.active_le, hthreads, hlargest, hqueued⟩, largest_run valid hrun,
    ?_, ?_, ?_, ?_, ?_⟩
  · rintro past rest q rfl hq cores isOpen
    rw [run, List.foldlM_append] at hrun
    obtain ⟨r, hr, hrest⟩ := Option.bind_eq_some_iff.mp hrun
    obtain rfl : r = q := Option.some.inj (hr.symm.trans hq)
    exact core_run valid (Reachable.start.run hq) hrest cores isOpen
  · intro e q hstep hstarted cores
    have hroom := room_of_started (transition_of_step sound hstep) hstarted
    rw [hconfig] at hroom
    rcases hroom with hless | ⟨hfull, -⟩
    · exact absurd hless (Nat.not_lt_of_le cores)
    · exact Nat.le_antisymm hqueued hfull
  · exact fun n outcome q hstep => active_of_finish sound (transition_of_step sound hstep)
  · exact fun n q hstep => threads_of_exit sound
      (hstep.imp (transition_of_step sound) (transition_of_step sound))
  · exact fun task context isOpen full policy =>
      evicts_oldest sound isOpen full (hconfig ▸ policy) task context

/-- One core thread, one more when the queue is full, and room for one task in the queue. -/
def elastic : PoolConfig := { maxSize := 2, queueCapacity := 1 }

/-- Four tasks come at once, so that a second worker is started and the oldest queued task evicted;
all are done, and the second worker exits. -/
def surge : List (Event Unit Unit) :=
  [.offer () {}, .offer () {}, .offer () {}, .offer () {}, .finish 1 (.returned ()), .pick 1,
    .finish 2 (.panicked .other), .finish 1 (.returned ()), .retire 2]

/-- After the surge one thread is left, and the record tells of the two there were. -/
theorem sizes_bounded_surge :
    elastic.validate = .ok () ∧ ∃ p, run { config := elastic } surge = some p ∧ p.threads = 1 ∧
      p.discarded = 1 ∧ IsGreatest (threadsIn elastic surge) 2 ∧
      elastic.coreSize ≤ p.threads ∧ p.queue.length ≤ elastic.queueCapacity := by
  have valid : elastic.validate = .ok () := by rfl
  have hrun : run { config := elastic } surge = some _ := rfl
  obtain ⟨⟨-, -, -, hqueued⟩, hgreatest, hcore, -⟩ := sizes_bounded valid hrun
  refine ⟨valid, _, hrun, rfl, rfl, hgreatest, ?_, hqueued⟩
  exact hcore [.offer () {}] _ _ rfl rfl (Nat.le_refl 1) rfl

end KeyedDelivery.WorkerPool
