import KeyedDelivery.Pool.Serve
import KeyedDelivery.Proofs.Pool.Service
import KeyedDelivery.Proofs.Pool.Sizes

/-!
# Pools with one worker

A pool whose core size and maximal size are one has one worker at most, and runs what it takes one
task after the other, in the order of the offers.

* **`backlog`** — the jobs that are not done with: the one that the worker runs, then the queue.
* **`Lone`** — one worker at most, and one while something is queued, as in every state that such a
  pool reaches (`lone_of_reachable`).
* **`backlog_offer`**, **`backlog_picked`**, **`backlog_finished`** — an offer puts its task at the
  end of the backlog, unless the pool is saturated; the worker is done with the first one.

A pool that is served comes to rest, however many workers it has.

* **`serve_at_rest`** — after `serve` nothing more happens by itself, as each thing that happens
  leaves less to happen.
* **`isIdle_of_rest`** — a pool at rest, with a worker while something is queued, is idle.
-/

namespace KeyedDelivery.WorkerPool

variable {τ ρ σ : Type} {p q : WorkerPool τ ρ}

/-- The jobs that are not done with, in the order in which one worker runs them. -/
def backlog (p : WorkerPool τ ρ) : List (Job τ) :=
  p.workers.filterMap (·.running.map (·.1)) ++ p.queue

instance (p : WorkerPool τ ρ) : Decidable p.Saturated := inferInstanceAs (Decidable (_ ∧ _))

/-! ## One worker -/

/-- A pool that has one worker at most, and one while something is queued. -/
structure Lone (p : WorkerPool τ ρ) : Prop where
  sound : Sound p
  attended : Attended p
  core : p.config.coreSize = 1
  threads : p.threads ≤ 1

variable {c : PoolConfig}

/-- **A pool of the size one has one worker at most.** -/
theorem lone_of_reachable (valid : c.validate = .ok ()) (hcore : c.coreSize = 1)
    (hmax : c.maxSize = 1) (reached : Reachable c p) : Lone p where
  sound := sound_of_reachable valid reached
  attended := attended_of_core valid (hcore ▸ Nat.one_pos) reached
  core := (config_of_reachable valid reached) ▸ hcore
  threads := by
    have sized := sized_of_reachable valid reached
    have hlargest := sized.largest
    rw [config_of_reachable valid reached, hmax] at hlargest
    exact Nat.le_trans sized.threads hlargest

namespace Lone

/-- The worker that an event is about is the only one. -/
theorem alone (lone : Lone p) {l₁ l₂ : List (Worker τ)} {w : Worker τ}
    (hworkers : p.workers = l₁ ++ w :: l₂) : l₁ = [] ∧ l₂ = [] := by
  have hlength := lone.sound.threads
  rw [hworkers, List.length_append, List.length_cons] at hlength
  have hthreads := lone.threads
  exact ⟨List.length_eq_zero_iff.mp (by omega), List.length_eq_zero_iff.mp (by omega)⟩

/-- A pool without a worker has nothing to do. -/
theorem backlog_of_unstaffed (lone : Lone p) (hthreads : p.threads = 0) :
    p.workers = [] ∧ p.queue = [] := by
  refine ⟨List.length_eq_zero_iff.mp (lone.sound.threads.symm.trans hthreads), ?_⟩
  refine Decidable.byContradiction fun hne => ?_
  exact Nat.ne_of_gt (lone.attended hne) hthreads

/-- A worker is started only when there is none. -/
theorem threads_of_room (lone : Lone p) (hmax : p.config.maxSize = 1)
    (room : p.threads < p.config.coreSize ∨
      p.config.queueCapacity ≤ p.queue.length ∧ p.threads < p.config.maxSize) : p.threads = 0 := by
  rcases room with hless | ⟨-, hless⟩
  · rw [lone.core] at hless
    exact Nat.lt_one_iff.mp hless
  · rw [hmax] at hless
    exact Nat.lt_one_iff.mp hless

end Lone

/-- **An offer puts its task at the end of the backlog**, unless the pool is saturated or shut
down. -/
theorem backlog_offer (lone : Lone p) (hmax : p.config.maxSize = 1)
    (isOpen : p.isShutDown = false) (hroom : ¬ p.Saturated) (task : τ) (context : LogContext) :
    (∀ n, (p.offer task context).1 ≠ .toCaller n) ∧
      (p.offer task context).2.isShutDown = false ∧
      (p.offer task context).2.backlog.map (·.task) = p.backlog.map (·.task) ++ [task] := by
  have hoffered := offered_of_offer lone.sound task context
  generalize (p.offer task context).1 = place, (p.offer task context).2 = q at hoffered
  cases hoffered with
  | refused closed => rw [isOpen] at closed; cases closed
  | started _ room =>
    -- there is no worker yet, so that nothing is queued either
    obtain ⟨hworkers, hqueue⟩ := lone.backlog_of_unstaffed (lone.threads_of_room hmax room)
    exact ⟨by simp, isOpen, by simp [backlog, hworkers, hqueue, Worker.begin, nextJob]⟩
  | queued => exact ⟨by simp, isOpen, by simp [backlog, nextJob]⟩
  | evicted _ full => exact absurd full hroom
  | dropped _ full => exact absurd full hroom
  | rejected _ full => exact absurd full hroom
  | toCaller _ full => exact absurd full hroom

/-- The worker takes the first job of the queue, which stays the first of the backlog. -/
theorem backlog_picked (lone : Lone p) {n : Nat} (h : Transition p (.pick n) q) :
    q.isShutDown = p.isShutDown ∧ q.backlog = p.backlog := by
  cases h with
  | picked hworkers idle hqueue =>
    obtain ⟨rfl, rfl⟩ := lone.alone hworkers
    exact ⟨rfl, by simp [backlog, hworkers, idle, hqueue, Worker.begin]⟩

/-- An idle worker that exits leaves the backlog as it is. -/
theorem backlog_retired {n : Nat} (h : Transition p (.retire n) q) :
    q.isShutDown = p.isShutDown ∧ q.backlog = p.backlog := by
  cases h with
  | retired hworkers idle => exact ⟨rfl, by simp [backlog, hworkers, idle]⟩

/-- **The worker is done with the first job of the backlog.** -/
theorem backlog_finished (lone : Lone p) {n : Nat} {outcome : Outcome ρ}
    (h : Transition p (.finish n outcome) q) {w : Worker τ} {j : Job τ} {guard : LogContext.Guard}
    (hfind : p.worker? n = some w) (running : w.running = some (j, guard)) :
    q.isShutDown = p.isShutDown ∧ p.backlog = j :: q.backlog := by
  cases h with
  | @finished l₁ l₂ w' j' guard' hworkers running' =>
    rw [worker?_of_split lone.sound hworkers] at hfind
    cases hfind
    rw [running'] at running
    cases running
    obtain ⟨rfl, rfl⟩ := lone.alone hworkers
    have hended : w.ended.running = none := by
      unfold Worker.ended
      rw [running']
    exact ⟨rfl, by simp [backlog, hworkers, running', hended]⟩

/-- Nothing is left to do in an idle pool. -/
theorem backlog_of_isIdle (sound : Sound p) (hidle : p.isIdle = true) : p.backlog = [] := by
  obtain ⟨hqueue, hactive⟩ := Bool.and_eq_true_iff.mp hidle
  have hcount : p.workers.countP (! ·.isIdle) = 0 := sound.active ▸ eq_of_beq hactive
  have hworkers : p.workers.filterMap (·.running.map (·.1)) = [] := by
    refine List.filterMap_eq_nil_iff.mpr fun w hw => ?_
    have hw := List.countP_eq_zero.mp hcount w hw
    simpa [Worker.isIdle] using hw
  rw [backlog, hworkers, List.isEmpty_iff.mp hqueue]
  rfl

/-! ## At rest -/

/-- How much can happen by itself, at most. -/
def remaining (p : WorkerPool τ ρ) : Nat := 2 * p.queue.length + p.active + p.workers.length

/-- The events that happen by themselves. -/
inductive Event.Unasked : Event τ ρ → Prop where
  | pick (n : Nat) : Unasked (.pick n)
  | finish (n : Nat) (outcome : Outcome ρ) : Unasked (.finish n outcome)
  | leave (n : Nat) : Unasked (.leave n)

/-- What happens by itself leaves less to happen. -/
theorem remaining_transition (sound : Sound p) {e : Event τ ρ} (he : e.Unasked)
    (h : Transition p e q) : q.remaining < p.remaining := by
  cases he with
  | pick =>
    cases h with
    | picked hworkers idle hqueue =>
      simp only [remaining, hworkers, hqueue, List.length_append, List.length_cons]
      omega
  | finish =>
    cases h with
    | finished hworkers running =>
      have hactive := sound.active_pos hworkers running
      simp only [remaining, hworkers, List.length_append, List.length_cons]
      omega
  | leave =>
    cases h with
    | left hworkers =>
      simp only [remaining, hworkers, List.length_append, List.length_cons]
      omega

/-- What happens by itself in a pool with its world: a worker is done with its task, takes the next
one, or leaves. -/
inductive Served (run : Runner τ ρ σ) (p : WorkerPool τ ρ) (s : σ) : WorkerPool τ ρ × σ → Prop where
  | finished {w : Worker τ} {j : Job τ} {guard : LogContext.Guard}
      (found : p.worker? w.number = some w) (running : w.running = some (j, guard))
      (next : p.step (.finish w.number (run j.task w.context s).1) =
        some (p.finish w.number (run j.task w.context s).1)) :
      Served run p s (p.finish w.number (run j.task w.context s).1, (run j.task w.context s).2)
  | picked {q : WorkerPool τ ρ} (n : Nat) (next : p.step (.pick n) = some q) : Served run p s (q, s)
  | left {q : WorkerPool τ ρ} (n : Nat) (closed : p.isShutDown = true)
      (next : p.step (.leave n) = some q) : Served run p s (q, s)

/-- A worker of a pool is found by its number. -/
theorem worker?_of_mem (sound : Sound p) {w : Worker τ} (hw : w ∈ p.workers) :
    p.worker? w.number = some w := by
  obtain ⟨l₁, l₂, hworkers⟩ := List.append_of_mem hw
  exact worker?_of_split sound hworkers

/-- **What happens by itself is an event of the pool.** -/
theorem served_of_serveStep (sound : Sound p) (run : Runner τ ρ σ) (s : σ)
    {next : WorkerPool τ ρ × σ} (h : p.serveStep run s = some next) : Served run p s next := by
  unfold serveStep at h
  split at h
  · next w hbusy =>
    have hfound := worker?_of_mem sound (List.mem_of_find?_eq_some hbusy)
    have hisBusy : w.isIdle = false := by simpa using List.find?_some hbusy
    obtain ⟨j, guard, hrunning⟩ := running_of_busy hisBusy
    rw [hrunning] at h
    cases h
    refine .finished hfound hrunning (step_eq_some_iff.mpr ⟨?_, rfl⟩)
    simp [allows, hasBusy, hfound, hisBusy]
  · split at h
    · cases h
    · next w hidle =>
      have hfound := worker?_of_mem sound (List.mem_of_find?_eq_some hidle)
      have hisIdle : w.isIdle = true := List.find?_some hidle
      split at h
      · next hqueue =>
        cases h
        refine .picked w.number (step_eq_some_iff.mpr ⟨?_, rfl⟩)
        simpa [allows, hasIdle, hfound, hisIdle] using hqueue
      split at h
      · next hleave =>
        cases h
        have hclosed : p.isShutDown = true := (Bool.and_eq_true_iff.mp hleave).2
        refine .left w.number hclosed (step_eq_some_iff.mpr ⟨?_, rfl⟩)
        simpa [allows, hasIdle, hfound, hisIdle] using hleave
      · cases h

/-- A pool at rest, with a worker while something is queued, is idle. -/
theorem isIdle_of_rest (sound : Sound p) (attended : Attended p) (run : Runner τ ρ σ) (s : σ)
    (h : p.serveStep run s = none) : p.isIdle = true := by
  unfold serveStep at h
  split at h
  · next w hbusy =>
    have hisBusy : w.isIdle = false := by simpa using List.find?_some hbusy
    obtain ⟨j, guard, hrunning⟩ := running_of_busy hisBusy
    rw [hrunning] at h
    cases h
  · next hbusy =>
    have hactive : p.active = 0 := by
      rw [sound.active]
      exact List.countP_eq_zero.mpr fun w hw => by simpa using List.find?_eq_none.mp hbusy w hw
    have hqueue : p.queue = [] := by
      split at h
      · next hidle =>
        -- a worker would be busy or idle
        have hworkers : p.workers = [] := by
          refine List.eq_nil_iff_forall_not_mem.mpr fun w hw => ?_
          have hbusy := List.find?_eq_none.mp hbusy w hw
          have hidle := List.find?_eq_none.mp hidle w hw
          simp_all
        refine Decidable.byContradiction fun hne => ?_
        have hthreads := attended hne
        rw [sound.threads, hworkers] at hthreads
        exact Nat.lt_irrefl 0 hthreads
      · split at h
        · cases h
        · next hqueue => simpa using hqueue
    simp [isIdle, hqueue, hactive]

/-- What happened by itself was an event that nobody asked for. -/
theorem Served.event {run : Runner τ ρ σ} {s : σ} {next : WorkerPool τ ρ × σ}
    (h : Served run p s next) : ∃ e : Event τ ρ, e.Unasked ∧ p.step e = some next.1 := by
  cases h with
  | finished found running next => exact ⟨_, .finish _ _, next⟩
  | picked n next => exact ⟨_, .pick n, next⟩
  | left n closed next => exact ⟨_, .leave n, next⟩

/-- What happens by itself keeps a pool sound, and leaves less to happen. -/
theorem Served.less (sound : Sound p) {run : Runner τ ρ σ} {s : σ} {next : WorkerPool τ ρ × σ}
    (h : Served run p s next) : Sound next.1 ∧ next.1.remaining < p.remaining := by
  obtain ⟨e, hunasked, hstep⟩ := h.event
  have htransition := transition_of_step sound hstep
  exact ⟨sound.transition htransition, remaining_transition sound hunasked htransition⟩

/-- What happens by itself does not shut a pool down. -/
theorem Served.isShutDown (sound : Sound p) {run : Runner τ ρ σ} {s : σ}
    {next : WorkerPool τ ρ × σ} (h : Served run p s next) : next.1.isShutDown = p.isShutDown := by
  obtain ⟨e, hunasked, hstep⟩ := h.event
  have htransition := transition_of_step sound hstep
  generalize next.1 = q at htransition ⊢
  cases hunasked <;> cases htransition <;> rfl

/-- A pool that is served for long enough is at rest; induction on how much may happen. -/
theorem serveSteps_at_rest (run : Runner τ ρ σ) (n : Nat) (sound : Sound p) (s : σ)
    (hn : p.remaining ≤ n) :
    (p.serveSteps run n s).1.serveStep run (p.serveSteps run n s).2 = none := by
  induction n generalizing p s with
  | zero =>
    refine Option.eq_none_iff_forall_ne_some.mpr fun next h => ?_
    have hless := ((served_of_serveStep sound run s h).less sound).2
    omega
  | succ n ih =>
    rw [serveSteps]
    cases h : p.serveStep run s with
    | none => exact h
    | some next =>
      obtain ⟨hsound, hless⟩ := (served_of_serveStep sound run s h).less sound
      exact ih hsound next.2 (by omega)

/-- **A pool that is served comes to rest.** -/
theorem serve_at_rest (run : Runner τ ρ σ) (sound : Sound p) (s : σ) :
    (p.serve run s).1.serveStep run (p.serve run s).2 = none := by
  have hactive := sound.active_le
  have hthreads := sound.threads
  refine serveSteps_at_rest run _ sound s ?_
  rw [remaining]
  omega

end KeyedDelivery.WorkerPool
