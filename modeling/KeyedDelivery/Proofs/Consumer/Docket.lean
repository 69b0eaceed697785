import KeyedDelivery.Proofs.Consumer.Stage
import KeyedDelivery.Proofs.Pool.Numbering
import Mathlib.Data.Multiset.Count

/-!
# What one event does to the deliveries of a consumer

A consumer and its pool keep their figures in different places, and where a delivery stands is spread
over the queue, the workers, the listening thread and the table of stages. Every law about them is
proved over the same list of cases, which is stated once here.

* **`Docket`** — the deliveries that a consumer has in hand, queued or at a stage, with its figures.
* **`Tracked`** — the pool is sound and its jobs are numbered apart, so that the stage of a job is its
  own. Every step keeps it (`Tracked.step`).
* **`Change`** — one constructor for each thing that can happen to a docket.
* **`change_of_step`** — whatever a step of a tracked consumer does is one of these.
* **`poolStep_of_step`** — for the pool, a step is at most one event.
* **`frame_of_step`** — the consumer itself stays the same, and none becomes one that was not started.
* **`invariant_of_reachable`** — so what every change keeps holds of every consumer at work.
-/

namespace KeyedDelivery

variable {σ : Type}

/-- The deliveries that a consumer has in hand, and its figures. -/
@[ext]
structure Docket where
  queued : List Delivery
  handling : Multiset (Delivery × Stage)
  desk : Desk
  discarded : Nat

namespace Docket

/-- Changes the figures. -/
def count (k : Docket) (f : ConsumerStats → ConsumerStats) : Docket :=
  { k with desk := { k.desk with stats := f k.desk.stats } }

/-- Counts a delivery that was offered to the pool. -/
def received (k : Docket) : Docket := k.count fun s => { s with received := s.received + 1 }

end Docket

/-- How many deliveries stand at a stage of some kind. -/
def standing (p : Stage → Bool) (handling : Multiset (Delivery × Stage)) : Nat :=
  handling.countP fun x => p x.2 = true

@[simp] theorem standing_zero (p : Stage → Bool) : standing p 0 = 0 := rfl

/-- One more delivery at a stage. -/
@[simp] theorem standing_cons (p : Stage → Bool) (d : Delivery) (stage : Stage)
    (rest : Multiset (Delivery × Stage)) :
    standing p ((d, stage) ::ₘ rest) = standing p rest + (p stage).toNat := by
  unfold standing
  rw [Multiset.countP_cons]
  cases p stage <;> rfl

/-- Counted in a list or in a multiset, it is the same. -/
theorem standing_coe (p : Stage → Bool) (l : List (Delivery × Stage)) :
    standing p (l : Multiset (Delivery × Stage)) = l.countP (p ·.2) := by
  unfold standing
  rw [Multiset.coe_countP]
  simp

/-! ## The stages of jobs -/

/-- The deliveries of jobs, each with its stage in a table. -/
def staged (stages : Table Nat Stage) (jobs : List (Job Delivery)) : List (Delivery × Stage) :=
  jobs.map fun j => (j.task, (stages.find? j.number).getD .waiting)

section Stages

variable {stages : Table Nat Stage} {jobs : List (Job Delivery)} {n : Nat}

/-- The stage of another job plays no part. -/
theorem staged_put (stage : Stage) (h : ∀ j ∈ jobs, j.number ≠ n) :
    staged (stages.put n stage) jobs = staged stages jobs := by
  refine List.map_congr_left fun j hj => ?_
  rw [Table.find?_put, if_neg (Ne.symm (h j hj))]

theorem staged_erase (h : ∀ j ∈ jobs, j.number ≠ n) :
    staged (stages.erase n) jobs = staged stages jobs := by
  refine List.map_congr_left fun j hj => ?_
  rw [Table.find?_erase, if_neg (Ne.symm (h j hj))]

/-- A job with its stage, in front of the others with theirs. -/
theorem staged_put_cons {j : Job Delivery} (stage : Stage) (h : ∀ i ∈ jobs, i.number ≠ j.number) :
    staged (stages.put j.number stage) (j :: jobs) = (j.task, stage) :: staged stages jobs := by
  have hrest : staged (stages.put j.number stage) jobs = staged stages jobs := staged_put stage h
  unfold staged at hrest ⊢
  rw [List.map_cons, Table.find?_put_self, Option.getD_some, hrest]

end Stages

namespace ConsumerRun

/-- What a consumer has in hand. -/
def docket (r : ConsumerRun σ) : Docket where
  queued := r.pool.queue.map (·.task)
  handling := (r.handling : Multiset (Delivery × Stage))
  desk := r.desk
  discarded := r.pool.discarded

@[simp] theorem count_pool (r : ConsumerRun σ) (f : ConsumerStats → ConsumerStats) :
    (r.count f).pool = r.pool := rfl

/-- Starting changes nothing but the state, and it can be done once. -/
theorem start_run (r : ConsumerRun σ) (s : σ) :
    ∃ state, (r.start s).2.1 = { r with state } ∧ state ≠ .stopped ∧
      ((r.start s).1 = .ok () → r.state = .stopped) := by
  unfold start
  split
  · next hstate => exact ⟨r.state, rfl, hstate, nofun⟩
  next hstate =>
  -- only a consumer that was never started gets any further
  have hstopped : r.state = .stopped := Decidable.not_not.mp hstate
  dsimp only
  split
  · exact ⟨.terminated, rfl, nofun, nofun⟩
  split
  · exact ⟨.terminated, rfl, nofun, nofun⟩
  · exact ⟨.running, rfl, nofun, fun _ => hstopped⟩

/-- A consumer that is stopped is terminated. -/
theorem stop_run (r : ConsumerRun σ) (s : σ) : (r.stop s).1 = { r with state := .terminated } := by
  unfold stop
  split
  · next hstate => rw [← hstate]
  · rfl

/-- **What an advance does.** The delivery of the job moves to its next stage, or its job ends. -/
theorem advanceJob_cases {r : ConsumerRun σ} {j : Job Delivery}
    {finish : WorkerPool Delivery Unit → Outcome Unit → WorkerPool Delivery Unit} {s : σ}
    (h : (r.advanceJob j finish s).1 = true) :
    ∃ stage, r.stages.find? j.number = some stage ∧
      ((∃ stage' desk s', r.consumer.advance j.task stage r.desk s = (.at stage', desk, s') ∧
          r.advanceJob j finish s =
            (true, { r with desk, stages := r.stages.put j.number stage' }, s')) ∨
        ∃ outcome desk s', r.consumer.advance j.task stage r.desk s = (.ended outcome, desk, s') ∧
          r.advanceJob j finish s = (true,
            { r with desk, stages := r.stages.erase j.number, pool := finish r.pool outcome },
            s')) := by
  unfold advanceJob at h ⊢
  cases hstage : r.stages.find? j.number with
  | none => simp [hstage] at h
  | some stage =>
    refine ⟨stage, rfl, ?_⟩
    simp only [hstage] at h ⊢
    -- a job that is blocked does not move, and the others reach a stage or their end
    rcases hadvance : r.consumer.advance j.task stage r.desk s with ⟨_ | stage' | outcome, desk, s'⟩
    · simp [hadvance] at h
    · exact .inl ⟨stage', desk, s', rfl, rfl⟩
    · exact .inr ⟨outcome, desk, s', rfl, rfl⟩

/-- A worker that moves its delivery runs a job. -/
theorem advanceWorker_eq {r : ConsumerRun σ} {n : Nat} {s : σ}
    (h : (r.advanceWorker n s).1 = true) :
    ∃ j guard, (r.pool.worker? n).bind (·.running) = some (j, guard) ∧
      r.advanceWorker n s = r.advanceJob j (·.finish n) s := by
  unfold advanceWorker at h ⊢
  cases hworker : (r.pool.worker? n).bind (·.running) with
  | none => simp [hworker] at h
  | some job => exact ⟨job.1, job.2, rfl, rfl⟩

/-- A delivery that moves on the listening thread has a job there. -/
theorem advanceCaller_eq {r : ConsumerRun σ} {n : Nat} {s : σ}
    (h : (r.advanceCaller n s).1 = true) :
    ∃ j, r.pool.onCaller.find? (·.number == n) = some j ∧
      r.advanceCaller n s = r.advanceJob j (·.finishOnCaller n) s := by
  unfold advanceCaller at h ⊢
  cases hcaller : r.pool.onCaller.find? (·.number == n) with
  | none => simp [hcaller] at h
  | some j => exact ⟨j, rfl, rfl⟩

/-- For the pool, to receive a delivery is to be offered it. -/
theorem receive_pool (r : ConsumerRun σ) (d : Delivery) :
    (r.receive d).2.pool = (r.pool.offer d .empty).2 := by
  unfold receive
  simp only [count_pool]
  generalize r.pool.offer d .empty = offered
  obtain ⟨place, pool⟩ := offered
  cases place <;> rfl

/-- Picking a job is an event of the pool alone. -/
theorem pick_pool (r : ConsumerRun σ) (n : Nat) : (r.pick n).pool = r.pool.pick n := by
  unfold pick
  split
  · next hqueue => rw [WorkerPool.pick, hqueue]
  · rfl

end ConsumerRun

namespace Workplace

/-- What the consumer has in hand. -/
def docket (x : Workplace σ) : Docket := x.run.docket

/-- Whether an event concerns no delivery. -/
def Event.isQuiet : Event σ → Bool
  | .start => true
  | .retire _ => true
  | .leave _ => true
  | .stop => true
  | .shutdownPool => true
  | .elsewhere _ => true
  | _ => false

/-- Whether an event takes a delivery through a stage. -/
def Event.isWork : Event σ → Bool
  | .work _ => true
  | .workOnCaller _ => true
  | _ => false

/-- What an event does to a docket, one constructor for each thing that can happen. -/
inductive Change (x y : Workplace σ) : Event σ → Prop where
  | quiet {e : Event σ} (hquiet : e.isQuiet = true) (hdocket : y.docket = x.docket) : Change x y e
  /-- The pool refuses a delivery. -/
  | refused (d : Delivery) (hworld : y.world = x.world)
      (hdocket : y.docket =
        x.docket.received.count fun s => { s with dropped := s.dropped + 1 }) :
      Change x y (.receive d)
  | unstarted (d : Delivery) (reason : String) (hworld : y.world = x.world)
      (hdocket : y.docket =
        x.docket.received.count fun s => { s with dropped := s.dropped + 1 }) :
      Change x y (.receiveUnstarted d reason)
  /-- A delivery that is offered is begun at once. -/
  | begun (d : Delivery) (hworld : y.world = x.world)
      (hdocket : y.docket =
        { x.docket.received with handling := (d, .waiting) ::ₘ x.docket.handling }) :
      Change x y (.receive d)
  | queued (d : Delivery) (hworld : y.world = x.world)
      (hdocket : y.docket = { x.docket.received with queued := x.docket.queued ++ [d] }) :
      Change x y (.receive d)
  /-- A delivery is queued, and the oldest one is discarded for it. -/
  | evicted (d : Delivery) {oldest : Delivery} {rest : List Delivery} (hworld : y.world = x.world)
      (hqueued : x.docket.queued = oldest :: rest)
      (hdocket : y.docket = { x.docket.received with
        queued := rest ++ [d], discarded := x.docket.discarded + 1 }) :
      Change x y (.receive d)
  | dropped (d : Delivery) (hworld : y.world = x.world)
      (hdocket : y.docket =
        { x.docket.received with discarded := x.docket.discarded + 1 }) :
      Change x y (.receive d)
  | picked (n : Nat) {d : Delivery} {rest : List Delivery} (hworld : y.world = x.world)
      (hqueued : x.docket.queued = d :: rest)
      (hdocket : y.docket = { x.docket with
        queued := rest, handling := (d, .waiting) ::ₘ x.docket.handling }) :
      Change x y (.pick n)
  /-- A delivery moves to its next stage. -/
  | advanced {e : Event σ} {d : Delivery} {stage stage' : Stage} {desk : Desk}
      {rest : Multiset (Delivery × Stage)}
      (hhandling : x.docket.handling = (d, stage) ::ₘ rest)
      (hadvance : x.run.consumer.advance d stage x.run.desk x.world = (.at stage', desk, y.world))
      (hdocket : y.docket = { x.docket with handling := (d, stage') ::ₘ rest, desk })
      (hreports : x.reports e = x.run.consumer.reports d stage x.world)
      (hjob : (x.jobOf e).isSome = true) : Change x y e
  | ended {e : Event σ} {d : Delivery} {outcome : Outcome Unit}
      {rest : Multiset (Delivery × Stage)} (hworld : y.world = x.world)
      (hhandling : x.docket.handling = (d, .leaving outcome) ::ₘ rest)
      (hdocket : y.docket = { x.docket with
        handling := rest
        desk := { x.docket.desk with permits := x.docket.desk.permits.release } })
      (hreports : x.reports e = []) (hjob : (x.jobOf e).isSome = true) : Change x y e
  | discardedQueue (hworld : y.world = x.world)
      (hdocket : y.docket = { x.docket with
        queued := [], discarded := x.docket.discarded + x.docket.queued.length }) :
      Change x y .discardQueue

/-! ## Every step is a change -/

/-- The pool is sound, and its jobs are numbered apart. -/
structure Tracked (x : Workplace σ) : Prop where
  sound : x.run.pool.Sound
  numbered : x.run.pool.Numbered

section Receive

variable {r : ConsumerRun σ} {pool : WorkerPool Delivery Unit}

/-- What a consumer has in hand when it gets another pool, and the stages of some jobs change. -/
theorem docket_eq (stages : Table Nat Stage) (desk : Desk) {queued : List Delivery}
    {handling : Multiset (Delivery × Stage)} {discarded : Nat}
    (hqueued : pool.queue.map (·.task) = queued)
    (hhandling : (staged stages pool.running : Multiset _) = handling)
    (hdiscarded : pool.discarded = discarded) :
    ({ r with pool, stages, desk } : ConsumerRun σ).docket =
      { queued, handling, desk, discarded } :=
  Docket.ext hqueued hhandling rfl hdiscarded

/-- A job is begun: a new entry beside those of the jobs that run. -/
theorem staged_begin {j : Job Delivery} (hne : ∀ i ∈ r.pool.running, i.number ≠ j.number)
    (hrunning : pool.running.Perm (j :: r.pool.running)) :
    (staged (r.stages.put j.number .waiting) pool.running : Multiset (Delivery × Stage)) =
      (j.task, .waiting) ::ₘ r.docket.handling := by
  have hperm : (staged (r.stages.put j.number .waiting) pool.running).Perm
      (staged (r.stages.put j.number .waiting) (j :: r.pool.running)) := hrunning.map _
  rw [staged_put_cons .waiting hne] at hperm
  exact Multiset.coe_eq_coe.mpr hperm

end Receive

/-- **What the pool makes of a delivery** is one of the changes, one for each place where it can put
it. -/
theorem change_of_receive {x : Workplace σ} (tracked : Tracked x) (d : Delivery) :
    Change x { x with run := (x.run.receive d).2 } (.receive d) := by
  have placed := WorkerPool.placed_of_offer tracked.sound d .empty
  have hnext := tracked.numbered.next_ne
  unfold ConsumerRun.receive
  simp only [ConsumerRun.count_pool]
  generalize x.run.pool.offer d .empty = offered at placed
  obtain ⟨place, pool⟩ := offered
  -- where no job begins, the deliveries at a stage are those from before
  have hkept (h : pool.running = x.run.pool.running) :
      (staged x.run.stages pool.running : Multiset _) = x.docket.handling := by
    rw [h]
    rfl
  cases placed with
  | refused e hqueue hrunning hdiscarded =>
    refine .refused d rfl ?_
    exact docket_eq _ _ (congrArg _ hqueue) (hkept hrunning) hdiscarded
  | started worker hqueue hrunning hdiscarded =>
    refine .begun d rfl ?_
    exact docket_eq _ _ (congrArg _ hqueue) (staged_begin hnext hrunning) hdiscarded
  | toCaller hqueue hrunning hdiscarded =>
    refine .begun d rfl ?_
    exact docket_eq _ _ (congrArg _ hqueue) (staged_begin hnext hrunning) hdiscarded
  | queued hqueue hrunning hdiscarded =>
    refine .queued d rfl ?_
    refine docket_eq _ _ ?_ (hkept hrunning) hdiscarded
    rw [hqueue, List.map_append]
    rfl
  | evicted hfull hqueue hrunning hdiscarded =>
    refine .evicted d rfl (congrArg _ hfull) ?_
    refine docket_eq _ _ ?_ (hkept hrunning) hdiscarded
    rw [hqueue, List.map_append]
    rfl
  | dropped hqueue hrunning hdiscarded =>
    refine .dropped d rfl ?_
    exact docket_eq _ _ (congrArg _ hqueue) (hkept hrunning) hdiscarded

/-- A worker takes the oldest queued delivery. -/
theorem change_of_pick {x : Workplace σ} (tracked : Tracked x) {n : Nat}
    (h : x.run.pool.allows (.pick n) = true) :
    Change x { x with run := x.run.pick n } (.pick n) := by
  obtain ⟨j, rest, hqueue, hrest, hrunning, hdiscarded⟩ := WorkerPool.pick_cases tracked.sound h
  have hpick : x.run.pick n = { x.run with pool := x.run.pool.pick n }.begin j.number := by
    unfold ConsumerRun.pick
    rw [hqueue]
  rw [hpick]
  refine .picked n rfl (congrArg (List.map _) hqueue) ?_
  exact docket_eq _ _ (congrArg _ hrest)
    (staged_begin (tracked.numbered.queued_ne hqueue) hrunning) hdiscarded

/-- A job in hand goes on or ends, on whatever thread it runs. -/
theorem change_of_advanceJob {x : Workplace σ} {e : Event σ} (tracked : Tracked x)
    {j : Job Delivery}
    {finish : WorkerPool Delivery Unit → Outcome Unit → WorkerPool Delivery Unit}
    (hjob : x.jobOf e = some j)
    (hrunning : ∀ outcome, x.run.pool.running.Perm (j :: (finish x.run.pool outcome).running))
    (hkept : ∀ outcome, (finish x.run.pool outcome).queue = x.run.pool.queue ∧
      (finish x.run.pool outcome).discarded = x.run.pool.discarded)
    (hmoved : (x.run.advanceJob j finish x.world).1 = true) :
    Change x ⟨(x.run.advanceJob j finish x.world).2.1, (x.run.advanceJob j finish x.world).2.2⟩
      e := by
  obtain ⟨stage, hstage, hcases⟩ := ConsumerRun.advanceJob_cases hmoved
  have hreports : x.reports e = x.run.consumer.reports j.task stage x.world := by
    unfold reports
    rw [hjob]
    simp only [ConsumerRun.stageOf, hstage, Option.getD_some]
  -- the other jobs, whose stages are their own
  have split (outcome : Outcome Unit) : x.docket.handling = (j.task, stage) ::ₘ
      (staged x.run.stages (finish x.run.pool outcome).running : Multiset _) := by
    have hperm : x.run.handling.Perm
        (staged x.run.stages (j :: (finish x.run.pool outcome).running)) :=
      (hrunning outcome).map _
    rw [staged, List.map_cons, hstage, Option.getD_some] at hperm
    exact Multiset.coe_eq_coe.mpr hperm
  have hne (outcome : Outcome Unit) := tracked.numbered.others_ne (hrunning outcome)
  rcases hcases with ⟨stage', desk, s', hadvance, hresult⟩ | ⟨outcome, desk, s', hadvance, hresult⟩
  · -- the pool stays as it is, so any outcome gives the other jobs
    rw [hresult]
    refine .advanced (split (.returned ())) hadvance ?_ hreports (by rw [hjob]; rfl)
    refine docket_eq _ _ rfl ?_ rfl
    have hperm : (staged (x.run.stages.put j.number stage') x.run.pool.running).Perm
        (staged (x.run.stages.put j.number stage')
          (j :: (finish x.run.pool (.returned ())).running)) := (hrunning (.returned ())).map _
    rw [staged_put_cons stage' (hne _)] at hperm
    exact Multiset.coe_eq_coe.mpr hperm
  · -- only a delivery that leaves can end
    rw [hresult]
    obtain ⟨rfl, rfl, rfl⟩ := Consumer.advance_ended hadvance
    refine .ended rfl (split outcome) ?_ hreports (by rw [hjob]; rfl)
    refine docket_eq _ _ ?_ ?_ (hkept outcome).2
    · rw [(hkept outcome).1]
      rfl
    · rw [staged_erase (hne outcome)]

/-- A pool with the same queue and the same jobs in hand makes no difference. -/
theorem docket_withPool {x : Workplace σ} {pool : WorkerPool Delivery Unit}
    (hqueue : pool.queue = x.run.pool.queue) (hrunning : pool.running = x.run.pool.running)
    (hdiscarded : pool.discarded = x.run.pool.discarded) :
    (x.withPool pool).docket = x.docket := by
  refine docket_eq _ _ (congrArg _ hqueue) ?_ hdiscarded
  rw [hrunning]
  rfl

/-- A step is an event that is allowed, applied. -/
theorem step_eq_some_iff {x y : Workplace σ} {e : Event σ} :
    x.step e = some y ↔ x.allows e = true ∧ x.apply e = y := by
  unfold step
  split
  · next hallows => simp [hallows]
  · next hallows => simp [hallows]

/-- **Every step is a change.** -/
theorem change_of_step {x y : Workplace σ} {e : Event σ} (tracked : Tracked x)
    (h : x.step e = some y) : Change x y e := by
  obtain ⟨hallows, rfl⟩ := step_eq_some_iff.mp h
  cases e with
  | start =>
    obtain ⟨state, hrun, -⟩ := x.run.start_run x.world
    refine .quiet rfl ?_
    simp only [apply, docket, hrun]
    rfl
  | receive d => exact change_of_receive tracked d
  | receiveUnstarted d reason => exact .unstarted d reason rfl rfl
  | pick n => exact change_of_pick tracked hallows
  | work n =>
    obtain ⟨j, guard, hworker, hmoves⟩ := ConsumerRun.advanceWorker_eq hallows
    have hjob : x.jobOf (.work n) = some j := by rw [jobOf, hworker]; rfl
    simp only [apply, hmoves]
    exact change_of_advanceJob tracked hjob (WorkerPool.running_finish tracked.sound hworker)
      (x.run.pool.finish_kept n) (hmoves ▸ hallows)
  | workOnCaller n =>
    obtain ⟨j, hcaller, hmoves⟩ := ConsumerRun.advanceCaller_eq hallows
    simp only [apply, hmoves]
    exact change_of_advanceJob tracked hcaller
      (WorkerPool.running_finishOnCaller tracked.sound hcaller)
      (x.run.pool.finishOnCaller_kept n) (hmoves ▸ hallows)
  -- a worker that leaves is idle and takes no delivery with it
  | retire n =>
    have hidle := (Bool.and_eq_true_iff.mp hallows).1
    exact .quiet rfl (docket_withPool rfl (WorkerPool.running_leave tracked.sound hidle) rfl)
  | leave n =>
    have hidle := (Bool.and_eq_true_iff.mp hallows).1
    exact .quiet rfl (docket_withPool rfl (WorkerPool.running_leave tracked.sound hidle) rfl)
  | stop =>
    have hrun := x.run.stop_run x.world
    refine .quiet rfl ?_
    simp only [apply, docket, hrun]
    rfl
  | shutdownPool => exact .quiet rfl (docket_withPool rfl rfl rfl)
  | discardQueue =>
    obtain ⟨hqueue, hrunning, hdiscarded⟩ := x.run.pool.discardQueue_kept
    refine .discardedQueue rfl ?_
    refine docket_eq _ _ (congrArg _ hqueue) ?_ ?_
    · rw [hrunning]
      rfl
    · -- each delivery that was queued is counted as discarded
      rw [hdiscarded]
      exact congrArg _ (List.length_map _).symm
  | elsewhere f => exact .quiet rfl rfl

/-- Only an event that moves a job reports anything. -/
theorem reports_of_jobOf_none {x : Workplace σ} {e : Event σ} (h : x.jobOf e = none) :
    x.reports e = [] := by
  unfold reports
  rw [h]

theorem reports_of_isQuiet {x : Workplace σ} {e : Event σ} (h : e.isQuiet = true) :
    x.reports e = [] := by
  refine reports_of_jobOf_none ?_
  cases e <;> first | rfl | cases h

theorem Change.docket_of_isQuiet {x y : Workplace σ} {e : Event σ} (h : Change x y e)
    (hquiet : e.isQuiet = true) : y.docket = x.docket := by
  cases h with
  | quiet _ hdocket => exact hdocket
  | advanced _ _ _ _ hjob | ended _ _ _ _ hjob => cases e <;> first | cases hjob | cases hquiet
  | _ => cases hquiet

/-! ## Tracked consumers -/

/-- What an event of a consumer is for its pool. -/
inductive PoolStep (p : WorkerPool Delivery Unit) : WorkerPool Delivery Unit → Prop where
  | none : PoolStep p p
  | one {q : WorkerPool Delivery Unit} {a : WorkerPool.Event Delivery Unit}
      (h : p.step a = some q) : PoolStep p q
  | unstarted (reason : String) : PoolStep p (p.offerUnstarted reason).2

/-- The pool after a delivery moved on: as it was, or with its job ended. -/
theorem poolStep_of_advanceJob {r : ConsumerRun σ} {j : Job Delivery}
    {finish : WorkerPool Delivery Unit → Outcome Unit → WorkerPool Delivery Unit} {s : σ}
    {a : Outcome Unit → WorkerPool.Event Delivery Unit}
    (hfinish : ∀ outcome, r.pool.step (a outcome) = some (finish r.pool outcome))
    (hmoved : (r.advanceJob j finish s).1 = true) :
    PoolStep r.pool (r.advanceJob j finish s).2.1.pool := by
  obtain ⟨stage, -, hcases⟩ := ConsumerRun.advanceJob_cases hmoved
  rcases hcases with ⟨stage', desk, s', -, hresult⟩ | ⟨outcome, desk, s', -, hresult⟩
  · rw [hresult]
    exact .none
  · rw [hresult]
    exact .one (hfinish outcome)

/-- **Every step is at most one event of the pool.** -/
theorem poolStep_of_step {x y : Workplace σ} {e : Event σ} (h : x.step e = some y) :
    PoolStep x.run.pool y.run.pool := by
  obtain ⟨hallows, rfl⟩ := step_eq_some_iff.mp h
  have possible {a : WorkerPool.Event Delivery Unit} (ha : x.run.pool.allows a = true) :
      x.run.pool.step a = some (x.run.pool.apply a) :=
    WorkerPool.step_eq_some_iff.mpr ⟨ha, rfl⟩
  cases e with
  | start =>
    obtain ⟨state, hrun, -⟩ := x.run.start_run x.world
    simp only [apply, hrun]
    exact .none
  | receive d =>
    simp only [apply, ConsumerRun.receive_pool]
    exact .one (possible (a := .offer d .empty) rfl)
  | receiveUnstarted d reason => exact .unstarted reason
  | pick n =>
    simp only [apply, ConsumerRun.pick_pool]
    exact .one (possible (a := .pick n) hallows)
  | work n =>
    obtain ⟨j, guard, hworker, hmoves⟩ := ConsumerRun.advanceWorker_eq hallows
    simp only [apply, hmoves]
    exact poolStep_of_advanceJob
      (fun outcome => possible (a := .finish n outcome) (WorkerPool.hasBusy_of_running hworker))
      (hmoves ▸ hallows)
  | workOnCaller n =>
    obtain ⟨j, hcaller, hmoves⟩ := ConsumerRun.advanceCaller_eq hallows
    simp only [apply, hmoves]
    exact poolStep_of_advanceJob
      (fun outcome => possible (a := .finishOnCaller n outcome) (WorkerPool.any_of_find? hcaller))
      (hmoves ▸ hallows)
  | retire n => exact .one (possible (a := .retire n) hallows)
  | leave n => exact .one (possible (a := .leave n) hallows)
  -- the consumer itself is stopped before its pool is
  | stop =>
    have hrun := x.run.stop_run x.world
    simp only [apply, hrun]
    exact .none
  | shutdownPool => exact .one (possible (a := .shutdown) rfl)
  | discardQueue => exact .one (possible (a := .discardQueue) rfl)
  | elsewhere f => exact .none

/-- **Every step keeps a consumer tracked.** -/
theorem Tracked.step {x y : Workplace σ} {e : Event σ} (tracked : Tracked x)
    (h : x.step e = some y) : Tracked y := by
  have hpool := poolStep_of_step h
  obtain ⟨sound, numbered⟩ := tracked
  -- both are properties of the pool, for which the step is at most one event
  suffices y.run.pool.Sound ∧ y.run.pool.Numbered from ⟨this.1, this.2⟩
  generalize y.run.pool = q at hpool
  cases hpool with
  | none => exact ⟨sound, numbered⟩
  | one ha =>
    have htransition := WorkerPool.transition_of_step sound ha
    exact ⟨sound.transition htransition, numbered.transition htransition⟩
  | unstarted reason => exact ⟨sound.offerUnstarted reason, numbered.offerUnstarted reason⟩

/-! ## Reachable states -/

/-- A step changes nothing that the consumer works with, and leads to no consumer that was not started
but from one. -/
theorem frame_of_step {x y : Workplace σ} {e : Event σ} (h : x.step e = some y) :
    y.run.consumer = x.run.consumer ∧ (y.run.state = .stopped → x.run.state = .stopped) := by
  obtain ⟨-, rfl⟩ := step_eq_some_iff.mp h
  -- a stage changes the figures, the stages and the pool at most
  have hadvance (j : Job Delivery)
      (finish : WorkerPool Delivery Unit → Outcome Unit → WorkerPool Delivery Unit) :
      (x.run.advanceJob j finish x.world).2.1.consumer = x.run.consumer ∧
        (x.run.advanceJob j finish x.world).2.1.state = x.run.state := by
    unfold ConsumerRun.advanceJob
    split
    · exact ⟨rfl, rfl⟩
    · split <;> exact ⟨rfl, rfl⟩
  cases e with
  | start =>
    obtain ⟨state, hrun, hstate, -⟩ := x.run.start_run x.world
    show (x.run.start x.world).2.1.consumer = _ ∧ ((x.run.start x.world).2.1.state = _ → _)
    rw [hrun]
    exact ⟨rfl, fun h => absurd h hstate⟩
  | stop =>
    show (x.run.stop x.world).1.consumer = _ ∧ ((x.run.stop x.world).1.state = _ → _)
    rw [x.run.stop_run x.world]
    exact ⟨rfl, nofun⟩
  | receive d =>
    simp only [apply, ConsumerRun.receive]
    split <;> exact ⟨rfl, id⟩
  | pick n =>
    simp only [apply, ConsumerRun.pick]
    split <;> exact ⟨rfl, id⟩
  | work n =>
    simp only [apply, ConsumerRun.advanceWorker]
    split
    · exact ⟨rfl, id⟩
    · obtain ⟨hconsumer, hstate⟩ := hadvance _ _
      exact ⟨hconsumer, fun h => hstate.symm.trans h⟩
  | workOnCaller n =>
    simp only [apply, ConsumerRun.advanceCaller]
    split
    · exact ⟨rfl, id⟩
    · obtain ⟨hconsumer, hstate⟩ := hadvance _ _
      exact ⟨hconsumer, fun h => hstate.symm.trans h⟩
  | _ => exact ⟨rfl, id⟩

/-- What is made for settings is a pool without workers. -/
theorem pool_of_ofConfig {p : PoolConfig} {pool : WorkerPool Delivery Unit}
    (h : WorkerPool.ofConfig p = .ok pool) : p.validate = .ok () ∧ pool = { config := p } := by
  unfold WorkerPool.ofConfig at h
  cases hvalid : p.validate with
  | error e => simp [hvalid, bind, Except.bind] at h
  | ok u =>
    simp only [hvalid, bind, Except.bind, pure, Except.pure, Except.ok.injEq] at h
    exact ⟨rfl, h.symm⟩

/-- What is made with a pool has nothing in hand. -/
theorem run_of_create {c : Consumer σ} {pool : WorkerPool Delivery Unit} {run : ConsumerRun σ}
    (h : ConsumerRun.create c pool = .ok run) :
    run = { consumer := c, pool, desk := { permits := .full c.config.maxConcurrent } } := by
  unfold ConsumerRun.create at h
  cases hvalid : c.config.validate with
  | error e => simp [hvalid, bind, Except.bind] at h
  | ok u =>
    simp only [hvalid, bind, Except.bind, pure, Except.pure, Except.ok.injEq] at h
    exact h.symm

variable {c : Consumer σ} {p : PoolConfig} {x : Workplace σ}

/-- What a list of events leads to from a reachable state is reachable. -/
theorem Reachable.after {y : Workplace σ} (h : Reachable c p x) {es : List (Event σ)}
    (hafter : x.after es = some y) : Reachable c p y :=
  Runs.keeps (I := fun _ y => Reachable c p y) h (fun _ hstep reached => reached.step hstep) hafter

/-- **Every consumer at work is tracked**, and works with what it was made with. -/
theorem Reachable.tracked (h : Reachable c p x) : Tracked x ∧ x.run.consumer = c := by
  induction h with
  | start world hpool hrun =>
    obtain ⟨valid, rfl⟩ := pool_of_ofConfig hpool
    obtain rfl := run_of_create hrun
    exact ⟨⟨WorkerPool.sound_start valid, WorkerPool.numbered_start p⟩, rfl⟩
  | step reached next ih => exact ⟨ih.1.step next, (frame_of_step next).1.trans ih.2⟩

/-- **Invariants of a consumer.** What holds of a consumer that has nothing in hand and is kept by
every change holds of every state that is reached. -/
theorem invariant_of_reachable (I : Workplace σ → Prop)
    (start : ∀ (run : ConsumerRun σ) (world : σ), run.consumer = c →
      run.docket = { queued := [], handling := 0, desk := run.desk, discarded := 0 } →
      run.desk.stats = {} → I { run, world })
    (step : ∀ {x y : Workplace σ} {e : Event σ}, x.run.consumer = c → Change x y e → I x → I y)
    (h : Reachable c p x) : I x := by
  induction h with
  | start world hpool hrun =>
    obtain ⟨valid, rfl⟩ := pool_of_ofConfig hpool
    obtain rfl := run_of_create hrun
    exact start _ world rfl rfl rfl
  | step reached next ih =>
    -- the step starts from a tracked consumer, so that it is one of the changes
    obtain ⟨tracked, hconsumer⟩ := reached.tracked
    exact step hconsumer (change_of_step tracked next) ih

end Workplace

end KeyedDelivery
