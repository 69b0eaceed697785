import KeyedDelivery.Proofs.Pool.Transition
import Mathlib.Data.List.Perm.Subperm

/-!
# Jobs keep apart

A job is queued, or it runs on a worker or on its submitter's thread. What a transition does to the
jobs that run is said here once, without the workers.

* **`running_begin`**, **`running_ended`**, **`running_idle`** — a worker that begins a job adds it to
  those that run, one that ends it takes it out, and an idle one that leaves changes nothing.
* **`Placed`** — where an offered task can go, and what each place does to the jobs.
* **`Numbered`** — the jobs that are queued or run have different numbers, smaller than that of the
  next submission. Every transition keeps it (`Numbered.transition`).
-/

namespace KeyedDelivery.WorkerPool

variable {τ ρ : Type} {p q : WorkerPool τ ρ}

/-! ## The jobs that run -/

/-- A worker that begins a job adds it to those that run. -/
theorem running_begin {l₁ l₂ : List (Worker τ)} {w : Worker τ} (hworkers : p.workers = l₁ ++ w :: l₂)
    (idle : w.running = none) (j : Job τ) (hq : q.workers = l₁ ++ w.begin j :: l₂)
    (hcallers : q.onCaller = p.onCaller) : q.running.Perm (j :: p.running) := by
  have hbegin : (w.begin j).running.map (·.1) = some j := rfl
  unfold running
  rw [hq, hworkers, hcallers]
  simp only [List.filterMap_append, List.filterMap_cons, idle, hbegin, Option.map_none]
  rw [List.append_assoc, List.append_assoc, List.cons_append]
  exact List.perm_middle

/-- A worker that ends its job takes it out of those that run. -/
theorem running_ended {l₁ l₂ : List (Worker τ)} {w : Worker τ} {j : Job τ}
    {guard : LogContext.Guard} (hworkers : p.workers = l₁ ++ w :: l₂)
    (hrunning : w.running = some (j, guard)) (hq : q.workers = l₁ ++ w.ended :: l₂)
    (hcallers : q.onCaller = p.onCaller) : p.running.Perm (j :: q.running) := by
  -- the worker is idle then, so the filter skips it
  have hended : w.ended.running = none := by
    have hidle := ended_isIdle w
    simpa [Worker.isIdle] using hidle
  unfold running
  rw [hq, hworkers, hcallers]
  simp only [List.filterMap_append, List.filterMap_cons, hrunning, hended, Option.map_some,
    Option.map_none]
  rw [List.append_assoc, List.append_assoc, List.cons_append]
  exact List.perm_middle

/-- An idle worker that leaves runs nothing, so nothing is missing. -/
theorem running_idle {l₁ l₂ : List (Worker τ)} {w : Worker τ} (hworkers : p.workers = l₁ ++ w :: l₂)
    (idle : w.running = none) (hq : q.workers = l₁ ++ l₂) (hcallers : q.onCaller = p.onCaller) :
    q.running = p.running := by
  unfold running
  rw [hq, hworkers, hcallers]
  simp [idle]

/-- A worker started with a job adds it as an idle one does. -/
theorem running_started (w : Worker τ) (j : Job τ) (hq : q.workers = p.workers ++ [w.begin j])
    (hcallers : q.onCaller = p.onCaller) : q.running.Perm (j :: p.running) := by
  have hbegin : (w.begin j).running.map (·.1) = some j := rfl
  unfold running
  rw [hq, hcallers]
  simp only [List.filterMap_append, List.filterMap_cons, hbegin, List.filterMap_nil]
  rw [List.append_assoc, List.singleton_append]
  exact List.perm_middle

/-- So does a thread that runs its own task. -/
theorem running_toCaller (j : Job τ) (hq : q.workers = p.workers)
    (hcallers : q.onCaller = p.onCaller ++ [j]) : q.running.Perm (j :: p.running) := by
  unfold running
  rw [hq, hcallers, ← List.append_assoc]
  exact List.perm_append_singleton j _

/-- A thread that is done with its own task takes it out. -/
theorem running_finishedOnCaller {l₁ l₂ : List (Job τ)} {j : Job τ} (hq : q.workers = p.workers)
    (hcallers : p.onCaller = l₁ ++ j :: l₂) (hleft : q.onCaller = l₁ ++ l₂) :
    p.running.Perm (j :: q.running) := by
  unfold running
  rw [hq, hcallers, hleft, ← List.append_assoc, ← List.append_assoc]
  exact List.perm_middle

/-- A worker whose context changes runs what it ran. -/
theorem running_updated {l₁ l₂ : List (Worker τ)} {w w' : Worker τ}
    (hworkers : p.workers = l₁ ++ w :: l₂) (hsame : w'.running = w.running)
    (hq : q.workers = l₁ ++ w' :: l₂) (hcallers : q.onCaller = p.onCaller) :
    q.running = p.running := by
  unfold running
  rw [hq, hworkers, hcallers]
  simp only [List.filterMap_append, List.filterMap_cons, hsame]

theorem hasBusy_of_running {n : Nat} {j : Job τ} {guard : LogContext.Guard}
    (h : (p.worker? n).bind (·.running) = some (j, guard)) : p.hasBusy n = true := by
  obtain ⟨w, hw, hrunning⟩ := Option.bind_eq_some_iff.mp h
  simp [hasBusy, hw, Worker.isIdle, hrunning]

theorem any_of_find? {n : Nat} {j : Job τ} (h : p.onCaller.find? (·.number == n) = some j) :
    p.onCaller.any (·.number == n) = true :=
  List.any_eq_true.mpr ⟨j, List.mem_of_find?_eq_some h, by simpa using List.find?_some h⟩

/-- An idle worker takes the oldest queued job. -/
theorem pick_cases (sound : Sound p) {n : Nat} (h : p.allows (.pick n) = true) :
    ∃ j rest, p.queue = j :: rest ∧ (p.pick n).queue = rest ∧
      (p.pick n).running.Perm (j :: p.running) ∧ (p.pick n).discarded = p.discarded := by
  have htransition : Transition p (.pick n) (p.pick n) :=
    transition_of_step sound (step_eq_some_iff.mpr ⟨h, rfl⟩)
  generalize p.pick n = q at htransition
  cases htransition with
  | @picked l₁ l₂ w j rest hworkers idle hqueue =>
    exact ⟨j, rest, hqueue, rfl, running_begin hworkers idle j rfl rfl, rfl⟩

/-- The same of the operation itself, for the job of the worker it finds. -/
theorem running_finish (sound : Sound p) {n : Nat} {j : Job τ} {guard : LogContext.Guard}
    (h : (p.worker? n).bind (·.running) = some (j, guard)) (outcome : Outcome ρ) :
    p.running.Perm (j :: (p.finish n outcome).running) := by
  obtain ⟨w, hw, hrunning⟩ := Option.bind_eq_some_iff.mp h
  obtain ⟨l₁, l₂, -, hworkers, hmap, -⟩ := split_worker sound hw
  refine running_ended hworkers hrunning ?_ ?_
  · simp only [finish, hw, Option.bind_some, hrunning, modifyWorker, record_eq, hmap]
  · simp only [finish, hw, Option.bind_some, hrunning, modifyWorker, record_eq]

/-- And for a thread that finishes the task of a number. -/
theorem running_finishOnCaller (sound : Sound p) {n : Nat} {j : Job τ}
    (h : p.onCaller.find? (·.number == n) = some j) (outcome : Outcome ρ) :
    p.running.Perm (j :: (p.finishOnCaller n outcome).running) := by
  obtain ⟨l₁, i, l₂, -, hfind, hcallers, hfilter⟩ := split_caller sound (any_of_find? h)
  obtain rfl : i = j := Option.some.inj (hfind.symm.trans h)
  refine running_finishedOnCaller ?_ hcallers ?_
  · simp only [finishOnCaller, hfind, record_eq]
  · simp only [finishOnCaller, hfind, record_eq, hfilter]

theorem running_leave (sound : Sound p) {n : Nat} (h : p.hasIdle n = true) :
    (p.leave n).running = p.running := by
  obtain ⟨w, hw, idle⟩ := worker_of_hasIdle h
  obtain ⟨l₁, l₂, -, hworkers, -, hleave⟩ := split_worker sound hw
  exact running_idle hworkers idle hleave rfl

theorem discardQueue_kept (p : WorkerPool τ ρ) :
    p.discardQueue.2.queue = [] ∧ p.discardQueue.2.running = p.running ∧
      p.discardQueue.2.discarded = p.discarded + p.queue.length := by
  unfold discardQueue
  simp only [settleDropped_eq]
  exact ⟨trivial, rfl, trivial⟩

/-- A job that ends is no matter of those that are queued. -/
theorem finish_kept (p : WorkerPool τ ρ) (n : Nat) (outcome : Outcome ρ) :
    (p.finish n outcome).queue = p.queue ∧ (p.finish n outcome).discarded = p.discarded := by
  unfold finish
  split
  · exact ⟨rfl, rfl⟩
  · rw [record_eq]
    exact ⟨rfl, rfl⟩

theorem finishOnCaller_kept (p : WorkerPool τ ρ) (n : Nat) (outcome : Outcome ρ) :
    (p.finishOnCaller n outcome).queue = p.queue ∧
      (p.finishOnCaller n outcome).discarded = p.discarded := by
  unfold finishOnCaller
  split
  · exact ⟨rfl, rfl⟩
  · rw [record_eq]
    exact ⟨rfl, rfl⟩

/-! ## Where an offered task goes -/

/-- What an offer does to the jobs of a pool, by the place the task goes to. -/
inductive Placed (p q : WorkerPool τ ρ) (j : Job τ) : Placement → Prop where
  | refused (e : PoolError) (hqueue : q.queue = p.queue) (hrunning : q.running = p.running)
      (hdiscarded : q.discarded = p.discarded) : Placed p q j (.refused e)
  | started (worker : Nat) (hqueue : q.queue = p.queue)
      (hrunning : q.running.Perm (j :: p.running)) (hdiscarded : q.discarded = p.discarded) :
      Placed p q j (.started worker)
  | queued (hqueue : q.queue = p.queue ++ [j]) (hrunning : q.running = p.running)
      (hdiscarded : q.discarded = p.discarded) : Placed p q j .queued
  | evicted {oldest : Job τ} {rest : List (Job τ)} (hfull : p.queue = oldest :: rest)
      (hqueue : q.queue = rest ++ [j]) (hrunning : q.running = p.running)
      (hdiscarded : q.discarded = p.discarded + 1) : Placed p q j .queued
  | dropped (hqueue : q.queue = p.queue) (hrunning : q.running = p.running)
      (hdiscarded : q.discarded = p.discarded + 1) : Placed p q j .dropped
  | toCaller (hqueue : q.queue = p.queue) (hrunning : q.running.Perm (j :: p.running))
      (hdiscarded : q.discarded = p.discarded) : Placed p q j (.toCaller j.number)

/-- **Every offer places its task.** -/
theorem placed_of_offer (sound : Sound p) (task : τ) (context : LogContext) :
    Placed p (p.offer task context).2 (p.nextJob task context) (p.offer task context).1 := by
  have h := offered_of_offer sound task context
  -- each branch of the offer is one place; those that start a job also list it
  generalize (p.offer task context).1 = place, (p.offer task context).2 = q at h
  cases h with
  | refused | rejected => exact .refused _ rfl rfl rfl
  | started => exact .started _ rfl (running_started _ (p.nextJob task context) rfl rfl) rfl
  | queued => exact .queued rfl rfl rfl
  | evicted isOpen full policy hqueue => exact .evicted hqueue rfl rfl rfl
  | dropped => exact .dropped rfl rfl rfl
  | toCaller => exact .toCaller rfl (running_toCaller (p.nextJob task context) rfl rfl) rfl

/-! ## Numbers -/

/-- The jobs that are queued or run have numbers of their own, which were given out. -/
structure Numbered (p : WorkerPool τ ρ) : Prop where
  distinct : ((p.queue ++ p.running).map (·.number)).Nodup
  offered : ∀ j ∈ p.queue ++ p.running, j.number < p.submitted

namespace Numbered

/-- When no job is new, the numbers stay as they were. -/
theorem of_subperm (numbered : Numbered p)
    (hjobs : (q.queue ++ q.running).Subperm (p.queue ++ p.running))
    (hsubmitted : p.submitted ≤ q.submitted) : Numbered q where
  distinct := by
    obtain ⟨l, hperm, hsub⟩ := hjobs
    exact (hperm.map _).nodup_iff.mp (numbered.distinct.sublist (hsub.map _))
  offered j hj := Nat.lt_of_lt_of_le (numbered.offered j (hjobs.subset hj)) hsubmitted

/-- A job that is new has the number of the submission. -/
theorem of_new (numbered : Numbered p) {j : Job τ} (hnumber : j.number = p.submitted)
    (hjobs : (q.queue ++ q.running).Subperm (j :: (p.queue ++ p.running)))
    (hsubmitted : q.submitted = p.submitted + 1) : Numbered q := by
  -- all numbers that are in use were given out earlier
  have hnew : j.number ∉ (p.queue ++ p.running).map (·.number) := by
    intro hmem
    obtain ⟨i, hi, heq⟩ := List.mem_map.mp hmem
    have hlt := numbered.offered i hi
    omega
  refine ⟨?_, fun i hi => ?_⟩
  · obtain ⟨l, hperm, hsub⟩ := hjobs
    have hcons : ((j :: (p.queue ++ p.running)).map (·.number)).Nodup :=
      List.nodup_cons.mpr ⟨hnew, numbered.distinct⟩
    exact (hperm.map _).nodup_iff.mp (hcons.sublist (hsub.map _))
  · rcases List.mem_cons.mp (hjobs.subset hi) with rfl | hi
    · omega
    · have hlt := numbered.offered i hi
      omega

/-- As long as the same jobs run, no other job comes up, whatever is queued beside them. -/
theorem subperm_of_same (queue : List (Job τ)) (h : q.running = p.running) :
    (queue ++ q.running).Subperm (queue ++ p.running) := by
  rw [h]

/-- A job that begins is added once. -/
theorem subperm_of_begun {j : Job τ} (queue : List (Job τ)) (h : q.running.Perm (j :: p.running)) :
    (queue ++ q.running).Subperm (j :: (queue ++ p.running)) :=
  ((h.append_left queue).trans List.perm_middle).subperm

/-- A job that ends only takes itself away. -/
theorem subperm_of_ended {j : Job τ} (queue : List (Job τ)) (h : p.running.Perm (j :: q.running)) :
    (queue ++ q.running).Subperm (queue ++ p.running) := by
  have hall := (h.append_left queue).trans List.perm_middle
  exact (List.sublist_cons_self j _).subperm.trans hall.symm.subperm

/-- A running job shares its number with no other that runs. -/
theorem others_ne (numbered : Numbered p) {j : Job τ} {others : List (Job τ)}
    (h : p.running.Perm (j :: others)) : ∀ i ∈ others, i.number ≠ j.number := by
  have hrunning : (p.running.map (·.number)).Nodup :=
    numbered.distinct.sublist ((List.sublist_append_right p.queue p.running).map _)
  -- numbers are distinct in any order, so also with the job in front
  have hcons : ((j :: others).map (·.number)).Nodup := (h.map _).nodup_iff.mp hrunning
  intro i hi heq
  exact (List.nodup_cons.mp hcons).1 (List.mem_map.mpr ⟨i, hi, heq⟩)

/-- Nor does the job at the head of the queue. -/
theorem queued_ne (numbered : Numbered p) {j : Job τ} {rest : List (Job τ)}
    (h : p.queue = j :: rest) : ∀ i ∈ p.running, i.number ≠ j.number := by
  have hall := numbered.distinct
  rw [h, List.cons_append, List.map_cons] at hall
  intro i hi heq
  exact (List.nodup_cons.mp hall).1 (List.mem_map.mpr ⟨i, List.mem_append_right rest hi, heq⟩)

/-- The number of the next submission is not in use. -/
theorem next_ne (numbered : Numbered p) : ∀ i ∈ p.running, i.number ≠ p.submitted := by
  intro i hi
  exact Nat.ne_of_lt (numbered.offered i (List.mem_append_right p.queue hi))

/-- **Every transition keeps jobs apart.** -/
theorem transition {e : Event τ ρ} (numbered : Numbered p) (h : Transition p e q) : Numbered q := by
  cases h with
  | refused | shutdown => exact ⟨numbered.distinct, numbered.offered⟩
  | started task context =>
    refine numbered.of_new (j := p.nextJob task context) rfl ?_ rfl
    exact subperm_of_begun p.queue (running_started _ _ rfl rfl)
  | queued task context =>
    refine numbered.of_new (j := p.nextJob task context) rfl ?_ rfl
    exact ((List.perm_append_singleton _ p.queue).append_right p.running).subperm
  | @evicted task context isOpen full policy oldest rest hqueue =>
    refine numbered.of_new (j := p.nextJob task context) rfl ?_ rfl
    -- the oldest job is gone, and the new one stands at the end
    rw [hqueue]
    have hrest : (rest ++ [p.nextJob task context]).Perm (p.nextJob task context :: rest) :=
      List.perm_append_singleton _ rest
    have hsub : (p.nextJob task context :: (rest ++ p.running)).Sublist
        (p.nextJob task context :: (oldest :: rest ++ p.running)) :=
      (List.sublist_cons_self oldest _).cons_cons _
    exact (hrest.append_right p.running).subperm.trans hsub.subperm
  | dropped | rejected =>
    exact numbered.of_subperm (List.Subperm.refl _) (Nat.le_succ p.submitted)
  | toCaller task context =>
    refine numbered.of_new (j := p.nextJob task context) rfl ?_ rfl
    exact subperm_of_begun p.queue (running_toCaller _ rfl rfl)
  | @picked l₁ l₂ w j rest hworkers idle hqueue =>
    refine numbered.of_subperm ?_ (Nat.le_refl _)
    rw [hqueue]
    exact subperm_of_begun rest (running_begin hworkers idle j rfl rfl)
  | finished hworkers running =>
    refine numbered.of_subperm ?_ (Nat.le_refl _)
    exact subperm_of_ended p.queue (running_ended hworkers running rfl rfl)
  | finishedOnCaller hcallers =>
    refine numbered.of_subperm ?_ (Nat.le_refl _)
    exact subperm_of_ended p.queue (running_finishedOnCaller rfl hcallers rfl)
  | updated hworkers =>
    refine numbered.of_subperm ?_ (Nat.le_refl _)
    refine subperm_of_same p.queue (running_updated hworkers ?_ rfl rfl)
    rfl
  | retired hworkers idle | left hworkers idle =>
    refine numbered.of_subperm ?_ (Nat.le_refl _)
    exact subperm_of_same p.queue (running_idle hworkers idle rfl rfl)
  | discardedQueue =>
    exact numbered.of_subperm (List.sublist_append_right _ _).subperm (Nat.le_refl _)

/-- So does a task whose worker could not be started: its number is used up. -/
theorem offerUnstarted (numbered : Numbered p) (reason : String) :
    Numbered (p.offerUnstarted reason).2 :=
  numbered.of_subperm (List.Subperm.refl _) (Nat.le_succ p.submitted)

end Numbered

theorem numbered_start (c : PoolConfig) : Numbered ({ config := c } : WorkerPool τ ρ) where
  distinct := List.nodup_nil
  offered := fun _ h => nomatch h

theorem Sound.offerUnstarted (sound : Sound p) (reason : String) :
    Sound (p.offerUnstarted reason).2 :=
  { sound with
    started := fun w hw => Nat.le_succ_of_le (sound.started w hw)
    offered := fun j hj => Nat.lt_succ_of_lt (sound.offered j hj) }

end KeyedDelivery.WorkerPool
