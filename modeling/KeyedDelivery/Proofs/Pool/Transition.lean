import KeyedDelivery.Pool.Event
import KeyedDelivery.Proofs.Runs

/-!
# What one event does to a pool

Every invariant of a pool is proved over the same list of cases, which is stated once here.

* **`Sound`** — the counters of a pool describe its workers: they have different numbers, `threads`
  is how many there are, and `active` how many of them run a job.
* **`Transition`** — one constructor for each thing that can happen, with the state it leads to. The
  worker or the job that an event is about is split off from its list.
* **`Offered`** — the cases of an offer, by the place the task goes to.
* **`transition_of_step`** — whatever a step of a sound pool does is one of these.
* **`sound_of_reachable`** — every state that a pool with valid settings reaches is sound.
-/

namespace KeyedDelivery

/-! ## Valid settings -/

/-- What settings that are not refused satisfy. -/
theorem PoolConfig.validate_eq_ok_iff (c : PoolConfig) :
    c.validate = .ok () ↔
      isFilled c.name ∧ 0 < c.maxSize ∧ c.coreSize ≤ c.maxSize ∧ 0 < c.queueCapacity := by
  unfold PoolConfig.validate ConfigError.unless
  by_cases hname : isFilled c.name <;> by_cases hmax : 0 < c.maxSize <;>
    by_cases hcore : c.coreSize ≤ c.maxSize <;> by_cases hqueue : 0 < c.queueCapacity <;>
    simp [hname, hmax, hcore, hqueue, bind, Except.bind]

namespace WorkerPool

variable {τ ρ : Type}

/-! ## Splitting a numbered list -/

/-- What is found by its number stands at one place of a list without repeated numbers. -/
theorem split_of_find? {α : Type} {number : α → Nat} {l : List α} {n : Nat} {a : α}
    (hnodup : (l.map number).Nodup) (h : l.find? (number · == n) = some a) :
    ∃ l₁ l₂, l = l₁ ++ a :: l₂ ∧ number a = n ∧
      (∀ x ∈ l₁, number x ≠ n) ∧ ∀ x ∈ l₂, number x ≠ n := by
  obtain ⟨hn, l₁, l₂, rfl, hbefore⟩ := List.find?_eq_some_iff_append.mp h
  have hn : number a = n := by simpa using hn
  refine ⟨l₁, l₂, rfl, hn, fun x hx => by simpa using hbefore x hx, fun x hx hxn => ?_⟩
  rw [List.map_append, List.map_cons] at hnodup
  have htail := (List.nodup_append.mp hnodup).2.1
  exact (List.nodup_cons.mp htail).1 (hn ▸ hxn ▸ List.mem_map_of_mem hx)

/-- The entry of a number is found where it stands. -/
theorem find?_of_split {α : Type} {number : α → Nat} {l₁ l₂ : List α} {a : α}
    (hnodup : ((l₁ ++ a :: l₂).map number).Nodup) :
    (l₁ ++ a :: l₂).find? (number · == number a) = some a := by
  rw [List.map_append, List.map_cons] at hnodup
  have happart := (List.nodup_append.mp hnodup).2.2
  rw [List.find?_append, List.find?_eq_none.mpr, Option.none_or, List.find?_cons_of_pos (by simp)]
  intro x hx
  have hne := happart _ (List.mem_map_of_mem hx) _ List.mem_cons_self
  simpa using hne

/-- Changing the entries of one number in a list changes nothing where the number does not occur. -/
theorem map_ite_of_ne {α : Type} {number : α → Nat} {l : List α} {n : Nat} (f : α → α)
    (h : ∀ x ∈ l, number x ≠ n) : (l.map fun x => if number x = n then f x else x) = l := by
  induction l with
  | nil => rfl
  | cons a l ih =>
    rw [List.map_cons, if_neg (h a List.mem_cons_self),
      ih fun x hx => h x (List.mem_cons_of_mem a hx)]

theorem filter_of_ne {α : Type} {number : α → Nat} {l : List α} {n : Nat}
    (h : ∀ x ∈ l, number x ≠ n) : l.filter (number · ≠ n) = l :=
  List.filter_eq_self.mpr fun x hx => by simpa using h x hx

/-! ## Recording what became of jobs -/

/-- What is known about jobs when some more were dropped. -/
def dropAll (fates : Table Nat (Except TaskError ρ)) (jobs : List (Job τ)) :
    Table Nat (Except TaskError ρ) :=
  jobs.foldl (fun t j => t.put j.number (.error .discarded)) fates

/-- Dropping jobs changes nothing but what is known about them. -/
theorem settleDropped_eq (p : WorkerPool τ ρ) (jobs : List (Job τ)) :
    p.settleDropped jobs = { p with fates := dropAll p.fates jobs } := by
  induction jobs generalizing p with
  | nil => rfl
  | cons j jobs ih => exact ih (p.settle j.number (.error .discarded))

/-- A job that ended is counted as completed or as panicked, and what it left is recorded. -/
theorem record_eq (p : WorkerPool τ ρ) (j : Job τ) (outcome : Outcome ρ) :
    p.record j outcome =
      { p with
        completed := p.completed + outcome.isReturned.toNat
        panicked := p.panicked + (!outcome.isReturned).toNat
        fates := p.fates.put j.number (fateOf outcome) } := by
  cases outcome <;> rfl

/-! ## Sound states -/

/-- The counters of a pool describe its workers, and what has a number has one of its own. -/
structure Sound (p : WorkerPool τ ρ) : Prop where
  valid : p.config.validate = .ok ()
  numbered : (p.workers.map (·.number)).Nodup
  started : ∀ w ∈ p.workers, w.number ≤ p.started
  threads : p.threads = p.workers.length
  active : p.active = p.workers.countP (! ·.isIdle)
  callers : (p.onCaller.map (·.number)).Nodup
  offered : ∀ j ∈ p.onCaller, j.number < p.submitted

/-- Whether nothing more can be queued or started. -/
def Saturated (p : WorkerPool τ ρ) : Prop :=
  p.config.queueCapacity ≤ p.queue.length ∧ p.config.maxSize ≤ p.threads

/-- The job that a task becomes when it is offered next. -/
def nextJob (p : WorkerPool τ ρ) (task : τ) (context : LogContext) : Job τ :=
  ⟨p.submitted, task, context⟩

/-- What an event leads to, one constructor for each thing that can happen. -/
inductive Transition (p : WorkerPool τ ρ) : Event τ ρ → WorkerPool τ ρ → Prop where
  | refused (task : τ) (context : LogContext) (closed : p.isShutDown = true) :
      Transition p (.offer task context) p
  | started (task : τ) (context : LogContext) (isOpen : p.isShutDown = false)
      (room : p.threads < p.config.coreSize ∨
        p.config.queueCapacity ≤ p.queue.length ∧ p.threads < p.config.maxSize) :
      Transition p (.offer task context)
        { p with
          submitted := p.submitted + 1
          started := p.started + 1
          workers :=
            p.workers ++ [Worker.begin { number := p.started + 1 } (p.nextJob task context)]
          threads := p.threads + 1
          active := p.active + 1
          largest := max p.largest (p.threads + 1)
          unawaited := p.unawaited ++ [p.started + 1] }
  | queued (task : τ) (context : LogContext) (isOpen : p.isShutDown = false)
      (cores : p.config.coreSize ≤ p.threads) (room : p.queue.length < p.config.queueCapacity) :
      Transition p (.offer task context)
        { p with submitted := p.submitted + 1, queue := p.queue ++ [p.nextJob task context] }
  | evicted (task : τ) (context : LogContext) (isOpen : p.isShutDown = false)
      (full : p.Saturated) (policy : p.config.policy = .discardOldest)
      {oldest : Job τ} {rest : List (Job τ)} (hqueue : p.queue = oldest :: rest) :
      Transition p (.offer task context)
        { p with
          submitted := p.submitted + 1
          queue := rest ++ [p.nextJob task context]
          discarded := p.discarded + 1
          fates := p.fates.put oldest.number (.error .discarded) }
  | dropped (task : τ) (context : LogContext) (isOpen : p.isShutDown = false)
      (full : p.Saturated) (policy : p.config.policy = .discard) :
      Transition p (.offer task context)
        { p with
          submitted := p.submitted + 1
          discarded := p.discarded + 1
          fates := p.fates.put p.submitted (.error .discarded) }
  | rejected (task : τ) (context : LogContext) (isOpen : p.isShutDown = false)
      (full : p.Saturated) (policy : p.config.policy = .abort) :
      Transition p (.offer task context)
        { p with submitted := p.submitted + 1, rejected := p.rejected + 1 }
  | toCaller (task : τ) (context : LogContext) (isOpen : p.isShutDown = false)
      (full : p.Saturated) (policy : p.config.policy = .callerRuns) :
      Transition p (.offer task context)
        { p with submitted := p.submitted + 1, onCaller := p.onCaller ++ [p.nextJob task context] }
  | picked {l₁ l₂ : List (Worker τ)} {w : Worker τ} {j : Job τ} {rest : List (Job τ)}
      (hworkers : p.workers = l₁ ++ w :: l₂) (idle : w.running = none)
      (hqueue : p.queue = j :: rest) :
      Transition p (.pick w.number)
        { p with queue := rest, active := p.active + 1, workers := l₁ ++ w.begin j :: l₂ }
  | finished {l₁ l₂ : List (Worker τ)} {w : Worker τ} {j : Job τ} {guard : LogContext.Guard}
      (hworkers : p.workers = l₁ ++ w :: l₂) (running : w.running = some (j, guard))
      (outcome : Outcome ρ) :
      Transition p (.finish w.number outcome)
        { p with
          active := p.active - 1
          workers := l₁ ++ w.ended :: l₂
          completed := p.completed + outcome.isReturned.toNat
          panicked := p.panicked + (!outcome.isReturned).toNat
          fates := p.fates.put j.number (fateOf outcome) }
  | finishedOnCaller {l₁ l₂ : List (Job τ)} {j : Job τ} (hcallers : p.onCaller = l₁ ++ j :: l₂)
      (outcome : Outcome ρ) :
      Transition p (.finishOnCaller j.number outcome)
        { p with
          onCaller := l₁ ++ l₂
          completed := p.completed + outcome.isReturned.toNat
          panicked := p.panicked + (!outcome.isReturned).toNat
          fates := p.fates.put j.number (fateOf outcome) }
  | updated {l₁ l₂ : List (Worker τ)} {w : Worker τ} (hworkers : p.workers = l₁ ++ w :: l₂)
      (busy : w.isIdle = false) (f : LogContext → LogContext) :
      Transition p (.updateContext w.number f)
        { p with workers := l₁ ++ { w with context := f w.context } :: l₂ }
  | retired {l₁ l₂ : List (Worker τ)} {w : Worker τ} (hworkers : p.workers = l₁ ++ w :: l₂)
      (idle : w.running = none) (hqueue : p.queue = []) (surplus : p.config.coreSize < p.threads)
      (isOpen : p.isShutDown = false) :
      Transition p (.retire w.number)
        { p with workers := l₁ ++ l₂, threads := p.threads - 1 }
  | left {l₁ l₂ : List (Worker τ)} {w : Worker τ} (hworkers : p.workers = l₁ ++ w :: l₂)
      (idle : w.running = none) (hqueue : p.queue = []) (closed : p.isShutDown = true) :
      Transition p (.leave w.number)
        { p with workers := l₁ ++ l₂, threads := p.threads - 1 }
  | shutdown : Transition p .shutdown { p with isShutDown := true, unawaited := [] }
  | discardedQueue :
      Transition p .discardQueue
        { p with
          queue := []
          discarded := p.discarded + p.queue.length
          isShutDown := true
          fates := dropAll p.fates p.queue }

/-! ## Every step is a transition -/

section Split

variable {p : WorkerPool τ ρ} {n : Nat}

/-- The worker of a number, split off from the others; changing it or letting it leave concerns no
other. -/
theorem split_worker {w : Worker τ} (sound : Sound p) (h : p.worker? n = some w) :
    ∃ l₁ l₂, w.number = n ∧ p.workers = l₁ ++ w :: l₂ ∧
      (∀ f : Worker τ → Worker τ,
        (p.workers.map fun x => if x.number = n then f x else x) = l₁ ++ f w :: l₂) ∧
      p.workers.filter (·.number ≠ n) = l₁ ++ l₂ := by
  obtain ⟨l₁, l₂, hl, hn, hbefore, hafter⟩ := split_of_find? sound.numbered h
  refine ⟨l₁, l₂, hn, hl, fun f => ?_, ?_⟩
  · rw [hl, List.map_append, List.map_cons, map_ite_of_ne f hbefore, if_pos hn,
      map_ite_of_ne f hafter]
  · rw [hl, List.filter_append, List.filter_cons_of_neg (by simp [hn]), filter_of_ne hbefore,
      filter_of_ne hafter]

/-- The worker of a number is found where it stands. -/
theorem worker?_of_split {l₁ l₂ : List (Worker τ)} {w : Worker τ} (sound : Sound p)
    (hworkers : p.workers = l₁ ++ w :: l₂) : p.worker? w.number = some w := by
  rw [worker?, hworkers]
  exact find?_of_split (hworkers ▸ sound.numbered)

/-- The idle worker that an event is about. -/
theorem worker_of_hasIdle (h : p.hasIdle n = true) :
    ∃ w, p.worker? n = some w ∧ w.running = none := by
  unfold hasIdle at h
  cases hw : p.worker? n with
  | none => rw [hw] at h; simp at h
  | some w =>
    rw [hw] at h
    exact ⟨w, rfl, by simpa [Worker.isIdle] using h⟩

/-- The busy worker that an event is about. -/
theorem worker_of_hasBusy (h : p.hasBusy n = true) :
    ∃ w, p.worker? n = some w ∧ w.isIdle = false := by
  unfold hasBusy at h
  cases hw : p.worker? n with
  | none => rw [hw] at h; simp at h
  | some w =>
    rw [hw] at h
    exact ⟨w, rfl, by simpa using h⟩

/-- A busy worker runs a job. -/
theorem running_of_busy {w : Worker τ} (h : w.isIdle = false) :
    ∃ j guard, w.running = some (j, guard) := by
  unfold Worker.isIdle at h
  cases hr : w.running with
  | none => rw [hr] at h; simp at h
  | some r => exact ⟨r.1, r.2, rfl⟩

/-- The job of a number that runs on its submitter's thread, split off from the others. -/
theorem split_caller (sound : Sound p) (h : p.onCaller.any (·.number == n) = true) :
    ∃ l₁ j l₂, j.number = n ∧ p.onCaller.find? (·.number == n) = some j ∧
      p.onCaller = l₁ ++ j :: l₂ ∧ p.onCaller.filter (·.number ≠ n) = l₁ ++ l₂ := by
  obtain ⟨j, hj⟩ := Option.isSome_iff_exists.mp (List.find?_isSome.mpr (List.any_eq_true.mp h))
  obtain ⟨l₁, l₂, hl, hn, hbefore, hafter⟩ := split_of_find? sound.callers hj
  refine ⟨l₁, j, l₂, hn, hj, hl, ?_⟩
  rw [hl, List.filter_append, List.filter_cons_of_neg (by simp [hn]), filter_of_ne hbefore,
    filter_of_ne hafter]

end Split

/-- What an offer leads to, by the place the task goes to: one constructor for each. -/
inductive Offered (p : WorkerPool τ ρ) (task : τ) (context : LogContext) :
    Placement → WorkerPool τ ρ → Prop where
  | refused (closed : p.isShutDown = true) :
      Offered p task context (.refused (.shutDown p.config.name)) p
  | started (isOpen : p.isShutDown = false)
      (room : p.threads < p.config.coreSize ∨
        p.config.queueCapacity ≤ p.queue.length ∧ p.threads < p.config.maxSize) :
      Offered p task context (.started (p.started + 1))
        { p with
          submitted := p.submitted + 1
          started := p.started + 1
          workers :=
            p.workers ++ [Worker.begin { number := p.started + 1 } (p.nextJob task context)]
          threads := p.threads + 1
          active := p.active + 1
          largest := max p.largest (p.threads + 1)
          unawaited := p.unawaited ++ [p.started + 1] }
  | queued (isOpen : p.isShutDown = false) (cores : p.config.coreSize ≤ p.threads)
      (room : p.queue.length < p.config.queueCapacity) :
      Offered p task context .queued
        { p with submitted := p.submitted + 1, queue := p.queue ++ [p.nextJob task context] }
  | evicted (isOpen : p.isShutDown = false) (full : p.Saturated)
      (policy : p.config.policy = .discardOldest) {oldest : Job τ} {rest : List (Job τ)}
      (hqueue : p.queue = oldest :: rest) :
      Offered p task context .queued
        { p with
          submitted := p.submitted + 1
          queue := rest ++ [p.nextJob task context]
          discarded := p.discarded + 1
          fates := p.fates.put oldest.number (.error .discarded) }
  | dropped (isOpen : p.isShutDown = false) (full : p.Saturated)
      (policy : p.config.policy = .discard) :
      Offered p task context .dropped
        { p with
          submitted := p.submitted + 1
          discarded := p.discarded + 1
          fates := p.fates.put p.submitted (.error .discarded) }
  | rejected (isOpen : p.isShutDown = false) (full : p.Saturated)
      (policy : p.config.policy = .abort) :
      Offered p task context (.refused (.rejected p.config.name))
        { p with submitted := p.submitted + 1, rejected := p.rejected + 1 }
  | toCaller (isOpen : p.isShutDown = false) (full : p.Saturated)
      (policy : p.config.policy = .callerRuns) :
      Offered p task context (.toCaller p.submitted)
        { p with submitted := p.submitted + 1, onCaller := p.onCaller ++ [p.nextJob task context] }

/-- **Every offer is one of these**, by the first rule that applies. -/
theorem offered_of_offer {p : WorkerPool τ ρ} (sound : Sound p) (task : τ)
    (context : LogContext) :
    Offered p task context (p.offer task context).1 (p.offer task context).2 := by
  obtain ⟨-, -, hcore, hcapacity⟩ := p.config.validate_eq_ok_iff.mp sound.valid
  unfold offer
  by_cases hclosed : p.isShutDown = true
  · rw [if_pos hclosed]
    exact .refused hclosed
  rw [if_neg hclosed]
  have hopen : p.isShutDown = false := by simpa using hclosed
  dsimp only
  split
  · exact .started hopen (.inl ‹_›)
  split
  · exact .queued hopen (by omega) ‹_›
  split
  · exact .started hopen (.inr ⟨by omega, ‹_›⟩)
  -- neither the queue nor the threads have room: the policy decides
  have hfull : p.Saturated := ⟨by omega, by omega⟩
  unfold overload
  split
  case h_1 hpolicy =>
    -- the queue holds something, as its capacity is not zero
    cases hqueue : p.queue with
    | nil =>
      have hlength := hfull.1
      rw [hqueue, List.length_nil] at hlength
      omega
    | cons oldest rest =>
      exact .evicted hopen hfull hpolicy hqueue
  case h_2 hpolicy => exact .dropped hopen hfull hpolicy
  case h_3 hpolicy => exact .rejected hopen hfull hpolicy
  case h_4 hpolicy => exact .toCaller hopen hfull hpolicy

/-- Offering a task to a sound pool. -/
theorem transition_of_offer {p : WorkerPool τ ρ} (sound : Sound p) (task : τ)
    (context : LogContext) : Transition p (.offer task context) (p.offer task context).2 := by
  have h := offered_of_offer sound task context
  generalize (p.offer task context).1 = place, (p.offer task context).2 = q at h
  cases h with
  | refused closed => exact .refused task context closed
  | started isOpen room => exact .started task context isOpen room
  | queued isOpen cores room => exact .queued task context isOpen cores room
  | evicted isOpen full policy hqueue => exact .evicted task context isOpen full policy hqueue
  | dropped isOpen full policy => exact .dropped task context isOpen full policy
  | rejected isOpen full policy => exact .rejected task context isOpen full policy
  | toCaller isOpen full policy => exact .toCaller task context isOpen full policy

/-- A step is an event that is possible. -/
theorem step_eq_some_iff {p q : WorkerPool τ ρ} {e : Event τ ρ} :
    p.step e = some q ↔ p.allows e = true ∧ p.apply e = q := by
  unfold step
  split
  · next hallows => simp [hallows]
  · next hallows => simp [hallows]

/-- **Every step is a transition.** -/
theorem transition_of_step {p q : WorkerPool τ ρ} {e : Event τ ρ} (sound : Sound p)
    (h : p.step e = some q) : Transition p e q := by
  obtain ⟨hallows, rfl⟩ := step_eq_some_iff.mp h
  cases e with
  | offer task context => exact transition_of_offer sound task context
  | pick n =>
    obtain ⟨hidle, hqueue⟩ := Bool.and_eq_true_iff.mp hallows
    obtain ⟨w, hw, hrunning⟩ := worker_of_hasIdle hidle
    obtain ⟨l₁, l₂, rfl, hworkers, hmap, -⟩ := split_worker sound hw
    cases hcons : p.queue with
    | nil => rw [hcons] at hqueue; simp at hqueue
    | cons j rest =>
      simp only [apply, pick, modifyWorker, hcons, hmap]
      exact .picked hworkers hrunning hcons
  | finish n outcome =>
    obtain ⟨w, hw, hbusy⟩ := worker_of_hasBusy hallows
    obtain ⟨j, guard, hrunning⟩ := running_of_busy hbusy
    obtain ⟨l₁, l₂, rfl, hworkers, hmap, -⟩ := split_worker sound hw
    -- the lookup, the change and the record, all of the worker that was split off
    simp only [apply, finish, modifyWorker, hw, Option.bind_some, hrunning, hmap, record_eq]
    exact .finished hworkers hrunning outcome
  | finishOnCaller number outcome =>
    obtain ⟨l₁, j, l₂, rfl, hfind, hcallers, hfilter⟩ := split_caller sound hallows
    simp only [apply, finishOnCaller, hfind, hfilter, record_eq]
    exact .finishedOnCaller hcallers outcome
  | updateContext n f =>
    obtain ⟨w, hw, hbusy⟩ := worker_of_hasBusy hallows
    obtain ⟨l₁, l₂, rfl, hworkers, hmap, -⟩ := split_worker sound hw
    simp only [apply, updateContext, modifyWorker, hmap]
    exact .updated hworkers hbusy f
  | retire n =>
    obtain ⟨hidle, hretire⟩ := Bool.and_eq_true_iff.mp hallows
    obtain ⟨w, hw, hrunning⟩ := worker_of_hasIdle hidle
    obtain ⟨l₁, l₂, rfl, hworkers, -, hleave⟩ := split_worker sound hw
    simp only [mayRetire, Bool.and_eq_true, List.isEmpty_iff, decide_eq_true_eq] at hretire
    rw [apply, leave, hleave]
    exact .retired hworkers hrunning hretire.1.1 hretire.1.2 (by simpa using hretire.2)
  | leave n =>
    obtain ⟨hidle, hmust⟩ := Bool.and_eq_true_iff.mp hallows
    obtain ⟨w, hw, hrunning⟩ := worker_of_hasIdle hidle
    obtain ⟨l₁, l₂, rfl, hworkers, -, hleave⟩ := split_worker sound hw
    simp only [mustLeave, Bool.and_eq_true, List.isEmpty_iff] at hmust
    rw [apply, leave, hleave]
    exact .left hworkers hrunning hmust.1 hmust.2
  | shutdown => exact .shutdown
  | discardQueue =>
    simp only [apply, discardQueue, settleDropped_eq]
    exact .discardedQueue

/-! ## Soundness is preserved -/

@[simp] theorem begin_number (w : Worker τ) (j : Job τ) :
    (w.begin j).number = w.number := rfl

/-- A worker that begins a job is busy. -/
@[simp] theorem begin_isIdle (w : Worker τ) (j : Job τ) : (w.begin j).isIdle = false := rfl

@[simp] theorem ended_number (w : Worker τ) : w.ended.number = w.number := by
  unfold Worker.ended
  cases w.running <;> rfl

/-- A worker whose job ended is idle. -/
@[simp] theorem ended_isIdle (w : Worker τ) : w.ended.isIdle = true := by
  unfold Worker.ended Worker.isIdle
  cases h : w.running <;> simp [h]

namespace Sound

variable {p q : WorkerPool τ ρ} {l₁ l₂ : List (Worker τ)} {w : Worker τ}

/-- A worker that runs a job is among the active ones. -/
theorem active_pos (sound : Sound p) (hworkers : p.workers = l₁ ++ w :: l₂) {j : Job τ}
    {guard : LogContext.Guard} (running : w.running = some (j, guard)) : 0 < p.active := by
  rw [sound.active, hworkers, List.countP_pos_iff]
  exact ⟨w, by simp, by rw [Worker.isIdle, running]; rfl⟩

/-- Something happens to one worker of a sound pool. -/
theorem replace (sound : Sound p) (hworkers : p.workers = l₁ ++ w :: l₂) (w' : Worker τ)
    (active : Nat) (hnumber : w'.number = w.number)
    (hactive : active + (if w.isIdle then 0 else 1) = p.active + (if w'.isIdle then 0 else 1)) :
    Sound { p with workers := l₁ ++ w' :: l₂, active } := by
  have hnumbered := sound.numbered
  have hstarted := sound.started
  have hthreads := sound.threads
  have hcount := sound.active
  rw [hworkers] at hnumbered hstarted hthreads hcount
  refine { sound with numbered := ?_, started := ?_, threads := ?_, active := ?_ }
  -- the numbers are those from before, one by one
  · simpa [hnumber] using hnumbered
  · simpa [hnumber, or_imp, forall_and] using hstarted
  · simpa using hthreads
  -- the rest of the list counts the same on both sides
  · simp only [List.countP_append, List.countP_cons] at hcount ⊢
    cases hw : w.isIdle <;> cases hw' : w'.isIdle <;> simp [hw, hw'] at hactive hcount ⊢ <;> omega

/-- An idle worker of a sound pool exits. -/
theorem remove (sound : Sound p) (hworkers : p.workers = l₁ ++ w :: l₂) (idle : w.running = none) :
    Sound { p with workers := l₁ ++ l₂, threads := p.threads - 1 } := by
  have hnumbered := sound.numbered
  have hstarted := sound.started
  have hthreads := sound.threads
  have hcount := sound.active
  rw [hworkers] at hnumbered hstarted hthreads hcount
  -- the remaining workers are a sublist, so they stay apart
  have hsub : (l₁ ++ l₂).Sublist (l₁ ++ w :: l₂) := (List.sublist_cons_self w l₂).append_left l₁
  refine { sound with numbered := ?_, started := ?_, threads := ?_, active := ?_ }
  · exact hnumbered.sublist (hsub.map _)
  · exact fun x hx => hstarted x (hsub.subset hx)
  · rw [List.length_append, List.length_cons] at hthreads
    rw [List.length_append]
    show p.threads - 1 = _
    omega
  · simpa [Worker.isIdle, idle] using hcount

/-- **Every transition keeps a pool sound.** -/
theorem transition {e : Event τ ρ} (sound : Sound p) (h : Transition p e q) : Sound q := by
  cases h with
  | refused => exact sound
  | started task context =>
    refine { sound with numbered := ?_, started := ?_, threads := ?_, active := ?_, offered := ?_ }
    · -- the new number is larger than those in use
      have hnew : p.started + 1 ∉ p.workers.map (·.number) := by
        intro h
        obtain ⟨w, hw, hnumber⟩ := List.mem_map.mp h
        have := sound.started w hw
        omega
      simpa [List.nodup_append, sound.numbered] using hnew
    · intro w hw
      rcases List.mem_append.mp hw with hw | hw
      · exact Nat.le_succ_of_le (sound.started w hw)
      · rw [List.mem_singleton.mp hw]
        exact Nat.le_refl _
    · simp [sound.threads]
    · simp [sound.active]
    · exact fun j hj => Nat.lt_succ_of_lt (sound.offered j hj)
  | queued | evicted | dropped | rejected =>
    exact { sound with offered := fun j hj => Nat.lt_succ_of_lt (sound.offered j hj) }
  | toCaller task context =>
    refine { sound with callers := ?_, offered := ?_ }
    · -- the number of the submission is larger than those of the jobs on callers
      have hnew : p.submitted ∉ p.onCaller.map (·.number) := by
        intro h
        obtain ⟨j, hj, hnumber⟩ := List.mem_map.mp h
        have := sound.offered j hj
        omega
      simpa [nextJob, List.nodup_append, sound.callers] using hnew
    · intro j hj
      rcases List.mem_append.mp hj with hj | hj
      · exact Nat.lt_succ_of_lt (sound.offered j hj)
      · rw [List.mem_singleton.mp hj]
        exact Nat.lt_succ_self _
  | @picked l₁ l₂ w j rest hworkers idle hqueue =>
    have hidle : w.isIdle = true := by rw [Worker.isIdle, idle]; rfl
    have h : Sound { p with queue := rest } := { sound with }
    exact h.replace hworkers (w.begin j) (p.active + 1) (begin_number w j) (by simp [hidle])
  | @finished l₁ l₂ w j guard hworkers running outcome =>
    have hbusy : w.isIdle = false := by rw [Worker.isIdle, running]; rfl
    have hactive := sound.active_pos hworkers running
    have h := sound.replace hworkers w.ended (p.active - 1) (ended_number w)
      (by simp [hbusy]; omega)
    exact { h with }
  | @finishedOnCaller l₁ l₂ j hcallers outcome =>
    have hsub : (l₁ ++ l₂).Sublist p.onCaller :=
      hcallers ▸ (List.sublist_cons_self j l₂).append_left l₁
    exact { sound with
      callers := sound.callers.sublist (hsub.map _)
      offered := fun j hj => sound.offered j (hsub.subset hj) }
  | @updated l₁ l₂ w hworkers busy f =>
    exact sound.replace hworkers { w with context := f w.context } p.active rfl rfl
  | retired hworkers idle => exact sound.remove hworkers idle
  | left hworkers idle => exact sound.remove hworkers idle
  | shutdown => exact { sound with }
  | discardedQueue => exact { sound with }

end Sound

/-! ## Reachable states -/

/-- No transition changes the settings. -/
theorem Transition.config_eq {p q : WorkerPool τ ρ} {e : Event τ ρ} (h : Transition p e q) :
    q.config = p.config := by
  cases h <;> rfl

variable {c : PoolConfig}

/-- What a list of events leads to from a reachable state is reachable. -/
theorem Reachable.run {p q : WorkerPool τ ρ} (h : Reachable c p) {es : List (Event τ ρ)}
    (hrun : p.run es = some q) : Reachable c q :=
  Runs.keeps (I := fun _ q => Reachable c q) h (fun _ hstep reached => reached.step hstep) hrun

/-- A pool without workers is sound. -/
theorem sound_start (valid : c.validate = .ok ()) : Sound ({ config := c } : WorkerPool τ ρ) where
  valid := valid
  numbered := List.nodup_nil
  started := fun _ h => nomatch h
  threads := rfl
  active := rfl
  callers := List.nodup_nil
  offered := fun _ h => nomatch h

/-- **Every state that a pool with valid settings reaches is sound.** -/
theorem sound_of_reachable (valid : c.validate = .ok ()) {p : WorkerPool τ ρ} (h : Reachable c p) :
    Sound p := by
  induction h with
  | start => exact sound_start valid
  | step reached next ih => exact ih.transition (transition_of_step ih next)

/-- **Invariants of a pool.** What holds of a pool without workers and is kept by every transition
from a sound state holds of every state that is reached. -/
theorem invariant_of_reachable (valid : c.validate = .ok ()) (I : WorkerPool τ ρ → Prop)
    (start : I { config := c })
    (step : ∀ {p e q}, Sound p → p.config = c → Transition p e q → I p → I q)
    {p : WorkerPool τ ρ} (h : Reachable c p) : I p := by
  -- the settings are carried along, as the step may use them
  suffices p.config = c ∧ I p from this.2
  induction h with
  | start => exact ⟨rfl, start⟩
  | step reached next ih =>
    have sound := sound_of_reachable valid reached
    have hstep := transition_of_step sound next
    exact ⟨hstep.config_eq.trans ih.1, step sound ih.1 hstep ih.2⟩

end WorkerPool

end KeyedDelivery
