import KeyedDelivery.Proofs.Pool.Ledger
import KeyedDelivery.Proofs.Pool.Service

/-!
# In which order tasks begin

* **`Lined`** — with a single worker, the jobs that began and then those that are queued are in the
  order of their numbers.
* **`journal_keeps`** — what every incident keeps of a pool and its journal holds after every run.
* **`queue_of_blocked`** — while all workers are busy and the pool evicts, what is offered stays
  queued, the last tasks if there are more than the capacity.
* **`hasBegun_iff`** — which submissions never begin.
* **`tasks_in_order`** — all of it, for every run of a pool with valid settings.
-/

namespace KeyedDelivery.WorkerPool

variable {τ ρ : Type} {p q : WorkerPool τ ρ} {ns news : List (Note τ)}

/-! ## A single worker -/

/-- The jobs that began and then those that are queued, in the order of their numbers. -/
def Lined (ns : List (Note τ)) (p : WorkerPool τ ρ) : Prop :=
  ((ns.filterMap Note.begun? ++ p.queue).map (·.number)).Pairwise (· < ·)

namespace Lined

/-- A new job comes last. -/
theorem concat {jobs : List (Job τ)} {j : Job τ}
    (lined : (jobs.map (·.number)).Pairwise (· < ·)) (hlast : ∀ i ∈ jobs, i.number < j.number) :
    ((jobs ++ [j]).map (·.number)).Pairwise (· < ·) := by
  rw [List.map_append, List.pairwise_append]
  refine ⟨lined, List.pairwise_singleton _ _, fun a ha b hb => ?_⟩
  obtain ⟨i, hi, rfl⟩ := List.mem_map.mp ha
  rw [List.mem_singleton.mp hb]
  exact hlast i hi

/-- **One more incident**, when a job begins without having been queued only if none is queued. -/
theorem handled (lined : Lined ns p) (told : Told ns p) (h : Handled p q news)
    (hbegun : p.threads < p.config.maxSize ∨ p.config.policy = .callerRuns → p.queue = []) :
    Lined (ns ++ news) q := by
  -- a new number is larger than all that have begun or are queued
  have hnew {j : Job τ} (admitted : Admitted p q j) {i : Job τ}
      (hi : i ∈ ns.filterMap Note.begun? ++ p.queue) : i.number < j.number := by
    rw [admitted.number, ← List.mem_range, ← told.placed.mem_iff, List.append_assoc,
      List.map_append]
    exact List.mem_append_left _ (List.mem_map_of_mem hi)
  have hnone (h : news.filterMap Note.begun? = []) :
      (ns ++ news).filterMap Note.begun? = ns.filterMap Note.begun? := by
    rw [List.filterMap_append, h, List.append_nil]
  unfold Lined at lined ⊢
  cases h with
  | turnedAway task context e closed same =>
    rw [hnone rfl, same]
    exact lined
  | refused e admitted queue | dropped admitted queue | ended outcome submitted queue
  | idle submitted queue =>
    rw [hnone rfl, queue]
    exact lined
  | @begun j place begins room admitted queue =>
    -- a job begins at once only while nothing waits: this is where one worker is needed
    have hempty := hbegun room
    rw [hempty, List.append_nil] at lined
    have hj : (ns ++ [Note.offered j place]).filterMap Note.begun? =
        ns.filterMap Note.begun? ++ [j] := by
      rw [List.filterMap_append, List.filterMap_cons, (Placement.eq_of_begins begins j).2.2.2]
      rfl
    rw [queue, hempty, hj, List.append_nil]
    exact concat lined fun i hi => hnew admitted (List.mem_append_left _ hi)
  | queued admitted queue =>
    rw [hnone rfl, queue, ← List.append_assoc]
    exact concat lined fun i hi => hnew admitted hi
  | @evicted oldest j rest admitted full queue =>
    -- an eviction takes out the head of the queue
    have hsub : (ns.filterMap Note.begun? ++ rest).Sublist (ns.filterMap Note.begun? ++ p.queue) :=
      full ▸ (List.sublist_cons_self oldest rest).append_left _
    rw [hnone rfl, queue, ← List.append_assoc]
    exact concat (lined.sublist (hsub.map _)) fun i hi => hnew admitted (hsub.subset hi)
  | @taken j rest submitted full queue =>
    have hj : (ns ++ [Note.taken j]).filterMap Note.begun? = ns.filterMap Note.begun? ++ [j] := by
      rw [List.filterMap_append]
      rfl
    rw [hj, queue, List.append_assoc]
    rwa [full] at lined
  | cleared submitted queue =>
    have hcleared : (p.queue.map Note.cleared).filterMap Note.begun? = [] :=
      List.filterMap_eq_nil_iff.mpr fun n hn => by
        obtain ⟨j, -, rfl⟩ := List.mem_map.mp hn
        rfl
    rw [hnone hcleared, queue, List.append_nil]
    exact lined.sublist ((List.sublist_append_left _ _).map _)

end Lined

/-! ## Runs -/

variable {c : PoolConfig}

/-- What every incident keeps of a pool with settings `c`. -/
structure Steady (c : PoolConfig) (p : WorkerPool τ ρ) : Prop where
  sound : Sound p
  sized : Sized p
  config : p.config = c

/-- What a transition does, and what a worker does that could not be started. -/
theorem undergo_cases (sound : Sound p) {i : Incident τ ρ} (h : p.undergo i = some q) :
    (∃ e, Transition p e q) ∨ ∃ reason, p.startsNext = true ∧ q = (p.offerUnstarted reason).2 := by
  cases i with
  | event e => exact .inl ⟨e, transition_of_step sound h⟩
  | unstarted task context reason =>
    obtain ⟨starts, rfl⟩ : p.startsNext = true ∧ (p.offerUnstarted reason).2 = q := by
      simpa [undergo] using h
    exact .inr ⟨reason, starts, rfl⟩

theorem Sound.undergo (sound : Sound p) {i : Incident τ ρ} (h : p.undergo i = some q) : Sound q := by
  rcases undergo_cases sound h with ⟨e, hstep⟩ | ⟨reason, -, rfl⟩
  · exact sound.transition hstep
  · exact sound.offerUnstarted reason

theorem Steady.undergo (steady : Steady c p) {i : Incident τ ρ} (h : p.undergo i = some q) :
    Steady c q := by
  obtain ⟨sound, sized, config⟩ := steady
  have hsound := sound.undergo h
  rcases undergo_cases sound h with ⟨e, hstep⟩ | ⟨reason, -, rfl⟩
  · exact ⟨hsound, sized.transition sound hstep, hstep.config_eq.trans config⟩
  · exact ⟨hsound, ⟨sized.queued, sized.threads, sized.largest⟩, config⟩

/-- A pool that was shut down stays so. -/
theorem isOpen_of_undergo (sound : Sound p) {i : Incident τ ρ} (h : p.undergo i = some q)
    (isOpen : q.isShutDown = false) : p.isShutDown = false := by
  rcases undergo_cases sound h with ⟨e, hstep⟩ | ⟨reason, -, rfl⟩
  · exact isOpen_of_transition hstep isOpen
  · exact isOpen

/-- **Invariants of a run and its journal.** -/
theorem journal_keeps (valid : c.validate = .ok ()) (I : List (Note τ) → WorkerPool τ ρ → Prop)
    (start : I [] { config := c })
    (step : ∀ {ns p i q}, Steady c p → p.undergo i = some q → I ns p → I (ns ++ p.notes i) q)
    {is : List (Incident τ ρ)} (hrun : undergoAll { config := c } is = some p) :
    Steady c p ∧ I (chronicle { config := c } is) p := by
  refine Runs.keeps (I := fun is p => Steady c p ∧ I (chronicle { config := c } is) p)
    ⟨⟨sound_start valid, ⟨Nat.zero_le _, Nat.le_refl _, Nat.zero_le _⟩, rfl⟩, start⟩ ?_ hrun
  intro is p q i hr hlast ⟨steady, hI⟩
  rw [chronicle_concat hr]
  exact ⟨steady.undergo hlast, step steady hlast hI⟩

theorem told_run (valid : c.validate = .ok ()) {is : List (Incident τ ρ)}
    (hrun : undergoAll { config := c } is = some p) : Told (chronicle { config := c } is) p :=
  (journal_keeps valid Told (.start c)
    (fun steady h told => told.handled (handled_of_undergo steady.sound h)) hrun).2

theorem answered_run (valid : c.validate = .ok ()) {is : List (Incident τ ρ)}
    (hrun : undergoAll { config := c } is = some p) : Answered (chronicle { config := c } is) p :=
  (journal_keeps valid Answered (.start c) (fun steady h answered =>
    answered.handled (handled_of_undergo steady.sound h) (isOpen_of_undergo steady.sound h)) hrun).2

/-! ## What a single worker does -/

/-- The settings of a pool with a single worker, whose submitters run no task. -/
structure Single (c : PoolConfig) : Prop where
  core : c.coreSize = 1
  most : c.maxSize = 1
  policy : c.policy ≠ .callerRuns

/-- A queued task has the worker before it, and no submitter runs a task. -/
structure Manned (p : WorkerPool τ ρ) : Prop where
  attended : Attended p
  callers : p.onCaller = []

theorem Manned.undergo (single : Single c) (steady : Steady c p) {i : Incident τ ρ}
    (h : p.undergo i = some q) (manned : Manned p) : Manned q := by
  obtain ⟨sound, -, rfl⟩ := steady
  rcases undergo_cases sound h with ⟨e, hstep⟩ | ⟨reason, -, rfl⟩
  · have hcore : 0 < p.config.coreSize := single.core ▸ Nat.one_pos
    refine ⟨attended_transition hcore hstep manned.attended, ?_⟩
    cases hstep with
    -- no thread ever runs its own task under the policies of a single worker
    | toCaller task context isOpen full policy => exact absurd policy single.policy
    | @finishedOnCaller l₁ l₂ j hcallers outcome =>
      have hnone := manned.callers
      rw [hcallers] at hnone
      exact absurd hnone (by simp)
    | _ => exact manned.callers
  · exact ⟨manned.attended, manned.callers⟩

/-- One task runs at a time. -/
theorem Manned.running_le (manned : Manned p) (single : Single c) (steady : Steady c p) :
    p.running.length ≤ 1 := by
  have hthreads := Nat.le_trans steady.sized.threads steady.sized.largest
  rw [steady.config, single.most, steady.sound.threads] at hthreads
  rw [running, manned.callers, List.append_nil]
  exact Nat.le_trans (List.length_filterMap_le _ _) hthreads

/-- Without room for the worker nothing is queued. -/
theorem Manned.queue_eq_nil (manned : Manned p) (single : Single c) (steady : Steady c p)
    (room : p.threads < p.config.maxSize ∨ p.config.policy = .callerRuns) : p.queue = [] := by
  rw [steady.config, single.most] at room
  rcases room with hnone | hpolicy
  · refine Decidable.byContradiction fun hqueue => ?_
    exact absurd (manned.attended hqueue) (by omega)
  · exact absurd hpolicy single.policy

theorem lined_run (valid : c.validate = .ok ()) (single : Single c) {is : List (Incident τ ρ)}
    (hrun : undergoAll { config := c } is = some p) :
    p.running.length ≤ 1 ∧ Lined (chronicle { config := c } is) p := by
  -- the three invariants need each other, so they are kept together
  obtain ⟨steady, manned, -, lined⟩ := journal_keeps valid
    (fun ns p => Manned p ∧ Told ns p ∧ Lined ns p)
    ⟨⟨fun h => absurd rfl h, rfl⟩, .start c, List.Pairwise.nil⟩
    (fun steady h ⟨manned, told, lined⟩ => ⟨manned.undergo single steady h,
      told.handled (handled_of_undergo steady.sound h),
      lined.handled told (handled_of_undergo steady.sound h)
        (manned.queue_eq_nil single steady)⟩) hrun
  exact ⟨manned.running_le single steady, lined⟩

/-- The jobs that tasks become when they are offered one after the other. -/
def jobsFrom (n : Nat) (ts : List (τ × LogContext)) : List (Job τ) :=
  ts.mapIdx fun i t => ⟨n + i, t.1, t.2⟩

/-- The offers of tasks, one after the other. -/
def offersOf (ts : List (τ × LogContext)) : List (Incident τ ρ) :=
  ts.map fun t => .event (.offer t.1 t.2)

theorem offersOf_concat (ts : List (τ × LogContext)) (t : τ × LogContext) :
    (offersOf (ts ++ [t]) : List (Incident τ ρ)) = offersOf ts ++ [.event (.offer t.1 t.2)] :=
  List.map_append

theorem length_jobsFrom (n : Nat) (ts : List (τ × LogContext)) :
    (jobsFrom n ts).length = ts.length := List.length_mapIdx

theorem jobsFrom_concat (n : Nat) (ts : List (τ × LogContext)) (t : τ × LogContext) :
    jobsFrom n (ts ++ [t]) = jobsFrom n ts ++ [⟨n + ts.length, t.1, t.2⟩] := List.mapIdx_concat

/-- A pool whose workers are all busy or about to be, and that evicts when its queue is full. -/
structure Blocked (p : WorkerPool τ ρ) : Prop where
  isOpen : p.isShutDown = false
  threads : p.config.maxSize ≤ p.threads
  policy : p.config.policy = .discardOldest

/-- One more task is queued, in the place of the oldest one if the queue is full. -/
theorem Blocked.offer (blocked : Blocked p) (steady : Steady c p) (task : τ)
    (context : LogContext) :
    Blocked (p.offer task context).2 ∧ (p.offer task context).2.submitted = p.submitted + 1 ∧
      (p.offer task context).2.queue =
        p.queue.drop (p.queue.length + 1 - c.queueCapacity) ++ [p.nextJob task context] := by
  obtain ⟨sound, sized, rfl⟩ := steady
  obtain ⟨-, -, hcore, -⟩ := p.config.validate_eq_ok_iff.mp sound.valid
  obtain ⟨hopen, hthreads, hpolicy⟩ := blocked
  have htransition := transition_of_offer sound task context
  generalize (p.offer task context).2 = q at htransition
  cases htransition with
  | refused task context closed => rw [closed] at hopen; cases hopen
  -- a blocked pool has all its threads
  | started task context isOpen room => omega
  | queued task context isOpen cores room =>
    refine ⟨⟨hopen, hthreads, hpolicy⟩, rfl, ?_⟩
    rw [Nat.sub_eq_zero_of_le room, List.drop_zero]
  | @evicted task context isOpen full policy oldest rest hqueue =>
    refine ⟨⟨hopen, hthreads, hpolicy⟩, rfl, ?_⟩
    -- a full queue holds exactly its capacity, so one job is dropped
    have hlength := Nat.le_antisymm full.1 sized.queued
    rw [hlength, Nat.add_sub_cancel_left, hqueue, List.drop_one, List.tail_cons]
  | dropped task context isOpen full policy => rw [policy] at hpolicy; cases hpolicy
  | rejected task context isOpen full policy => rw [policy] at hpolicy; cases hpolicy
  | toCaller task context isOpen full policy => rw [policy] at hpolicy; cases hpolicy

/-- **The last tasks stay.** What is offered to a blocked pool with an empty queue stays queued, the
last ones up to the capacity; induction on the tasks, the last one first. -/
theorem queue_of_blocked (blocked : Blocked p) (steady : Steady c p) (hqueue : p.queue = [])
    (ts : List (τ × LogContext)) :
    ∃ q, p.undergoAll (offersOf ts) = some q ∧ Steady c q ∧ Blocked q ∧
      q.submitted = p.submitted + ts.length ∧
      q.queue = (jobsFrom p.submitted ts).drop (ts.length - c.queueCapacity) := by
  induction ts using List.reverseRecOn with
  | nil => exact ⟨p, rfl, steady, blocked, rfl, hqueue.trans List.drop_nil.symm⟩
  | append_singleton ts t ih =>
    obtain ⟨q, hrun, steady', blocked', hsubmitted, hq⟩ := ih
    have hcapacity : 0 < c.queueCapacity :=
      (c.validate_eq_ok_iff.mp (steady'.config ▸ steady'.sound.valid)).2.2.2
    have hstep : q.undergo (.event (.offer t.1 t.2)) = some (q.offer t.1 t.2).2 := rfl
    obtain ⟨hblocked, hnumber, hlast⟩ := blocked'.offer steady' t.1 t.2
    refine ⟨(q.offer t.1 t.2).2, ?_, steady'.undergo hstep, hblocked, ?_, ?_⟩
    · rw [offersOf_concat, undergoAll_concat, hrun]
      exact hstep
    · rw [hnumber, hsubmitted, List.length_append]
      rfl
    · -- the oldest of the queue goes exactly when there are more tasks than the capacity
      have hdrop : ts.length - c.queueCapacity +
          (ts.length - (ts.length - c.queueCapacity) + 1 - c.queueCapacity) =
          ts.length + 1 - c.queueCapacity := by omega
      have hle : ts.length + 1 - c.queueCapacity ≤ (jobsFrom p.submitted ts).length := by
        rw [length_jobsFrom]
        omega
      rw [hlast, hq, List.drop_drop, List.length_drop, length_jobsFrom, hdrop, jobsFrom_concat,
        List.length_append, List.length_singleton, List.drop_append_of_le_length hle, nextJob,
        hsubmitted]

/-! ## The order of tasks -/

/-- Whether the submission of a number, counted from the first, has begun. -/
def HasBegun (ns : List (Note τ)) (k : Nat) : Prop := ∃ j ∈ ns.filterMap Note.begun?, j.number = k

/-- Whether the submission of a number was refused. -/
def WasRefused (ns : List (Note τ)) (k : Nat) : Prop :=
  ∃ s e, (ns.filterMap Note.submission?)[k]? = some (s, .refused e)

def WasDiscarded (p : WorkerPool τ ρ) (k : Nat) : Prop :=
  p.fates.find? k = some (.error .discarded)

def IsQueued (p : WorkerPool τ ρ) (k : Nat) : Prop := ∃ j ∈ p.queue, j.number = k

/-- A submission that was refused was so at its number, or after the shutdown. -/
theorem wasRefused_iff (told : Told ns p) (answered : Answered ns p) {k : Nat}
    (hk : k < (ns.filterMap Note.submission?).length) :
    WasRefused ns k ↔ k ∈ (ns.filterMap Note.refused?).map (·.number) ∨ p.submitted ≤ k := by
  constructor
  · rintro ⟨s, e, hget⟩
    rcases Nat.lt_or_ge k p.submitted with hlt | hge
    · -- the job of this number is the one the place belongs to
      rw [← List.mem_range, ← told.offered] at hlt
      obtain ⟨j, hj, rfl⟩ := List.mem_map.mp hlt
      obtain ⟨place, hn⟩ := mem_offered_iff.mp hj
      have hfiled := (answered.filed hn).symm.trans hget
      cases hfiled
      exact .inl (List.mem_map_of_mem (mem_refused_iff.mpr ⟨e, hn⟩))
    · exact .inr hge
  · rintro (hmem | hge)
    · obtain ⟨j, hj, rfl⟩ := List.mem_map.mp hmem
      obtain ⟨e, hn⟩ := mem_refused_iff.mp hj
      exact ⟨_, e, answered.filed hn⟩
    · obtain ⟨⟨s, place⟩, hget⟩ : ∃ y, (ns.filterMap Note.submission?)[k]? = some y :=
        ⟨_, List.getElem?_eq_getElem hk⟩
      obtain ⟨e, rfl⟩ := answered.late hge hget
      exact ⟨s, e, hget⟩

/-- **What never begins.** A submission has begun, unless it was discarded, was refused, or is
queued. -/
theorem hasBegun_iff (told : Told ns p) (answered : Answered ns p) {k : Nat}
    (hk : k < (ns.filterMap Note.submission?).length) :
    HasBegun ns k ↔ ¬ (WasDiscarded p k ∨ WasRefused ns k ∨ IsQueued p k) := by
  have hbegun : HasBegun ns k ↔ k ∈ (ns.filterMap Note.begun?).map (·.number) := List.mem_map.symm
  have hqueued : IsQueued p k ↔ k ∈ p.queue.map (·.number) := List.mem_map.symm
  rw [hbegun, hqueued, WasDiscarded, told.fates, wasRefused_iff told answered hk]
  have hplaced := told.placed.mem_iff (a := k)
  simp only [List.map_append, List.mem_append, List.mem_range] at hplaced
  -- every number has one place among the four, which are exclusive
  constructor
  · intro h
    obtain ⟨hnqueued, hndiscarded, hnrefused⟩ := told.apart h
    have hlt : k < p.submitted := hplaced.mp (.inl (.inl (.inl h)))
    rintro (h | (h | h) | h)
    · exact hndiscarded h
    · exact hnrefused h
    · exact absurd hlt (Nat.not_lt_of_le h)
    · exact hnqueued h
  · intro hnone
    simp only [not_or, Nat.not_le] at hnone
    obtain ⟨hndiscarded, ⟨hnrefused, hlt⟩, hnqueued⟩ := hnone
    rcases hplaced.mpr hlt with ((h | h) | h) | h
    · exact h
    · exact absurd h hnqueued
    · exact absurd h hndiscarded
    · exact absurd h hnrefused

/-- What was discarded or refused does not begin later either. -/
theorem never_begins (told : Told ns p) (told' : Told (ns ++ news) q)
    (answered' : Answered (ns ++ news) q) {k : Nat} (h : WasDiscarded p k ∨ WasRefused ns k) :
    ¬ HasBegun (ns ++ news) k := by
  intro hbegun
  -- to begin, it would have to be a submission of the longer run
  have hlt : k < ((ns ++ news).filterMap Note.submission?).length := by
    obtain ⟨j, hj, rfl⟩ := hbegun
    obtain ⟨place, hget⟩ := submission_of_begun told' answered' hj
    exact (List.getElem?_eq_some_iff.mp hget).1
  have hnone := (hasBegun_iff told' answered' hlt).mp hbegun
  rcases h with hdiscarded | ⟨s, e, hget⟩
  · refine hnone (.inl ?_)
    rw [WasDiscarded, told'.fates, List.filterMap_append, List.map_append]
    exact List.mem_append_left _ ((told.fates k).mp hdiscarded)
  · refine hnone (.inr (.inl ⟨s, e, ?_⟩))
    rw [List.filterMap_append, List.getElem?_append_left (List.getElem?_eq_some_iff.mp hget).1]
    exact hget

/-- **Tasks begin in order.** After any run of a pool with valid settings, also if there was no
thread for some of its workers:

* what entered the queue, the jobs in the order of their submissions, is what left it and then what
  it holds, so that the workers take jobs in the order in which they were queued;
* a job that is evicted next is older than all that stay queued;
* a task has begun, unless it was discarded, was refused, or is queued; one that was discarded or
  refused does not begin later either;
* with a single worker, and submitters that run no task, one task runs at a time, and tasks begin in
  the order of the submissions;
* if it evicts, its worker is busy, and nothing is queued, then of tasks that are offered now the
  last ones stay queued, in order, as many as the queue has room for. -/
theorem tasks_in_order (valid : c.validate = .ok ()) {is : List (Incident τ ρ)}
    (hrun : undergoAll { config := c } is = some p) :
    let ns := chronicle { config := c } is
    (ns.filterMap Note.queued? = ns.filterMap Note.released? ++ p.queue ∧
      (ns.filterMap Note.taken?).Sublist (ns.filterMap Note.queued?) ∧
      ((ns.filterMap Note.queued?).map (·.number)).Pairwise (· < ·)) ∧
    (∀ i q, p.undergo i = some q → ∀ j, .evicted j ∈ p.notes i →
      ∀ k ∈ q.queue, j.number < k.number) ∧
    (∀ k < (is.filterMap Incident.submission?).length,
      HasBegun ns k ↔ ¬ (WasDiscarded p k ∨ WasRefused ns k ∨ IsQueued p k)) ∧
    (∀ later q, p.undergoAll later = some q → ∀ k, WasDiscarded p k ∨ WasRefused ns k →
      ¬ HasBegun (chronicle { config := c } (is ++ later)) k) ∧
    (Single c → p.running.length ≤ 1 ∧
      ((ns.filterMap Note.begun?).map (·.number)).Pairwise (· < ·) ∧
      ∀ j ∈ ns.filterMap Note.begun?,
        (is.filterMap Incident.submission?)[j.number]? = some (j.task, j.context)) ∧
    (Single c → c.policy = .discardOldest → p.isShutDown = false → p.active = 1 → p.queue = [] →
      ∀ ts, ∃ q, p.undergoAll (offersOf ts) = some q ∧
        q.queue = (jobsFrom p.submitted ts).drop (ts.length - c.queueCapacity) ∧
        q.queue.length = min ts.length c.queueCapacity) := by
  intro ns
  have told : Told ns p := told_run valid hrun
  have answered : Answered ns p := answered_run valid hrun
  have steady := (journal_keeps valid (fun _ _ => True) trivial (fun _ _ _ => trivial) hrun).1
  have hsubmissions := submissions_chronicle hrun
  refine ⟨⟨told.fifo, ?_, told.queued_ascending⟩, ?_, ?_, ?_, ?_, ?_⟩
  · rw [told.fifo]
    exact (taken_sublist_released ns).trans (List.sublist_append_left _ _)
  · exact fun i q hi j hevicted =>
      told.evicted_lt (handled_of_undergo steady.sound hi) hevicted
  · intro k hk
    rw [← hsubmissions, List.length_map] at hk
    exact hasBegun_iff told answered hk
  · intro later q hlater k hk
    have hboth : undergoAll { config := c } (is ++ later) = some q := by
      rw [undergoAll, List.foldlM_append]
      exact Option.bind_eq_some_iff.mpr ⟨p, hrun, hlater⟩
    have told' := told_run valid hboth
    have answered' := answered_run valid hboth
    rw [chronicle_append hrun] at told' answered' ⊢
    exact never_begins told told' answered' hk
  · intro single
    obtain ⟨hrunning, lined⟩ := lined_run valid single hrun
    refine ⟨hrunning, lined.sublist ((List.sublist_append_left _ _).map _), fun j hj => ?_⟩
    obtain ⟨place, hget⟩ := submission_of_begun told answered hj
    rw [← hsubmissions, List.getElem?_map, hget]
    rfl
  · intro single policy isOpen hactive hqueue ts
    -- the one worker is busy, so no further thread can be started
    have hthreads : p.config.maxSize ≤ p.threads := by
      rw [steady.config, single.most, ← hactive]
      exact steady.sound.active_le
    obtain ⟨q, hq, -, -, -, hlast⟩ :=
      queue_of_blocked ⟨isOpen, hthreads, steady.config ▸ policy⟩ steady hqueue ts
    refine ⟨q, hq, hlast, ?_⟩
    rw [hlast, List.length_drop, length_jobsFrom]
    omega

/-- One worker, and room for two tasks. -/
def narrow : PoolConfig := { queueCapacity := 2 }

/-- The first task finds no thread and is refused; of the next four, one begins and one is evicted.
The one that began panics, and the oldest queued one is taken. -/
def morning : List (Incident Nat Unit) :=
  [.unstarted 0 {} "no thread", .event (.offer 1 {}), .event (.offer 2 {}), .event (.offer 3 {}),
    .event (.offer 4 {}), .event (.finish 2 (.panicked .other)), .event (.pick 2)]

/-- After that morning tasks 1 and 3 have begun, in this order, and task 4 is queued. If tasks 2, 3
and 4 come while the worker is busy with task 1, tasks 3 and 4 stay. -/
theorem tasks_in_order_morning :
    narrow.validate = .ok () ∧
    (∃ p, undergoAll { config := narrow } morning = some p ∧
      p.queue.map (·.task) = [4] ∧ p.running.length ≤ 1 ∧
      (chronicle { config := narrow } morning).filterMap Note.begun? = [⟨1, 1, {}⟩, ⟨3, 3, {}⟩] ∧
      ¬ HasBegun (chronicle { config := narrow } morning) 0 ∧
      ¬ HasBegun (chronicle { config := narrow } morning) 2) ∧
    ∃ p q : WorkerPool Nat Unit, undergoAll { config := narrow } (morning.take 2) = some p ∧
      p.undergoAll (offersOf [(2, {}), (3, {}), (4, {})]) = some q ∧
      q.queue.map (·.task) = [3, 4] := by
  have valid : narrow.validate = .ok () := by rfl
  have single : Single narrow := ⟨rfl, rfl, by decide⟩
  have hrun : undergoAll { config := narrow } morning = some _ := rfl
  have hshort : undergoAll { config := narrow } (morning.take 2) = some _ := rfl
  obtain ⟨-, -, hbegun, -, hsingle, -⟩ := tasks_in_order valid hrun
  obtain ⟨-, -, -, -, -, hblocked⟩ := tasks_in_order valid hshort
  obtain ⟨q, hq, hqueue, -⟩ := hblocked single rfl rfl rfl rfl [(2, {}), (3, {}), (4, {})]
  refine ⟨valid, ⟨_, hrun, rfl, (hsingle single).1, rfl, fun h => ?_, fun h => ?_⟩,
    _, q, hshort, hq, ?_⟩
  · exact (hbegun 0 (by decide)).mp h (.inr (.inl ⟨_, _, rfl⟩))
  · exact (hbegun 2 (by decide)).mp h (.inl rfl)
  · rw [hqueue]
    rfl

end KeyedDelivery.WorkerPool
