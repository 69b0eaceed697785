import KeyedDelivery.Pool.Threads
import KeyedDelivery.Proofs.Pool.Order

/-!
# Log contexts stay with their tasks

* **`Clean`** — an idle worker has an empty log context, and a busy one gets it back when its job ends.
* **`Filed`** — the queued jobs have the contexts of their submissions.
* **`frames_of_step`** — the tasks that a thread runs for itself are a stack: an event puts one on top,
  takes the one on top away, or leaves them.
* **`contexts_confined`** — every task begins with the context of its submission, idle workers have
  empty contexts, and a thread that ran its own task has what it had before.
-/

namespace KeyedDelivery

/-! ## The contexts of the workers -/

namespace WorkerPool

variable {τ ρ : Type} {p q : WorkerPool τ ρ}

/-- A worker that is idle has an empty log context, or gets it back when its job ends. -/
def CleanWorker (w : Worker τ) : Prop :=
  match w.running with
  | none => w.context = {}
  | some (_, guard) => guard.previous = {}

/-- No worker has anything left of earlier jobs. -/
def Clean (p : WorkerPool τ ρ) : Prop := ∀ w ∈ p.workers, CleanWorker w

/-- A worker that has nothing left of earlier jobs begins one. -/
theorem CleanWorker.begin {w : Worker τ} (idle : w.running = none) (clean : CleanWorker w)
    (j : Job τ) : CleanWorker (w.begin j) := by
  unfold CleanWorker at clean
  rw [idle] at clean
  exact clean

/-- Whatever the job did, its end gives back what the worker had before. -/
theorem CleanWorker.ended {w : Worker τ} (clean : CleanWorker w) : CleanWorker w.ended := by
  unfold CleanWorker Worker.ended at *
  cases hrunning : w.running with
  | none => simpa [hrunning] using clean
  | some r => simpa [hrunning, LogContext.Guard.leave] using clean

/-- Replacing one worker by a clean one keeps the pool clean. -/
theorem Clean.replace {l₁ l₂ : List (Worker τ)} {w w' : Worker τ} (clean : Clean p)
    (hworkers : p.workers = l₁ ++ w :: l₂) (hclean : CleanWorker w → CleanWorker w') :
    ∀ v ∈ l₁ ++ w' :: l₂, CleanWorker v := by
  intro v hv
  rcases List.mem_append.mp hv with hv | hv
  · exact clean v (by simp [hworkers, hv])
  rcases List.mem_cons.mp hv with rfl | hv
  · exact hclean (clean w (by simp [hworkers]))
  · exact clean v (by simp [hworkers, hv])

/-- **Every transition keeps the workers clean.** -/
theorem Clean.transition {e : Event τ ρ} (clean : Clean p) (h : Transition p e q) : Clean q := by
  cases h with
  | started =>
    intro w hw
    rcases List.mem_append.mp hw with hw | hw
    · exact clean w hw
    · rw [List.mem_singleton.mp hw]
      -- a new thread starts with the empty context
      have hnew : CleanWorker ({ number := p.started + 1 } : Worker τ) := by
        unfold CleanWorker
        rfl
      exact hnew.begin rfl _
  | @picked l₁ l₂ w j rest hworkers idle hqueue =>
    -- the job brings its context, and the guard keeps the one it replaces
    exact clean.replace hworkers fun hw => hw.begin idle j
  | finished hworkers running outcome => exact clean.replace hworkers CleanWorker.ended
  | @updated l₁ l₂ w hworkers busy f =>
    -- the guard of the running job remembers the empty context, and is not changed
    obtain ⟨j, guard, hrunning⟩ := running_of_busy busy
    refine clean.replace hworkers fun hw => ?_
    simp only [CleanWorker, hrunning] at hw ⊢
    exact hw
  | retired hworkers idle | left hworkers idle =>
    intro w hw
    refine clean w ?_
    rw [hworkers]
    exact ((List.sublist_cons_self _ _).append_left _).subset hw
  | _ => exact clean

/-- Nor does an incident leave anything behind in a context. -/
theorem Clean.undergo (clean : Clean p) (sound : Sound p) {i : Incident τ ρ}
    (h : p.undergo i = some q) : Clean q := by
  rcases undergo_cases sound h with ⟨e, hstep⟩ | ⟨reason, -, rfl⟩
  · exact clean.transition hstep
  · exact clean

/-! ## Changing the context of a worker -/

theorem worker?_modifyWorker (p : WorkerPool τ ρ) (n : Nat) {f : Worker τ → Worker τ}
    (hnumber : ∀ w, (f w).number = w.number) :
    (p.modifyWorker n f).worker? n = (p.worker? n).map f := by
  unfold modifyWorker worker?
  show (p.workers.map fun w => if w.number = n then f w else w).find? _ = _
  induction p.workers with
  | nil => rfl
  | cons w l ih =>
    by_cases hw : w.number = n
    · simp [hw, hnumber]
    · simpa [hw] using ih

/-- A changed context shows in the worker that has it. -/
theorem worker?_updateContext (p : WorkerPool τ ρ) (n : Nat) (f : LogContext → LogContext) :
    (p.updateContext n f).worker? n =
      (p.worker? n).map fun w => { w with context := f w.context } :=
  worker?_modifyWorker p n fun _ => rfl

theorem hasBusy_updateContext (p : WorkerPool τ ρ) (n : Nat) (f : LogContext → LogContext) :
    (p.updateContext n f).hasBusy n = p.hasBusy n := by
  unfold hasBusy
  rw [worker?_updateContext, Option.any_map]
  rfl

/-- A thread that finishes its own task does not touch the workers. -/
theorem workers_finishOnCaller (p : WorkerPool τ ρ) (n : Nat) (outcome : Outcome ρ) :
    (p.finishOnCaller n outcome).workers = p.workers := by
  unfold finishOnCaller
  split
  · rfl
  · rw [record_eq]

end WorkerPool

namespace ThreadedPool

open WorkerPool (Transition Offered Sound Clean Incident Note)

variable {τ ρ : Type} {p q : WorkerPool τ ρ} {x y z : ThreadedPool τ ρ} {t : ThreadId}

/-! ## What a thread has -/

/-- What is set on a thread where code runs is there. -/
theorem strand_setStrand (hacts : x.acts t = true) (s : Strand) : (x.setStrand t s).strand t = s := by
  cases t with
  | outside n => simp [setStrand, strand]
  | worker n =>
    obtain ⟨w, hw, -⟩ := WorkerPool.worker_of_hasBusy hacts
    simp [setStrand, strand, workerContext, WorkerPool.worker?_updateContext, hw, Strand.context]

/-- Threads do not share the tasks they run for themselves. -/
theorem frames_setStrand_of_ne {t' : ThreadId} (h : t ≠ t') (s : Strand) :
    ((x.setStrand t s).strand t').frames = (x.strand t').frames := by
  cases t with
  | outside n =>
    cases t' with
    | outside m =>
      have hne : n ≠ m := fun hnm => h (hnm ▸ rfl)
      simp [setStrand, strand, Table.find?_put, hne]
    | worker m => rfl
  | worker n =>
    cases t' with
    | outside m => rfl
    | worker m =>
      have hne : n ≠ m := fun hnm => h (hnm ▸ rfl)
      simp [setStrand, strand, Table.find?_put, hne]

theorem submitted_setStrand (s : Strand) : (x.setStrand t s).pool.submitted = x.pool.submitted := by
  cases t <;> rfl

/-- What happens to the pool alone is no matter of the tasks that threads run for themselves. -/
theorem frames_setPool (pool : WorkerPool τ ρ) (t : ThreadId) :
    ({ x with pool }.strand t).frames = (x.strand t).frames := by
  cases t <;> rfl

/-- What happens to the pool concerns a thread only by the context of its worker. -/
theorem strand_setPool {pool : WorkerPool τ ρ} (h : pool.workers = x.pool.workers) (t : ThreadId) :
    { x with pool }.strand t = x.strand t := by
  cases t with
  | outside n => rfl
  | worker n => simp [strand, workerContext, WorkerPool.worker?, h]

theorem acts_setPool {pool : WorkerPool τ ρ} (h : pool.workers = x.pool.workers) (t : ThreadId) :
    { x with pool }.acts t = x.acts t := by
  cases t with
  | outside n => rfl
  | worker n => simp [acts, WorkerPool.hasBusy, WorkerPool.worker?, h]

/-! ## Submissions and ends -/

/-- A thread that has to run its own task begins it at once; no other submission changes a thread. -/
theorem submit_cases (sound : Sound x.pool) (t : ThreadId) (task : τ) :
    (x.submit t task = { x with pool := (x.offered t task).2 } ∧
      ∀ n, (x.offered t task).1 ≠ .toCaller n) ∨
    ((x.offered t task).1 = .toCaller x.pool.submitted ∧
      (x.offered t task).2.workers = x.pool.workers ∧
      (x.offered t task).2.submitted = x.pool.submitted + 1 ∧
      x.submit t task = { x with pool := (x.offered t task).2 }.setStrand t
        ((x.strand t).beginTask x.pool.submitted (x.strand t).context)) := by
  have h : Offered x.pool task (x.strand t).context (x.offered t task).1 (x.offered t task).2 :=
    WorkerPool.offered_of_offer sound task _
  unfold submit
  -- only the policy of the callers puts a frame on the strand of the submitter
  generalize (x.offered t task).1 = place, (x.offered t task).2 = pool at h
  cases h with
  | toCaller => exact .inr ⟨rfl, rfl, rfl, rfl⟩
  | _ => exact .inl ⟨rfl, fun n => by simp⟩

/-- What ends on a thread is the task on top: one it runs for itself, or else the job of the worker. -/
theorem finish_cases {outcome : Outcome ρ} (h : x.finish t outcome = some y) :
    (∃ f rest, (x.strand t).frames = f :: rest ∧
      ∃ z, z = x.setStrand t ⟨⟨f.guard.leave, f.scopes⟩, rest⟩ ∧
        y = { z with pool := z.pool.finishOnCaller f.number outcome }) ∨
    ∃ n, t = .worker n ∧ (x.strand t).frames = [] ∧
      ∃ z, z = x.setStrand t (x.strand t).closeScopes ∧
        y = { z with pool := z.pool.finish n outcome } := by
  cases hframes : (x.strand t).frames with
  -- a frame on the strand: the thread ends its own task
  | cons f rest =>
    simp only [finish, hframes, Strand.closeScopes, Strand.endTask, Option.some.injEq] at h
    exact .inl ⟨f, rest, rfl, _, rfl, h.symm⟩
  -- no frame: only a worker can be in a job then
  | nil =>
    cases t with
    | worker n =>
      simp only [finish, hframes, Option.some.injEq] at h
      exact .inr ⟨n, rfl, rfl, _, rfl, h.symm⟩
    | outside n => simp [finish, hframes] at h

/-! ## The tasks that a thread runs for itself -/

/-- **One event of a stack.** An event leaves the tasks that a thread runs for itself, puts a new one
on top, or takes the one on top away. -/
theorem frames_of_step (sound : Sound x.pool) {e : Event τ ρ} (h : x.step e = some y)
    (t : ThreadId) :
    (y.strand t).frames = (x.strand t).frames ∨
      (∃ f : Frame, f.number = x.pool.submitted ∧ x.pool.submitted < y.pool.submitted ∧
        (y.strand t).frames = f :: (x.strand t).frames) ∨
      ∃ f : Frame, (x.strand t).frames = f :: (y.strand t).frames := by
  -- acting on one strand leaves the frames of all others
  have hset {z : ThreadedPool τ ρ} {t' : ThreadId} (hacts : z.acts t' = true) (s : Strand) :
      ((z.setStrand t' s).strand t).frames =
        if t' = t then s.frames else (z.strand t).frames := by
    by_cases ht : t' = t
    · subst ht
      rw [if_pos rfl, strand_setStrand hacts]
    · rw [if_neg ht, frames_setStrand_of_ne ht]
  cases e with
  | act t' a =>
    simp only [step, Option.ite_none_right_eq_some, Option.map_eq_some_iff] at h
    obtain ⟨hacts, thread, -, rfl⟩ := h
    rw [hset hacts]
    split
    · next ht => exact .inl (ht ▸ rfl)
    · exact .inl rfl
  | submit t' task =>
    simp only [step, Option.ite_none_right_eq_some, Option.some.injEq] at h
    obtain ⟨hacts, rfl⟩ := h
    rcases submit_cases sound t' task with ⟨heq, -⟩ | ⟨-, hworkers, hsubmitted, heq⟩
    · rw [heq, frames_setPool]
      exact .inl rfl
    · rw [heq, hset (by rwa [acts_setPool hworkers]), frames_setPool, submitted_setStrand]
      split
      · next ht =>
        subst ht
        -- the frame on top is that of this submission, the number of which is new
        exact .inr (.inl ⟨_, rfl, hsubmitted ▸ Nat.lt_succ_self _, rfl⟩)
      · exact .inl rfl
  | submitUnstarted t' task reason =>
    simp only [step, Option.ite_none_right_eq_some, Option.some.injEq] at h
    rw [← h.2, frames_setPool]
    exact .inl rfl
  | finish t' outcome =>
    simp only [step, Option.ite_none_right_eq_some] at h
    obtain ⟨hacts, hfinish⟩ := h
    rcases finish_cases hfinish with
      ⟨f, rest, hframes, z, rfl, rfl⟩ | ⟨n, rfl, hframes, z, rfl, rfl⟩
    · rw [frames_setPool, hset hacts]
      split
      · -- the frame on top is taken away
        next ht => exact .inr (.inr ⟨f, ht ▸ hframes⟩)
      · exact .inl rfl
    · rw [frames_setPool, hset hacts]
      split
      · next ht => exact .inl (ht ▸ rfl)
      · exact .inl rfl
  -- what the pool does by itself happens on no strand
  | move e =>
    simp only [step, Option.ite_none_right_eq_some, Option.map_eq_some_iff] at h
    obtain ⟨-, pool, -, rfl⟩ := h
    rw [frames_setPool]
    exact .inl rfl

/-! ## What the events are for the pool -/

/-- The thread, the task and the log context of a submission. -/
def submission? (x : ThreadedPool τ ρ) : Event τ ρ → Option (ThreadId × τ × LogContext)
  | .submit t task | .submitUnstarted t task _ => some (t, task, (x.strand t).context)
  | _ => none

/-- The submissions of a list of events, each with the log context that its thread had then. -/
def submissions (x : ThreadedPool τ ρ) (es : List (Event τ ρ)) :
    List (ThreadId × τ × LogContext) :=
  Runs.noted step (fun x e => (x.submission? e).toList) x es

/-- The job of a submission from a thread with the thread that runs it, if it begins at once. -/
def beginsAt? (j : Job τ) (t : ThreadId) : WorkerPool.Placement → Option (Job τ × ThreadId)
  | .started n => some (j, .worker n)
  | .toCaller _ => some (j, t)
  | _ => none

/-- The job that an event begins, and the thread that runs it. -/
def begins? (x : ThreadedPool τ ρ) : Event τ ρ → Option (Job τ × ThreadId)
  | .submit t task =>
    beginsAt? (x.pool.nextJob task (x.strand t).context) t (x.offered t task).1
  | .move (.pick n) => x.pool.queue.head?.map fun j => (j, .worker n)
  | _ => none

/-- One pool comes from another by incidents that offer these tasks and begin these jobs. -/
def Amounts (p q : WorkerPool τ ρ) (offers : List (τ × LogContext)) (begun : List (Job τ)) : Prop :=
  ∃ is, p.undergoAll is = some q ∧ is.filterMap Incident.submission? = offers ∧
    (p.chronicle is).filterMap Note.begun? = begun

namespace Amounts

theorem refl (p : WorkerPool τ ρ) : Amounts p p [] [] := ⟨[], rfl, rfl, rfl⟩

theorem trans {r : WorkerPool τ ρ} {o o' : List (τ × LogContext)} {b b' : List (Job τ)}
    (h : Amounts p q o b) (h' : Amounts q r o' b') : Amounts p r (o ++ o') (b ++ b') := by
  obtain ⟨is, hrun, rfl, rfl⟩ := h
  obtain ⟨is', hrun', rfl, rfl⟩ := h'
  refine ⟨is ++ is', ?_, List.filterMap_append, ?_⟩
  · rw [WorkerPool.undergoAll, List.foldlM_append]
    exact Option.bind_eq_some_iff.mpr ⟨q, hrun, hrun'⟩
  · rw [WorkerPool.chronicle_append hrun, List.filterMap_append]

theorem of_undergo {i : Incident τ ρ} (h : p.undergo i = some q) :
    Amounts p q i.submission?.toList ((p.notes i).filterMap Note.begun?) := by
  refine ⟨[i], ?_, ?_, ?_⟩
  · rw [WorkerPool.undergoAll, List.foldlM_cons, h]
    rfl
  · cases h : i.submission? <;> simp [h]
  · rw [WorkerPool.chronicle, h, Option.elim_some, WorkerPool.chronicle, List.append_nil]

/-- An event that offers and begins nothing. -/
theorem of_step {e : WorkerPool.Event τ ρ} (h : p.step e = some q)
    (hoffers : (Incident.event e).submission? = none) (hnotes : p.notes (.event e) = []) :
    Amounts p q [] [] := by
  have hall := of_undergo (i := .event e) h
  rwa [hoffers, hnotes] at hall

end Amounts

/-- What a thread does to its own strand adds no submission and begins no job. -/
theorem amounts_setStrand (hacts : x.acts t = true) (s : Strand) :
    Amounts x.pool (x.setStrand t s).pool [] [] := by
  cases t with
  | outside n => exact .refl _
  | worker n =>
    refine .of_step (e := .updateContext n fun _ => s.context) ?_ rfl rfl
    exact WorkerPool.step_eq_some_iff.mpr ⟨hacts, rfl⟩

/-- Nor does the end of a task that its thread ran. -/
theorem amounts_finishOnCaller (p : WorkerPool τ ρ) (k : Nat) (outcome : Outcome ρ) :
    Amounts p (p.finishOnCaller k outcome) [] [] := by
  by_cases hallows : p.onCaller.any (·.number == k) = true
  · refine .of_step (e := .finishOnCaller k outcome) ?_ rfl rfl
    exact WorkerPool.step_eq_some_iff.mpr ⟨hallows, rfl⟩
  · have hnone : p.onCaller.find? (·.number == k) = none := by
      simpa using hallows
    rw [WorkerPool.finishOnCaller, hnone]
    exact .refl p

/-- What a submission begins is what the notes of the pool say. -/
theorem begun_submit (sound : Sound x.pool) (t : ThreadId) (task : τ) :
    (x.pool.notes (.event (.offer task (x.strand t).context))).filterMap Note.begun? =
      (x.begins? (.submit t task)).toList.map (·.1) := by
  have h : Offered x.pool task (x.strand t).context (x.offered t task).1 (x.offered t task).2 :=
    WorkerPool.offered_of_offer sound task _
  -- both sides read the place of the task, so it is abstracted in both
  show (x.pool.offerNotes task (x.strand t).context (x.offered t task).1).filterMap _ =
    (beginsAt? _ t (x.offered t task).1).toList.map _
  generalize (x.offered t task).1 = place, (x.offered t task).2 = pool at h
  cases h with
  | refused closed =>
    rw [WorkerPool.offerNotes_of_closed closed]
    rfl
  | evicted isOpen full policy hqueue =>
    rw [WorkerPool.offerNotes_of_full isOpen _ _ full.1 hqueue]
    rfl
  | queued isOpen cores room =>
    rw [WorkerPool.offerNotes_of_open isOpen _ _ fun _ => room]
    rfl
  | started isOpen | dropped isOpen | rejected isOpen | toCaller isOpen =>
    rw [WorkerPool.offerNotes_of_open isOpen _ _ (by simp)]
    rfl

/-- **What an event is for the pool.** -/
theorem amounts_of_step (sound : Sound x.pool) {e : Event τ ρ} (h : x.step e = some y) :
    Amounts x.pool y.pool ((x.submission? e).toList.map (·.2)) ((x.begins? e).toList.map (·.1)) := by
  cases e with
  | act t' a =>
    simp only [step, Option.ite_none_right_eq_some, Option.map_eq_some_iff] at h
    obtain ⟨hacts, thread, -, rfl⟩ := h
    exact amounts_setStrand hacts _
  | submit t' task =>
    simp only [step, Option.ite_none_right_eq_some, Option.some.injEq] at h
    obtain ⟨hacts, rfl⟩ := h
    -- the offer, before the frame that it may put on the strand
    have hoffer : Amounts x.pool (x.offered t' task).2 [(task, (x.strand t').context)]
        ((x.begins? (.submit t' task)).toList.map (·.1)) := by
      rw [← begun_submit sound]
      exact .of_undergo (i := .event (.offer task (x.strand t').context)) rfl
    rcases submit_cases sound t' task with ⟨heq, -⟩ | ⟨-, hworkers, -, heq⟩
    · rw [heq]
      exact hoffer
    · rw [heq]
      have hacts' : { x with pool := (x.offered t' task).2 }.acts t' = true := by
        rwa [acts_setPool hworkers]
      have hboth := hoffer.trans (amounts_setStrand hacts'
        ((x.strand t').beginTask x.pool.submitted (x.strand t').context))
      rwa [List.append_nil, List.append_nil] at hboth
  | submitUnstarted t' task reason =>
    simp only [step, Option.ite_none_right_eq_some, Option.some.injEq, Bool.and_eq_true] at h
    obtain ⟨⟨-, starts⟩, rfl⟩ := h
    have hall : Amounts x.pool (x.pool.offerUnstarted reason).2 _ _ :=
      .of_undergo (i := .unstarted task (x.strand t').context reason) (if_pos starts)
    have hnone : (x.pool.notes (.unstarted task (x.strand t').context reason)).filterMap
        Note.begun? = [] := by
      rw [WorkerPool.notes_unstarted starts]
      rfl
    rwa [hnone] at hall
  | finish t' outcome =>
    simp only [step, Option.ite_none_right_eq_some] at h
    obtain ⟨hacts, hfinish⟩ := h
    rcases finish_cases hfinish with
      ⟨f, rest, hframes, z, rfl, rfl⟩ | ⟨n, rfl, hframes, z, rfl, rfl⟩
    · exact (amounts_setStrand hacts _).trans (amounts_finishOnCaller _ _ _)
    · -- a worker closes its scopes first, and stays busy through that
      refine (amounts_setStrand hacts (x.strand (.worker n)).closeScopes).trans ?_
      refine .of_step (e := .finish n outcome) ?_ rfl rfl
      exact WorkerPool.step_eq_some_iff.mpr
        ⟨(WorkerPool.hasBusy_updateContext _ _ _).trans hacts, rfl⟩
  | move e =>
    simp only [step, Option.ite_none_right_eq_some, Option.map_eq_some_iff] at h
    obtain ⟨hmove, pool, hpool, rfl⟩ := h
    have hall := Amounts.of_undergo (i := .event e) hpool
    cases e with
    | pick n =>
      have hbegun : (x.pool.notes (.event (.pick n))).filterMap Note.begun? =
          (x.begins? (.move (.pick n))).toList.map (·.1) := by
        cases hqueue : x.pool.queue <;> simp [WorkerPool.notes, begins?, hqueue, Note.begun?]
      rwa [hbegun] at hall
    | discardQueue =>
      have hbegun : (x.pool.notes (.event .discardQueue)).filterMap Note.begun? = [] := by
        simp [WorkerPool.notes, List.filterMap_map, Note.begun?]
      rwa [hbegun] at hall
    | retire | leave | shutdown => exact hall
    | _ => cases hmove

/-! ## Runs -/

section Run

variable {c : PoolConfig} {es : List (Event τ ρ)} {e : Event τ ρ}

/-- The pool of such a run is steady and clean, as every reachable pool is. -/
theorem Amounts.steady (valid : c.validate = .ok ()) {offers : List (τ × LogContext)}
    {begun : List (Job τ)} (h : Amounts { config := c } p offers begun) :
    WorkerPool.Steady c p ∧ Clean p := by
  obtain ⟨is, hrun, -, -⟩ := h
  exact WorkerPool.journal_keeps valid (fun _ p => Clean p) (fun _ hw => nomatch hw)
    (fun steady hstep clean => clean.undergo steady.sound hstep) hrun

/-- From a sound pool it stays sound, and no submission is taken back. -/
theorem Amounts.later (sound : Sound p) {offers : List (τ × LogContext)} {begun : List (Job τ)}
    (h : Amounts p q offers begun) : Sound q ∧ p.submitted ≤ q.submitted := by
  obtain ⟨is, hrun, -, -⟩ := h
  exact Runs.keeps (I := fun _ q => Sound q ∧ p.submitted ≤ q.submitted)
    ⟨sound, Nat.le_refl _⟩ (fun _ hstep ⟨hsound, hle⟩ => ⟨hsound.undergo hstep,
      hle.trans (WorkerPool.submitted_le_of_undergo hsound hstep)⟩) hrun

/-- What is known of a run of the threads: it is a run of the pool with the same submissions, and the
tasks that threads run for themselves were submitted. -/
theorem followed_run (valid : c.validate = .ok ())
    (hrun : run { pool := { config := c } } es = some x) :
    (∃ begun, Amounts { config := c } x.pool
      ((submissions { pool := { config := c } } es).map (·.2)) begun) ∧
    ∀ t, ∀ f ∈ (x.strand t).frames, f.number < x.pool.submitted := by
  refine Runs.keeps (I := fun es x => (∃ begun, Amounts { config := c } x.pool
      ((submissions { pool := { config := c } } es).map (·.2)) begun) ∧
    ∀ t, ∀ f ∈ (x.strand t).frames, f.number < x.pool.submitted)
    ⟨⟨[], .refl _⟩, fun t f hf => ?_⟩ ?_ hrun
  · cases t <;> simp [strand] at hf
  intro es x y e hx hstep hkept
  obtain ⟨⟨begun, hpool⟩, hframes⟩ := hkept
  have hsound := (hpool.steady valid).1.sound
  have hnew := amounts_of_step hsound hstep
  constructor
  · rw [submissions, Runs.noted_concat _ hx, List.map_append]
    exact ⟨_, hpool.trans hnew⟩
  · -- numbers that were given out stay below the count, whether a frame is put on top or taken
    -- away
    have hle := (hnew.later hsound).2
    intro t f hf
    rcases frames_of_step hsound hstep t with hsame | ⟨f', hnumber, hlt, hpushed⟩ | ⟨f', hpopped⟩
    · exact Nat.lt_of_lt_of_le (hframes t f (hsame ▸ hf)) hle
    · rw [hpushed] at hf
      rcases List.mem_cons.mp hf with rfl | hf
      · exact hnumber ▸ hlt
      · exact Nat.lt_of_lt_of_le (hframes t f hf) hle
    · exact Nat.lt_of_lt_of_le (hframes t f (hpopped ▸ List.mem_cons_of_mem _ hf)) hle

/-- A job that begins has its context on the thread that runs it. -/
theorem context_of_begins (sound : Sound x.pool) (hstep : x.step e = some y) {j : Job τ}
    (hbegins : x.begins? e = some (j, t)) : (y.strand t).context = j.context := by
  -- on a worker, because it is found with the job begun
  have hworker {pool : WorkerPool τ ρ} (hsound : Sound pool) (l₁ l₂ : List (Worker τ))
      {w : Worker τ} (j : Job τ) (hworkers : pool.workers = l₁ ++ w.begin j :: l₂) :
      ({ x with pool }.strand (.worker w.number)).context = j.context := by
    have hfound : pool.worker? w.number = some (w.begin j) :=
      WorkerPool.worker?_of_split hsound hworkers
    show workerContext pool w.number = j.context
    rw [workerContext, hfound]
    rfl
  cases e with
  | submit t' task =>
    simp only [step, Option.ite_none_right_eq_some, Option.some.injEq] at hstep
    obtain ⟨hacts, rfl⟩ := hstep
    have hoffered : Offered x.pool task (x.strand t').context (x.offered t' task).1
      (x.offered t' task).2 := WorkerPool.offered_of_offer sound task _
    have hsound : Sound (x.offered t' task).2 :=
      sound.transition (WorkerPool.transition_of_offer sound task _)
    have hbegins : beginsAt? (x.pool.nextJob task (x.strand t').context) t' (x.offered t' task).1 =
      some (j, t) := hbegins
    rcases submit_cases sound t' task with ⟨heq, hplace⟩ | ⟨hplace, hworkers, -, heq⟩
    · rw [heq]
      generalize (x.offered t' task).1 = place, (x.offered t' task).2 = pool at *
      cases hoffered with
      | started isOpen room =>
        cases hbegins
        exact hworker hsound x.pool.workers [] _ rfl
      | toCaller => exact absurd rfl (hplace _)
      | _ => cases hbegins
    · rw [hplace] at hbegins
      cases hbegins
      rw [heq, strand_setStrand (by rwa [acts_setPool hworkers])]
      rfl
  | move e =>
    simp only [step, Option.ite_none_right_eq_some, Option.map_eq_some_iff] at hstep
    obtain ⟨-, pool, hpool, rfl⟩ := hstep
    have hsound : Sound pool := sound.transition (WorkerPool.transition_of_step sound hpool)
    cases e with
    | pick n =>
      have htransition := WorkerPool.transition_of_step sound hpool
      obtain ⟨i, hi, heq⟩ := Option.map_eq_some_iff.mp hbegins
      cases heq
      cases htransition with
      | @picked l₁ l₂ w j' rest hworkers idle hqueue =>
        rw [hqueue] at hi
        cases hi
        exact hworker hsound l₁ l₂ j rfl
    | _ => cases hbegins
  | _ => cases hbegins

/-- A job that begins was submitted with the context its thread has then. -/
theorem submission_of_begins (valid : c.validate = .ok ())
    (hrun : run { pool := { config := c } } es = some x) (hstep : x.step e = some y) {j : Job τ}
    (hbegins : x.begins? e = some (j, t)) :
    ∃ t', (submissions { pool := { config := c } } (es ++ [e]))[j.number]? =
      some (t', j.task, (y.strand t).context) := by
  obtain ⟨⟨begun, hpool⟩, -⟩ := followed_run valid hrun
  have hsound := (hpool.steady valid).1.sound
  obtain ⟨is, hall, hoffers, hbegun⟩ := hpool.trans (amounts_of_step hsound hstep)
  rw [context_of_begins hsound hstep hbegins]
  -- the job is among those that began in the run of the pool
  have hj : j ∈ (WorkerPool.chronicle { config := c } is).filterMap Note.begun? := by
    rw [hbegun, hbegins]
    simp
  obtain ⟨place, hget⟩ := WorkerPool.submission_of_begun (WorkerPool.told_run valid hall)
    (WorkerPool.answered_run valid hall) hj
  -- its submission is told of at the place of its number, and the threads recorded the same
  have hsubmissions : (submissions { pool := { config := c } } (es ++ [e])).map (·.2) =
      ((WorkerPool.chronicle { config := c } is).filterMap Note.submission?).map (·.1) := by
    rw [WorkerPool.submissions_chronicle hall, hoffers, submissions, Runs.noted_concat _ hrun,
      List.map_append]
    rfl
  have hmap := congrArg (·[j.number]?) hsubmissions
  simp only [List.getElem?_map, hget, Option.map_some, Option.map_eq_some_iff] at hmap
  obtain ⟨⟨t', task, context⟩, hfiled, heq⟩ := hmap
  cases heq
  exact ⟨t', hfiled⟩

end Run

/-! ## A thread that runs its own task -/

/-- A thread runs the task of number `n` on top of code that has `s`, or has ended it. -/
structure Suspended (t : ThreadId) (n : Nat) (s : Strand) (x : ThreadedPool τ ρ) : Prop where
  submitted : n < x.pool.submitted
  below : ∀ f ∈ s.frames, f.number ≠ n
  frames : (∃ inner : List Frame,
      (x.strand t).frames = inner ++ ⟨n, ⟨s.context⟩, s.thread.guards⟩ :: s.frames ∧
      ∀ f ∈ inner, f.number ≠ n) ∨
    ∀ f ∈ (x.strand t).frames, f.number ≠ n

/-- The thread begins its own task. -/
theorem Suspended.start {n : Nat} {task : τ} (sound : Sound x.pool)
    (hframes : ∀ f ∈ (x.strand t).frames, f.number < x.pool.submitted)
    (h : x.step (.submit t task) = some y) (hplace : (x.offered t task).1 = .toCaller n) :
    Suspended t n (x.strand t) y := by
  simp only [step, Option.ite_none_right_eq_some, Option.some.injEq] at h
  obtain ⟨hacts, rfl⟩ := h
  rcases submit_cases sound t task with ⟨-, hnone⟩ | ⟨htop, hworkers, hsubmitted, heq⟩
  · exact absurd hplace (hnone n)
  -- the number of the frame is that of the submission
  cases htop.symm.trans hplace
  have hstrand := strand_setStrand (x := { x with pool := (x.offered t task).2 }) (t := t)
    (by rwa [acts_setPool hworkers])
    ((x.strand t).beginTask x.pool.submitted (x.strand t).context)
  rw [← heq] at hstrand
  refine ⟨?_, fun f hf => Nat.ne_of_lt (hframes f hf), .inl ⟨[], ?_, fun f hf => nomatch hf⟩⟩
  · rw [heq, submitted_setStrand]
    exact hsubmitted ▸ Nat.lt_succ_self _
  · rw [hstrand]
    rfl

/-- **One more event**, on this thread or elsewhere. -/
theorem Suspended.step {n : Nat} {s : Strand} (suspended : Suspended t n s x) (sound : Sound x.pool)
    {e : Event τ ρ} (h : x.step e = some y) : Suspended t n s y := by
  obtain ⟨hsubmitted, hbelow, hframes⟩ := suspended
  have hle := ((amounts_of_step sound h).later sound).2
  refine ⟨Nat.lt_of_lt_of_le hsubmitted hle, hbelow, ?_⟩
  rcases frames_of_step sound h t with hsame | ⟨f, hnumber, -, hpushed⟩ | ⟨f, hpopped⟩
  · rwa [hsame]
  · -- a task that begins now is a later one
    have hne : f.number ≠ n := by omega
    rw [hpushed]
    rcases hframes with ⟨inner, hinner, hothers⟩ | hnone
    · refine .inl ⟨f :: inner, by rw [hinner, List.cons_append], fun i hi => ?_⟩
      rcases List.mem_cons.mp hi with rfl | hi
      · exact hne
      · exact hothers i hi
    · refine .inr fun i hi => ?_
      rcases List.mem_cons.mp hi with rfl | hi
      · exact hne
      · exact hnone i hi
  · rcases hframes with ⟨inner, hinner, hothers⟩ | hnone
    · rw [hpopped] at hinner
      cases inner with
      | nil =>
        -- it was the task on top that ended
        obtain ⟨-, hrest⟩ := List.cons_eq_cons.mp hinner
        exact .inr (hrest ▸ hbelow)
      | cons i inner =>
        obtain ⟨-, hrest⟩ := List.cons_eq_cons.mp hinner
        exact .inl ⟨inner, hrest, fun i hi => hothers i (List.mem_cons_of_mem _ hi)⟩
    · exact .inr fun i hi => hnone i (hpopped ▸ List.mem_cons_of_mem _ hi)

/-- When the task on top ends, the thread has what it had before. -/
theorem Suspended.ended {n : Nat} {s : Strand} (suspended : Suspended t n s x)
    (top : (x.strand t).frames.head?.map (·.number) = some n) {outcome : Outcome ρ}
    (h : x.step (.finish t outcome) = some y) : y.strand t = s := by
  simp only [ThreadedPool.step, Option.ite_none_right_eq_some] at h
  obtain ⟨hacts, hfinish⟩ := h
  obtain ⟨g, hg, hnumber⟩ := Option.map_eq_some_iff.mp top
  obtain ⟨rest, hframes⟩ := List.head?_eq_some_iff.mp hg
  -- the frame on top has the number of the suspended task, which no other frame has
  obtain ⟨rfl, rfl⟩ : g = ⟨n, ⟨s.context⟩, s.thread.guards⟩ ∧ rest = s.frames := by
    rcases suspended.frames with ⟨inner, hinner, hothers⟩ | hnone
    · rw [hframes] at hinner
      cases inner with
      | nil => exact List.cons_eq_cons.mp hinner
      | cons i inner =>
        obtain ⟨rfl, -⟩ := List.cons_eq_cons.mp hinner
        exact absurd hnumber (hothers g List.mem_cons_self)
    · exact absurd hnumber (hnone g (hframes ▸ List.mem_cons_self))
  rcases finish_cases hfinish with ⟨f, rest, htop, z, rfl, rfl⟩ | ⟨m, rfl, hnone, -⟩
  · obtain ⟨rfl, rfl⟩ := List.cons_eq_cons.mp (hframes.symm.trans htop)
    rw [strand_setPool (WorkerPool.workers_finishOnCaller _ _ _), strand_setStrand hacts]
    rfl
  · rw [hnone] at hframes
    cases hframes

/-! ## All of it -/

/-- **Log contexts are confined.** After every run of a pool with valid settings and of its threads,
whatever the code on them does to its context, also if there was no thread for some workers:

* a worker that is idle has an empty log context;
* a job that begins next has, on the thread that runs it, the log context that the thread of its
  submission had then;
* if the thread of a submission has to run the task itself, then, whatever happens until this task
  ends, it has what it had before the submission, its context as well as its open scopes. -/
theorem contexts_confined {c : PoolConfig} (valid : c.validate = .ok ()) {es : List (Event τ ρ)}
    (hrun : run { pool := { config := c } } es = some x) :
    (∀ w ∈ x.pool.workers, w.running = none → w.context = {}) ∧
    (∀ e y, x.step e = some y → ∀ j t, x.begins? e = some (j, t) →
      ∃ t', (submissions { pool := { config := c } } (es ++ [e]))[j.number]? =
        some (t', j.task, (y.strand t).context)) ∧
    ∀ t task y n, x.step (.submit t task) = some y → (x.offered t task).1 = .toCaller n →
      ∀ later z, y.run later = some z → (z.strand t).frames.head?.map (·.number) = some n →
        ∀ outcome r, z.step (.finish t outcome) = some r → r.strand t = x.strand t := by
  obtain ⟨⟨begun, hpool⟩, hframes⟩ := followed_run valid hrun
  obtain ⟨steady, clean⟩ := hpool.steady valid
  have sound := steady.sound
  refine ⟨fun w hw idle => ?_, fun e y hstep j t => submission_of_begins valid hrun hstep, ?_⟩
  · have hclean := clean w hw
    rwa [WorkerPool.CleanWorker, idle] at hclean
  intro t task y n hsubmit hplace later z hlater htop outcome r hfinish
  have hsound : Sound y.pool := ((amounts_of_step sound hsubmit).later sound).1
  have hstart : Suspended t n (x.strand t) y := .start sound (hframes t) hsubmit hplace
  -- the strand stays suspended below the frame, whatever happens above it
  have hkept := Runs.keeps (I := fun _ z => Sound z.pool ∧ Suspended t n (x.strand t) z)
    ⟨hsound, hstart⟩ (fun _ hstep ⟨hsound, hkept⟩ =>
      ⟨((amounts_of_step hsound hstep).later hsound).1, hkept.step hsound hstep⟩) hlater
  exact hkept.2.ended htop hfinish

/-- One worker, room for one queued task, and submitters that run what comes then. -/
def shared : PoolConfig := { coreSize := 1, maxSize := 1, queueCapacity := 1, policy := .callerRuns }

/-- The log context of a request. -/
def request (id : String) : LogContext := ⟨[("request", id)]⟩

/-- A submitter, thread 0, submits task 0 for request a and task 1 for request b, and goes on to
request c. Task 0 panics on the worker inside a scope, with entries of its own. -/
def visits : List (Event Nat Unit) :=
  [.act (.outside 0) (.update fun _ => request "a"), .submit (.outside 0) 0,
    .act (.worker 1) (.openScope "inner" (request "x")),
    .act (.worker 1) (.update fun c => ⟨c.entries ++ [("step", "1")]⟩),
    .act (.outside 0) (.update fun _ => request "b"), .submit (.outside 0) 1,
    .act (.outside 0) (.update fun _ => request "c"), .finish (.worker 1) (.panicked .other)]

/-- Task 1 then begins on the worker with request b, where nothing is left of task 0. If two more
tasks come while it runs, the submitter runs the second one, which opens a scope and panics, and has
request c again. -/
theorem contexts_confined_visits :
    shared.validate = .ok () ∧
    ∃ x y : ThreadedPool Nat Unit, run { pool := { config := shared } } visits = some x ∧
      x.step (.move (.pick 1)) = some y ∧
      (x.strand (.worker 1)).context = {} ∧ (y.strand (.worker 1)).context = request "b" ∧
      ∃ v w z r, y.run [.submit (.outside 0) 2] = some v ∧ v.step (.submit (.outside 0) 3) = some w ∧
        w.run [.act (.outside 0) (.openScope "inner" (request "x"))] = some z ∧
        (z.strand (.outside 0)).context = request "x" ∧
        z.step (.finish (.outside 0) (.panicked .other)) = some r ∧
        r.strand (.outside 0) = v.strand (.outside 0) := by
  have valid : shared.validate = .ok () := by rfl
  have hrun : run { pool := { config := shared } } visits = some _ := rfl
  obtain ⟨hidle, hbegins, -⟩ := contexts_confined valid hrun
  obtain ⟨t, hfiled⟩ := hbegins (.move (.pick 1)) _ rfl ⟨1, 1, request "b"⟩ (.worker 1) rfl
  have hmore : run { pool := { config := shared } }
    (visits ++ [.move (.pick 1), .submit (.outside 0) 2]) = some _ := rfl
  obtain ⟨-, -, hcaller⟩ := contexts_confined valid hmore
  refine ⟨valid, _, _, hrun, rfl, hidle _ (List.mem_singleton_self _) rfl, ?_, _, _, _, _, rfl, rfl,
    rfl, rfl, rfl, hcaller (.outside 0) 3 _ 3 rfl rfl
      [.act (.outside 0) (.openScope "inner" (request "x"))] _ rfl rfl (.panicked .other) _ rfl⟩
  -- it is the context that was filed with the submission
  cases hfiled
  rfl

end ThreadedPool

end KeyedDelivery
