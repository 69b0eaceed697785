import KeyedDelivery.Proofs.Pool.Numbering
import KeyedDelivery.Proofs.Pool.Sizes
import KeyedDelivery.Proofs.Runs

/-!
# The journal of a pool

What a pool does with each task can be told from what happens to it, one incident after the other.

* **`Note`** — what is told of a task: that it was offered and where it went, or that it was turned
  away; that a queued job was taken by a worker, evicted, or dropped with the rest of the queue.
* **`chronicle`** — all notes of a list of incidents, in order.
* **`Handled`** — what an incident does to the jobs of a pool, by the notes it leaves; the workers
  are left out. **`handled_of_undergo`** proves it for every incident of a sound pool.
-/

namespace KeyedDelivery.WorkerPool

variable {τ ρ : Type}

/-! ## Notes -/

/-- Whether a task that went to this place begins at once. -/
def Placement.begins : Placement → Bool
  | .started _ | .toCaller _ => true
  | _ => false

/-- What is told of a task. -/
inductive Note (τ : Type) where
  /-- A pool that takes tasks was offered one, which became this job and went to this place. -/
  | offered (j : Job τ) (place : Placement)
  /-- A pool that is shut down was offered a task. -/
  | turnedAway (task : τ) (context : LogContext) (place : Placement)
  /-- An idle worker took a queued job. -/
  | taken (j : Job τ)
  /-- A queued job made room for a new one. -/
  | evicted (j : Job τ)
  /-- A queued job was dropped with the whole queue. -/
  | cleared (j : Job τ)

namespace Note

/-- The task that was offered, with its submitter's log context and where it went. -/
def submission? : Note τ → Option ((τ × LogContext) × Placement)
  | offered j place => some ((j.task, j.context), place)
  | turnedAway task context place => some ((task, context), place)
  | _ => none

def offered? : Note τ → Option (Job τ)
  | offered j _ => some j
  | _ => none

/-- The job that was put at the end of the queue. -/
def queued? : Note τ → Option (Job τ)
  | offered j .queued => some j
  | _ => none

def taken? : Note τ → Option (Job τ)
  | taken j => some j
  | _ => none

/-- The job that left the queue. -/
def released? : Note τ → Option (Job τ)
  | taken j | evicted j | cleared j => some j
  | _ => none

/-- The job that began: a worker took it or was started with it, or its submitter runs it. -/
def begun? : Note τ → Option (Job τ)
  | offered j place => if place.begins then some j else none
  | taken j => some j
  | _ => none

/-- The job that was dropped without having begun. -/
def discarded? : Note τ → Option (Job τ)
  | offered j .dropped => some j
  | evicted j | cleared j => some j
  | _ => none

/-- The job that the pool did not take. -/
def refused? : Note τ → Option (Job τ)
  | offered j (.refused _) => some j
  | _ => none

end Note

/-- The notes of an offer, by where the task went: a job that is queued although the queue is at its
capacity takes the place of the oldest one. -/
def offerNotes (p : WorkerPool τ ρ) (task : τ) (context : LogContext) (place : Placement) :
    List (Note τ) :=
  if p.isShutDown then [.turnedAway task context place]
  else if place = .queued ∧ p.config.queueCapacity ≤ p.queue.length then
    (p.queue.take 1).map .evicted ++ [.offered (p.nextJob task context) place]
  else [.offered (p.nextJob task context) place]

/-- What is told of an incident. -/
def notes (p : WorkerPool τ ρ) : Incident τ ρ → List (Note τ)
  | .event (.offer task context) => p.offerNotes task context (p.offer task context).1
  | .unstarted task context reason => p.offerNotes task context (p.offerUnstarted reason).1
  | .event (.pick _) => (p.queue.take 1).map .taken
  | .event .discardQueue => p.queue.map .cleared
  | .event _ => []

/-- What is told of a list of incidents. -/
def chronicle (p : WorkerPool τ ρ) : List (Incident τ ρ) → List (Note τ)
  | [] => []
  | i :: is => p.notes i ++ ((p.undergo i).elim [] fun q => q.chronicle is)

variable {p q : WorkerPool τ ρ}

/-- A pool that was shut down turns every offer away. -/
theorem offerNotes_of_closed (closed : p.isShutDown = true) (task : τ) (context : LogContext)
    (place : Placement) : p.offerNotes task context place = [.turnedAway task context place] :=
  if_pos closed

/-- Before that, an offer that evicts nothing leaves one note. -/
theorem offerNotes_of_open (isOpen : p.isShutDown = false) (task : τ) (context : LogContext)
    {place : Placement} (room : place = .queued → p.queue.length < p.config.queueCapacity) :
    p.offerNotes task context place = [.offered (p.nextJob task context) place] := by
  rw [offerNotes, if_neg (by simp [isOpen]), if_neg]
  exact fun h => Nat.not_le_of_lt (room h.1) h.2

/-- One that evicts the oldest job tells of this first. -/
theorem offerNotes_of_full (isOpen : p.isShutDown = false) (task : τ) (context : LogContext)
    (full : p.config.queueCapacity ≤ p.queue.length) {oldest : Job τ} {rest : List (Job τ)}
    (hqueue : p.queue = oldest :: rest) : p.offerNotes task context .queued =
      [.evicted oldest, .offered (p.nextJob task context) .queued] := by
  rw [offerNotes, if_neg (by simp [isOpen]), if_pos ⟨rfl, full⟩, hqueue]
  rfl

/-- Workers are started by open pools only. -/
theorem isOpen_of_startsNext (starts : p.startsNext = true) : p.isShutDown = false := by
  rw [startsNext, Bool.and_eq_true] at starts
  simpa using starts.1

/-- Without the worker that would have been started, the note is that of a refusal. -/
theorem notes_unstarted (starts : p.startsNext = true) (task : τ) (context : LogContext)
    (reason : String) : p.notes (.unstarted task context reason) =
      [.offered (p.nextJob task context) (p.offerUnstarted reason).1] :=
  offerNotes_of_open (isOpen_of_startsNext starts) task context (by simp [offerUnstarted])

theorem undergoAll_concat (p : WorkerPool τ ρ) (is : List (Incident τ ρ)) (i : Incident τ ρ) :
    p.undergoAll (is ++ [i]) = (p.undergoAll is).bind (·.undergo i) :=
  Runs.foldlM_concat undergo p is i

/-- The chronicle is what is noted along the run. -/
theorem chronicle_eq (p : WorkerPool τ ρ) (is : List (Incident τ ρ)) :
    p.chronicle is = Runs.noted undergo notes p is := by
  induction is generalizing p with
  | nil => rfl
  | cons i is ih =>
    rw [chronicle, Runs.noted]
    cases p.undergo i with
    | none => rfl
    | some q => rw [Option.elim_some, Option.elim_some, ih]

/-- The notes of a run that goes on follow those it has. -/
theorem chronicle_append {is : List (Incident τ ρ)} (hrun : p.undergoAll is = some q)
    (later : List (Incident τ ρ)) :
    p.chronicle (is ++ later) = p.chronicle is ++ q.chronicle later := by
  rw [chronicle_eq, chronicle_eq, chronicle_eq]
  exact Runs.noted_append notes hrun later

/-- One incident more adds its own notes. -/
theorem chronicle_concat {is : List (Incident τ ρ)} (hrun : p.undergoAll is = some q)
    (i : Incident τ ρ) : p.chronicle (is ++ [i]) = p.chronicle is ++ q.notes i := by
  rw [chronicle_eq, chronicle_eq]
  exact Runs.noted_concat notes hrun i

/-- The notes tell of every task that was offered, in order. -/
theorem submissions_notes (p : WorkerPool τ ρ) (i : Incident τ ρ) :
    ((p.notes i).filterMap Note.submission?).map (·.1) = i.submission?.toList := by
  -- an offer is noted once, whatever the place; an eviction beside it names an older job
  have hoffer (task : τ) (context : LogContext) (place : Placement) :
      ((p.offerNotes task context place).filterMap Note.submission?).map (·.1) =
        [(task, context)] := by
    unfold offerNotes
    split
    · rfl
    split
    · cases p.queue <;> rfl
    · rfl
  cases i with
  | unstarted task context reason => exact hoffer task context _
  | event e =>
    cases e with
    | offer task context => exact hoffer task context _
    | pick n =>
      cases hqueue : p.queue <;> simp [notes, hqueue, Note.submission?, Incident.submission?]
    | discardQueue =>
      -- dropped jobs were submitted earlier
      simp [notes, List.filterMap_map, Function.comp_def, Note.submission?, Incident.submission?]
    | _ => rfl

/-- So the submissions of a whole run are those that its notes tell of. -/
theorem submissions_chronicle {is : List (Incident τ ρ)} (hrun : p.undergoAll is = some q) :
    ((p.chronicle is).filterMap Note.submission?).map (·.1) =
      is.filterMap Incident.submission? := by
  induction is generalizing p with
  | nil => rfl
  | cons i is ih =>
    rw [undergoAll, List.foldlM_cons] at hrun
    obtain ⟨r, hr, hrest⟩ := Option.bind_eq_some_iff.mp hrun
    rw [chronicle, hr, Option.elim_some, List.filterMap_append, List.map_append,
      submissions_notes, ih hrest, List.filterMap_cons]
    cases i.submission? <;> rfl

/-! ## What an incident does to the jobs -/

/-- A task becomes a job, with the number of its submission. -/
structure Admitted (p q : WorkerPool τ ρ) (j : Job τ) : Prop where
  isOpen : p.isShutDown = false
  number : j.number = p.submitted
  submitted : q.submitted = p.submitted + 1

/-- What an incident does to the jobs of a pool, by the notes it leaves. -/
inductive Handled (p q : WorkerPool τ ρ) : List (Note τ) → Prop where
  | turnedAway (task : τ) (context : LogContext) (e : PoolError) (closed : p.isShutDown = true)
      (same : q = p) : Handled p q [.turnedAway task context (.refused e)]
  | refused {j : Job τ} (e : PoolError) (admitted : Admitted p q j) (queue : q.queue = p.queue)
      (running : q.running = p.running) (fates : q.fates = p.fates) :
      Handled p q [.offered j (.refused e)]
  | begun {j : Job τ} (place : Placement) (begins : place.begins = true)
      (room : p.threads < p.config.maxSize ∨ p.config.policy = .callerRuns)
      (admitted : Admitted p q j) (queue : q.queue = p.queue)
      (running : q.running.Perm (j :: p.running)) (fates : q.fates = p.fates) :
      Handled p q [.offered j place]
  | queued {j : Job τ} (admitted : Admitted p q j) (queue : q.queue = p.queue ++ [j])
      (running : q.running = p.running) (fates : q.fates = p.fates) :
      Handled p q [.offered j .queued]
  | evicted {oldest j : Job τ} {rest : List (Job τ)} (admitted : Admitted p q j)
      (full : p.queue = oldest :: rest) (queue : q.queue = rest ++ [j])
      (running : q.running = p.running)
      (fates : q.fates = p.fates.put oldest.number (.error .discarded)) :
      Handled p q [.evicted oldest, .offered j .queued]
  | dropped {j : Job τ} (admitted : Admitted p q j) (queue : q.queue = p.queue)
      (running : q.running = p.running)
      (fates : q.fates = p.fates.put j.number (.error .discarded)) :
      Handled p q [.offered j .dropped]
  | taken {j : Job τ} {rest : List (Job τ)} (submitted : q.submitted = p.submitted)
      (full : p.queue = j :: rest) (queue : q.queue = rest)
      (running : q.running.Perm (j :: p.running)) (fates : q.fates = p.fates) :
      Handled p q [.taken j]
  | ended {j : Job τ} (outcome : Outcome ρ) (submitted : q.submitted = p.submitted)
      (queue : q.queue = p.queue) (running : p.running.Perm (j :: q.running))
      (fates : q.fates = p.fates.put j.number (fateOf outcome)) : Handled p q []
  | cleared (submitted : q.submitted = p.submitted) (queue : q.queue = [])
      (running : q.running = p.running) (fates : q.fates = dropAll p.fates p.queue) :
      Handled p q (p.queue.map .cleared)
  | idle (submitted : q.submitted = p.submitted) (queue : q.queue = p.queue)
      (running : q.running = p.running) (fates : q.fates = p.fates) : Handled p q []

/-- What an offer does to the jobs. -/
theorem handled_of_offer (sound : Sound p) (task : τ) (context : LogContext) :
    Handled p (p.offer task context).2 (p.notes (.event (.offer task context))) := by
  have h := offered_of_offer sound task context
  -- the place and the state come from one computation, so they are abstracted together
  show Handled p (p.offer task context).2 (p.offerNotes task context (p.offer task context).1)
  generalize (p.offer task context).1 = place, (p.offer task context).2 = q at h
  cases h with
  | refused closed =>
    rw [offerNotes_of_closed closed]
    exact .turnedAway task context _ closed rfl
  | started isOpen room =>
    rw [offerNotes_of_open isOpen _ _ (by simp)]
    exact .begun _ rfl (.inl (sound.room_le room)) ⟨isOpen, rfl, rfl⟩ rfl
      (running_started { number := p.started + 1 } _ rfl rfl) rfl
  | queued isOpen cores room =>
    rw [offerNotes_of_open isOpen _ _ fun _ => room]
    exact .queued ⟨isOpen, rfl, rfl⟩ rfl rfl rfl
  | evicted isOpen full policy hqueue =>
    rw [offerNotes_of_full isOpen _ _ full.1 hqueue]
    exact .evicted ⟨isOpen, rfl, rfl⟩ hqueue rfl rfl rfl
  | dropped isOpen =>
    rw [offerNotes_of_open isOpen _ _ (by simp)]
    exact .dropped ⟨isOpen, rfl, rfl⟩ rfl rfl rfl
  | rejected isOpen =>
    rw [offerNotes_of_open isOpen _ _ (by simp)]
    exact .refused _ ⟨isOpen, rfl, rfl⟩ rfl rfl rfl
  | toCaller isOpen full policy =>
    rw [offerNotes_of_open isOpen _ _ (by simp)]
    exact .begun _ rfl (.inr policy) ⟨isOpen, rfl, rfl⟩ rfl (running_toCaller _ rfl rfl) rfl

/-- A task whose worker could not be started is refused, and its number is used up. -/
theorem handled_of_unstarted (starts : p.startsNext = true) (task : τ) (context : LogContext)
    (reason : String) :
    Handled p (p.offerUnstarted reason).2 (p.notes (.unstarted task context reason)) := by
  rw [notes_unstarted starts]
  exact .refused _ ⟨isOpen_of_startsNext starts, rfl, rfl⟩ rfl rfl rfl

/-- What a transition that offers nothing does to the jobs. -/
theorem handled_of_transition {e : Event τ ρ} (h : Transition p e q)
    (hoffers : ∀ task context, e ≠ .offer task context) : Handled p q (p.notes (.event e)) := by
  cases h with
  | refused task context | started task context | queued task context | evicted task context
  | dropped task context | rejected task context | toCaller task context =>
    -- offers have their own lemma, as their notes depend on the place
    exact absurd rfl (hoffers task context)
  | @picked l₁ l₂ w j rest hworkers idle hqueue =>
    rw [notes, hqueue]
    exact .taken rfl hqueue rfl (running_begin hworkers idle j rfl rfl) rfl
  | finished hworkers running outcome =>
    exact .ended outcome rfl rfl (running_ended hworkers running rfl rfl) rfl
  | finishedOnCaller hcallers outcome =>
    exact .ended outcome rfl rfl (running_finishedOnCaller rfl hcallers rfl) rfl
  | @updated l₁ l₂ w hworkers busy f =>
    have hsame : { w with context := f w.context }.running = w.running := rfl
    exact .idle rfl rfl (running_updated hworkers hsame rfl rfl) rfl
  | retired hworkers idle | left hworkers idle =>
    exact .idle rfl rfl (running_idle hworkers idle rfl rfl) rfl
  | shutdown => exact .idle rfl rfl rfl rfl
  | discardedQueue => exact .cleared rfl rfl rfl rfl

/-- **What every incident does to the jobs of a pool.** -/
theorem handled_of_undergo (sound : Sound p) {i : Incident τ ρ} (h : p.undergo i = some q) :
    Handled p q (p.notes i) := by
  cases i with
  | unstarted task context reason =>
    obtain ⟨starts, rfl⟩ : p.startsNext = true ∧ (p.offerUnstarted reason).2 = q := by
      simpa [undergo] using h
    -- a submission without a thread is no event of the pool, and has its own lemma
    exact handled_of_unstarted starts task context reason
  | event e =>
    by_cases hoffer : ∃ task context, e = .offer task context
    · obtain ⟨task, context, rfl⟩ := hoffer
      obtain ⟨-, rfl⟩ := step_eq_some_iff.mp h
      exact handled_of_offer sound task context
    · exact handled_of_transition (transition_of_step sound h)
        fun task context he => hoffer ⟨task, context, he⟩

/-- The count of submissions never falls. -/
theorem submitted_le_of_undergo (sound : Sound p) {i : Incident τ ρ} (h : p.undergo i = some q) :
    p.submitted ≤ q.submitted := by
  have hhandled := handled_of_undergo sound h
  generalize p.notes i = news at hhandled
  cases hhandled with
  | turnedAway task context e closed same => exact Nat.le_of_eq (congrArg _ same.symm)
  | refused e admitted | begun _ _ _ admitted | queued admitted | evicted admitted
  | dropped admitted => exact admitted.submitted ▸ Nat.le_succ _
  | taken submitted | ended _ submitted | cleared submitted | idle submitted =>
    exact Nat.le_of_eq submitted.symm

end KeyedDelivery.WorkerPool
