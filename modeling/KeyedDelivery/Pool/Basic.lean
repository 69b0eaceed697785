import KeyedDelivery.Config.Pool
import KeyedDelivery.LogContext
import KeyedDelivery.Outcome
import KeyedDelivery.Pool.Error
import KeyedDelivery.Table

/-!
# Worker pools

A pool runs tasks on a bounded number of threads, with a bounded queue before them. This module holds
the state of a pool and what each event does to it, one event at a time: a task is offered, an idle
worker picks the oldest queued task, a task ends, an idle worker leaves, the pool is shut down.

A task is placed by the first rule that applies (`offer`):

* below the core size a new worker is started with it;
* below the capacity of the queue it is queued;
* below the maximal size a new worker is started with it;
* otherwise the overload policy decides.

Every task carries the log context of its submitter, which its thread has while the task runs and
gives up afterwards. What became of a task is recorded under the number of its submission.
-/

namespace KeyedDelivery

/-- A task that was taken, with the number of its submission and the submitter's log context. -/
structure Job (τ : Type) where
  number : Nat
  task : τ
  context : LogContext
  deriving DecidableEq, Repr

/-- A thread of a pool: the log context it has, and the job it runs with what it had before. -/
structure Worker (τ : Type) where
  number : Nat
  context : LogContext := {}
  running : Option (Job τ × LogContext.Guard) := none
  deriving DecidableEq, Repr

/-- The state of a pool of tasks `τ` with results `ρ`. -/
structure WorkerPool (τ ρ : Type) where
  config : PoolConfig
  /-- The jobs no worker has picked yet, the oldest first. -/
  queue : List (Job τ) := []
  workers : List (Worker τ) := []
  /-- The jobs that run on the threads of their submitters. -/
  onCaller : List (Job τ) := []
  /-- How many workers there are, as the pool counts them. -/
  threads : Nat := 0
  /-- How many workers run a job, as the pool counts them. -/
  active : Nat := 0
  /-- How many workers were ever started; they are numbered from 1. -/
  started : Nat := 0
  /-- The most workers there were at once. -/
  largest : Nat := 0
  isShutDown : Bool := false
  /-- The workers nobody waits for yet. -/
  unawaited : List Nat := []
  submitted : Nat := 0
  completed : Nat := 0
  discarded : Nat := 0
  rejected : Nat := 0
  panicked : Nat := 0
  /-- What became of the jobs that are done with, by number. -/
  fates : Table Nat (Except TaskError ρ) := []

/-- The figures a pool reports. -/
structure PoolStats where
  submitted : Nat
  completed : Nat
  discarded : Nat
  rejected : Nat
  panicked : Nat
  active : Nat
  poolSize : Nat
  largestPoolSize : Nat
  queued : Nat
  deriving DecidableEq, Repr

namespace Worker

variable {τ : Type}

def isIdle (w : Worker τ) : Bool := w.running.isNone

/-- The worker with a job begun: it has the job's log context. -/
def begin (w : Worker τ) (j : Job τ) : Worker τ :=
  let (context, guard) := LogContext.enter w.context j.context
  { w with context, running := some (j, guard) }

/-- The worker with its job ended: it has what it had before. -/
def ended (w : Worker τ) : Worker τ :=
  match w.running with
  | none => w
  | some (_, guard) => { w with context := guard.leave, running := none }

end Worker

namespace WorkerPool

variable {τ ρ : Type}

/-- A pool without workers. -/
def ofConfig (c : PoolConfig) : Except ConfigError (WorkerPool τ ρ) := do
  c.validate
  return { config := c }

def stats (p : WorkerPool τ ρ) : PoolStats where
  submitted := p.submitted
  completed := p.completed
  discarded := p.discarded
  rejected := p.rejected
  panicked := p.panicked
  active := p.active
  poolSize := p.threads
  largestPoolSize := p.largest
  queued := p.queue.length

def isIdle (p : WorkerPool τ ρ) : Bool := p.queue.isEmpty && p.active == 0

def threadName (p : WorkerPool τ ρ) (worker : Nat) : String :=
  p.config.name ++ "-thread-" ++ Text.natural worker

def worker? (p : WorkerPool τ ρ) (n : Nat) : Option (Worker τ) :=
  p.workers.find? (·.number == n)

/-- The jobs that run, on workers and on the threads of their submitters. -/
def running (p : WorkerPool τ ρ) : List (Job τ) :=
  p.workers.filterMap (·.running.map (·.1)) ++ p.onCaller

def modifyWorker (p : WorkerPool τ ρ) (n : Nat) (f : Worker τ → Worker τ) : WorkerPool τ ρ :=
  { p with workers := p.workers.map fun w => if w.number = n then f w else w }

/-- Records what became of a job. -/
def settle (p : WorkerPool τ ρ) (number : Nat) (fate : Except TaskError ρ) : WorkerPool τ ρ :=
  { p with fates := p.fates.put number fate }

/-- Records that jobs were dropped before they ran. -/
def settleDropped (p : WorkerPool τ ρ) (jobs : List (Job τ)) : WorkerPool τ ρ :=
  jobs.foldl (fun p j => p.settle j.number (.error .discarded)) p

/-! ### Offering a task -/

/-- Where a task went. -/
inductive Placement where
  | refused (e : PoolError)
  /-- A new worker was started with it. -/
  | started (worker : Nat)
  | queued
  /-- It was dropped. -/
  | dropped
  /-- The submitting thread has to run it. -/
  | toCaller (number : Nat)
  deriving DecidableEq, Repr

def startWorker (p : WorkerPool τ ρ) (j : Job τ) : Placement × WorkerPool τ ρ :=
  let number := p.started + 1
  let w : Worker τ := { number }
  (.started number,
    { p with
      started := number
      workers := p.workers ++ [w.begin j]
      threads := p.threads + 1
      active := p.active + 1
      largest := max p.largest (p.threads + 1)
      unawaited := p.unawaited ++ [number] })

/-- Applies the overload policy to a job. -/
def overload (p : WorkerPool τ ρ) (j : Job τ) : Placement × WorkerPool τ ρ :=
  match p.config.policy with
  | .discardOldest =>
    let q := { p with queue := p.queue.drop 1 ++ [j], discarded := p.discarded + 1 }
    (.queued, q.settleDropped (p.queue.take 1))
  | .discard => (.dropped, { p with discarded := p.discarded + 1 }.settleDropped [j])
  | .abort => (.refused (.rejected p.config.name), { p with rejected := p.rejected + 1 })
  | .callerRuns => (.toCaller j.number, { p with onCaller := p.onCaller ++ [j] })

/-- Offers a task, with the log context of its submitter. -/
def offer (p : WorkerPool τ ρ) (task : τ) (context : LogContext) :
    Placement × WorkerPool τ ρ :=
  if p.isShutDown then (.refused (.shutDown p.config.name), p)
  else
    let j : Job τ := ⟨p.submitted, task, context⟩
    let p := { p with submitted := p.submitted + 1 }
    if p.threads < p.config.coreSize then p.startWorker j
    else if p.queue.length < p.config.queueCapacity then
      (.queued, { p with queue := p.queue ++ [j] })
    else if p.threads < p.config.maxSize then p.startWorker j
    else p.overload j

/-- Whether a new worker is to be started with the next task. -/
def startsNext (p : WorkerPool τ ρ) : Bool :=
  !p.isShutDown && (p.threads < p.config.coreSize ||
    p.config.queueCapacity ≤ p.queue.length && p.threads < p.config.maxSize)

/-- Offers a task that a new worker is to be started with, when the system has no thread for the
worker. The numbers of both are used up. -/
def offerUnstarted (p : WorkerPool τ ρ) (reason : String) : Placement × WorkerPool τ ρ :=
  (.refused (.spawn p.config.name reason),
    { p with submitted := p.submitted + 1, started := p.started + 1 })

/-! ### Running tasks -/

/-- The idle worker of a number takes the oldest queued job. -/
def pick (p : WorkerPool τ ρ) (n : Nat) : WorkerPool τ ρ :=
  match p.queue with
  | [] => p
  | j :: rest => { p with queue := rest, active := p.active + 1 }.modifyWorker n (·.begin j)

/-- What a job that ended left: a value, or what its panic said. -/
def fateOf : Outcome ρ → Except TaskError ρ
  | .returned v => .ok v
  | .panicked payload => .error (.panicked payload.message)

/-- Counts a job that ended, and records what became of it. -/
def record (p : WorkerPool τ ρ) (j : Job τ) (outcome : Outcome ρ) : WorkerPool τ ρ :=
  let p := match outcome with
    | .returned _ => { p with completed := p.completed + 1 }
    | .panicked _ => { p with panicked := p.panicked + 1 }
  p.settle j.number (fateOf outcome)

/-- The job of a worker ends. -/
def finish (p : WorkerPool τ ρ) (n : Nat) (outcome : Outcome ρ) : WorkerPool τ ρ :=
  match (p.worker? n).bind (·.running) with
  | none => p
  | some (j, _) =>
    ({ p with active := p.active - 1 }.modifyWorker n (·.ended)).record j outcome

/-- The job of a number ends on its submitter's thread. -/
def finishOnCaller (p : WorkerPool τ ρ) (number : Nat) (outcome : Outcome ρ) :
    WorkerPool τ ρ :=
  match p.onCaller.find? (·.number == number) with
  | none => p
  | some j =>
    { p with onCaller := p.onCaller.filter (·.number ≠ number) }.record j outcome

/-- The task that a worker runs changes the log context of its thread. -/
def updateContext (p : WorkerPool τ ρ) (n : Nat) (f : LogContext → LogContext) :
    WorkerPool τ ρ :=
  p.modifyWorker n fun w => { w with context := f w.context }

/-! ### Idle workers and shutdown -/

def leave (p : WorkerPool τ ρ) (n : Nat) : WorkerPool τ ρ :=
  { p with workers := p.workers.filter (·.number ≠ n), threads := p.threads - 1 }

/-- Whether an idle worker may exit after its time without work: nothing is queued, and there are
more workers than the core size. -/
def mayRetire (p : WorkerPool τ ρ) : Bool :=
  p.queue.isEmpty && p.config.coreSize < p.threads && !p.isShutDown

/-- Whether an idle worker has to exit: the pool is shut down and nothing is queued. -/
def mustLeave (p : WorkerPool τ ρ) : Bool := p.queue.isEmpty && p.isShutDown

/-- Stops taking tasks. The caller waits for the workers nobody else waits for. -/
def shutdown (p : WorkerPool τ ρ) : List Nat × WorkerPool τ ρ :=
  (p.unawaited, { p with isShutDown := true, unawaited := [] })

/-- Drops the queued jobs, which count as discarded: how many they were. -/
def discardQueue (p : WorkerPool τ ρ) : Nat × WorkerPool τ ρ :=
  let n := p.queue.length
  (n, { p with queue := [], discarded := p.discarded + n, isShutDown := true }.settleDropped p.queue)

/-- Gives the pool up: the jobs that no worker ever picked are dropped. -/
def abandon (p : WorkerPool τ ρ) : WorkerPool τ ρ :=
  { p with queue := [] }.settleDropped p.queue

def describe (p : WorkerPool τ ρ) : String :=
  let s := p.stats
  let field (name : String) (n : Nat) : String := name ++ ": " ++ Text.natural n
  "BoundedWorkerPool \x7b name: " ++ Text.quoted p.config.name ++ ", stats: PoolStats \x7b " ++
    ", ".intercalate [field "submitted" s.submitted, field "completed" s.completed,
      field "discarded" s.discarded, field "rejected" s.rejected, field "panicked" s.panicked,
      field "active" s.active, field "pool_size" s.poolSize,
      field "largest_pool_size" s.largestPoolSize, field "queued" s.queued] ++ " \x7d \x7d"

end WorkerPool

end KeyedDelivery
