import KeyedDelivery.Consumer.Stage
import KeyedDelivery.Pool.Basic

/-!
# Consumers at work

A consumer with its pool. Its listener offers every delivery of a batch to the pool and accepts the
batch; what the pool refuses is counted and lost. Workers take deliveries through their stages one
at a time, in any order.
-/

namespace KeyedDelivery

/-- A consumer with its state, its figures, its pool, and the stages of the deliveries that were
begun, by the numbers of their jobs. -/
structure ConsumerRun (σ : Type) where
  consumer : Consumer σ
  pool : WorkerPool Delivery Unit
  state : ConsumerState := .stopped
  desk : Desk
  stages : Table Nat Stage := []

namespace ConsumerRun

variable {σ : Type}

/-- A consumer that has not been started. -/
def create (c : Consumer σ) (pool : WorkerPool Delivery Unit) :
    Except ConfigError (ConsumerRun σ) := do
  c.config.validate
  return { consumer := c, pool, desk := { permits := .full c.config.maxConcurrent } }

/-- Subscribes and starts. A consumer that could not be started stays terminated. -/
def start (r : ConsumerRun σ) (s : σ) : Except ConsumerError Unit × ConsumerRun σ × σ :=
  if r.state ≠ .stopped then (.error (.invalidState r.state), r, s)
  else
    let c := r.consumer
    match c.transport.subscribe c.config.topic c.config.tagFilter s with
    | (.error e, s) =>
      (.error (.subscribe c.config.topic e), { r with state := .terminated }, s)
    | (.ok _, s) =>
      match c.transport.start (c.transport.listen s) with
      | (.error e, s) => (.error (.start e), { r with state := .terminated }, s)
      | (.ok _, s) => (.ok (), { r with state := .running }, s)

/-- Stops the subscription and has the pool finish what it has taken. A consumer that is terminated
is left as it is. -/
def shutdown (r : ConsumerRun σ) (s : σ) : ConsumerRun σ × σ :=
  if r.state = .terminated then (r, s)
  else
    ({ r with state := .terminated, pool := r.pool.shutdown.2 }, r.consumer.transport.shutdown s)

/-- Stops the subscription, which is the first part of a shutdown. -/
def stop (r : ConsumerRun σ) (s : σ) : ConsumerRun σ × σ :=
  if r.state = .terminated then (r, s)
  else ({ r with state := .terminated }, r.consumer.transport.shutdown s)

/-- How many deliveries hold a permit. -/
def inFlight (r : ConsumerRun σ) : Nat := r.desk.permits.inUse

/-! ### Receiving -/

def count (r : ConsumerRun σ) (f : ConsumerStats → ConsumerStats) : ConsumerRun σ :=
  { r with desk := { r.desk with stats := f r.desk.stats } }

def begin (r : ConsumerRun σ) (number : Nat) : ConsumerRun σ :=
  { r with stages := r.stages.put number .waiting }

/-- Offers one delivery to the pool: the number of its job, when the listening thread has to run
it. -/
def receive (r : ConsumerRun σ) (d : Delivery) : Option Nat × ConsumerRun σ :=
  let number := r.pool.submitted
  let r := r.count fun s => { s with received := s.received + 1 }
  match r.pool.offer d .empty with
  | (.refused _, pool) =>
    (none, { r with pool }.count fun s => { s with dropped := s.dropped + 1 })
  | (.started _, pool) => (none, { r with pool }.begin number)
  | (.toCaller n, pool) => (some n, { r with pool }.begin n)
  | (_, pool) => (none, { r with pool })

/-- Offers one delivery to the pool, which cannot start the worker that should run it. -/
def receiveUnstarted (r : ConsumerRun σ) (reason : String) : ConsumerRun σ :=
  { r with pool := (r.pool.offerUnstarted reason).2 }.count fun s =>
    { s with received := s.received + 1, dropped := s.dropped + 1 }

/-! ### Working -/

def stageOf (r : ConsumerRun σ) (j : Job Delivery) : Stage :=
  (r.stages.find? j.number).getD .waiting

/-- The deliveries that run, on workers and on the listening thread, each with its stage. -/
def handling (r : ConsumerRun σ) : List (Delivery × Stage) :=
  r.pool.running.map fun j => (j.task, r.stageOf j)

/-- The idle worker of a number takes the oldest queued delivery. -/
def pick (r : ConsumerRun σ) (worker : Nat) : ConsumerRun σ :=
  match r.pool.queue with
  | [] => r
  | j :: _ => { r with pool := r.pool.pick worker }.begin j.number

/-- Takes the delivery of a job through its next stage; `finish` tells the pool when it has
ended. Says whether it moved. -/
def advanceJob (r : ConsumerRun σ) (j : Job Delivery)
    (finish : WorkerPool Delivery Unit → Outcome Unit → WorkerPool Delivery Unit) (s : σ) :
    Bool × ConsumerRun σ × σ :=
  match r.stages.find? j.number with
  | none => (false, r, s)
  | some stage =>
    match r.consumer.advance j.task stage r.desk s with
    | (.blocked, _, s) => (false, r, s)
    | (.at stage, desk, s) => (true, { r with desk, stages := r.stages.put j.number stage }, s)
    | (.ended outcome, desk, s) =>
      (true, { r with desk, stages := r.stages.erase j.number, pool := finish r.pool outcome }, s)

/-- Takes the delivery of a worker through its next stage. -/
def advanceWorker (r : ConsumerRun σ) (worker : Nat) (s : σ) : Bool × ConsumerRun σ × σ :=
  match (r.pool.worker? worker).bind (·.running) with
  | none => (false, r, s)
  | some (j, _) => r.advanceJob j (·.finish worker) s

/-- Takes the delivery of a job on the listening thread through its next stage. -/
def advanceCaller (r : ConsumerRun σ) (number : Nat) (s : σ) : Bool × ConsumerRun σ × σ :=
  match r.pool.onCaller.find? (·.number == number) with
  | none => (false, r, s)
  | some j => r.advanceJob j (·.finishOnCaller number) s

end ConsumerRun

end KeyedDelivery
