import KeyedDelivery.Consumer.Run
import KeyedDelivery.Rehearsal.Hooks

/-!
# Consumers with scripted hooks

A consumer, the world its hooks and its transport live in, and the deliveries its listening thread
has still to offer. `settle` lets the threads move until none can; a gate may keep deliveries from
being processed, so that one can look at them (`Held`).

* The listening thread moves first: it runs the delivery the pool gave back to it, or offers the
  next one.
* Then the workers move, in the order in which they were started.
* Then an idle worker takes a queued delivery, or leaves a pool that was shut down.
-/

namespace KeyedDelivery.Rehearsal

/-- The world of a consumer: what its transport needs, its script, and what was given up. -/
structure ConsumerWorld (τ : Type) where
  link : τ
  script : Script := {}
  deadLetters : List DeadLetter := []

/-- A consumer at work in its world. -/
structure ConsumerStage (τ : Type) where
  form : HandlerForm
  run : ConsumerRun (ConsumerWorld τ)
  world : ConsumerWorld τ
  /-- The deliveries the listening thread has still to offer. -/
  incoming : List Delivery := []

/-- What is seen while deliveries stand before a closed gate. -/
structure Held where
  /-- How many deliveries stand at the gate. -/
  inside : Nat
  inFlight : Nat
  active : Nat
  queued : Nat
  poolSize : Nat
  deriving DecidableEq, Repr

namespace ConsumerWorld

variable {τ : Type}

def keep (d : DeadLetter) (w : ConsumerWorld τ) : Outcome Unit × ConsumerWorld τ :=
  (.returned (), { w with deadLetters := w.deadLetters ++ [d] })

end ConsumerWorld

namespace ConsumerStage

variable {τ : Type}

/-- A consumer that has not been started. Its pool has to be valid, then its own settings. -/
def create (c : ConsumerConfig) (pool : PoolConfig) (form : HandlerForm) (keepDead : Bool)
    (transport : ConsumerTransport (ConsumerWorld τ)) (world : ConsumerWorld τ) :
    Except ConfigError (ConsumerStage τ) := do
  let pool ← WorkerPool.ofConfig pool
  let consumer : Consumer (ConsumerWorld τ) :=
    { config := c
      transport
      handler := form.handler (·.script) fun script w => { w with script }
      sink := if keepDead then some ConsumerWorld.keep else none }
  return { form, run := ← ConsumerRun.create consumer pool, world }

/-- Whether the gate keeps a job where it is. -/
def isHeld (s : ConsumerStage τ) (j : Job Delivery) : Bool :=
  s.run.stages.find? j.number == some (.asking .process) && s.form.reaches j.task.message.bodyText

/-- The stage after one move, if there was one. -/
def moved (s : ConsumerStage τ) :
    Bool × ConsumerRun (ConsumerWorld τ) × ConsumerWorld τ → Option (ConsumerStage τ)
  | (false, _, _) => none
  | (true, run, world) => some { s with run, world }

/-- The listening thread moves, if it can. -/
def listenerMoves? (gated : Bool) (s : ConsumerStage τ) : Option (ConsumerStage τ) :=
  match s.run.pool.onCaller, s.incoming with
  | j :: _, _ =>
    if gated && s.isHeld j then none else s.moved (s.run.advanceCaller j.number s.world)
  | [], d :: incoming => some { s with run := (s.run.receive d).2, incoming }
  | [], [] => none

/-- A worker with a job moves, if it can. -/
def workerMoves? (gated : Bool) (s : ConsumerStage τ) (w : Worker Delivery) :
    Option (ConsumerStage τ) :=
  match w.running with
  | none => none
  | some (j, _) =>
    if gated && s.isHeld j then none else s.moved (s.run.advanceWorker w.number s.world)

/-- An idle worker moves, if there is one that can. -/
def idleMoves? (s : ConsumerStage τ) : Option (ConsumerStage τ) :=
  match s.run.pool.workers.find? (·.isIdle) with
  | none => none
  | some w =>
    if !s.run.pool.queue.isEmpty then some { s with run := s.run.pick w.number }
    else if s.run.pool.mustLeave then
      some { s with run := { s.run with pool := s.run.pool.leave w.number } }
    else none

/-- One move, if there is one. -/
def advance? (gated : Bool) (s : ConsumerStage τ) : Option (ConsumerStage τ) :=
  s.listenerMoves? gated <|> s.run.pool.workers.findSome? (s.workerMoves? gated) <|> s.idleMoves?

def advance (gated : Bool) : Nat → ConsumerStage τ → ConsumerStage τ
  | 0, s => s
  | n + 1, s =>
    match s.advance? gated with
    | none => s
    | some s => advance gated n s

/-- Moves until nothing can. A delivery is offered, taken, goes through seven stages, and its worker
may leave. -/
def settle (gated : Bool) (s : ConsumerStage τ) : ConsumerStage τ :=
  let p := s.run.pool
  s.advance gated
    (10 * (s.incoming.length + p.queue.length + p.onCaller.length + p.workers.length))

/-- What is seen of the deliveries before a closed gate. -/
def held (s : ConsumerStage τ) : Held where
  inside := (s.run.pool.onCaller ++ s.run.pool.workers.filterMap (·.running.map (·.1))).countP s.isHeld
  inFlight := s.run.inFlight
  active := s.run.pool.active
  queued := s.run.pool.queue.length
  poolSize := s.run.pool.threads

/-- Hands a batch to the listening thread. With a gate, what is seen before it opens is told. -/
def deliver (s : ConsumerStage τ) (batch : List Delivery) (gated : Bool) :
    Option Held × ConsumerStage τ :=
  let s := { s with incoming := s.incoming ++ batch }
  if gated then
    let s := s.settle true
    (some s.held, s.settle false)
  else (none, s.settle false)

def start (s : ConsumerStage τ) : Except ConsumerError Unit × ConsumerStage τ :=
  let (answer, run, world) := s.run.start s.world
  (answer, { s with run, world })

def shutdown (s : ConsumerStage τ) : ConsumerStage τ :=
  let (run, world) := s.run.shutdown s.world
  { s with run, world }.settle false

/-- Shuts only the pool down. -/
def shutdownPool (s : ConsumerStage τ) : ConsumerStage τ :=
  { s with run := { s.run with pool := s.run.pool.shutdown.2 } }.settle false

end ConsumerStage

end KeyedDelivery.Rehearsal
