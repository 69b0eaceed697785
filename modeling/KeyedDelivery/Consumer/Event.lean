import KeyedDelivery.Broker.Event
import KeyedDelivery.Consumer.Run
import KeyedDelivery.Pool.Event

/-!
# Runs of a consumer

A consumer is at work in a world, which its transport, its hooks and its sink act on. Everything that
happens to the two is one of these events, in any order in which each is possible when it happens.
Its listener offers deliveries one at a time, workers take deliveries through one stage at a time,
and the consumer or its pool may be shut down at any point in between.

* `Workplace` — a consumer and its world.
* `Reaction` — what a consumer does about a delivery that failed.
* `Report` — what is known of a delivery from outside: how a hook answered, and what was done about
  the failure.
* `Workplace.Reachable` — the states that a list of events leads to from a consumer that was not
  started yet.
-/

namespace KeyedDelivery

/-! ### What is seen of a delivery -/

/-- What is done about a delivery that failed. -/
inductive Reaction where
  /-- It was asked for again. -/
  | requested (level : DelayLevel)
  /-- The transport refused to deliver it again. -/
  | refused
  /-- It was given up; the letter is what the sink got, if there is one. -/
  | gaveUp (letter : Option DeadLetter)
  deriving DecidableEq, Repr

namespace Reaction

def isRequested : Reaction → Bool
  | .requested _ => true
  | _ => false

def isRefused : Reaction → Bool
  | .refused => true
  | _ => false

def isGaveUp : Reaction → Bool
  | .gaveUp _ => true
  | _ => false

end Reaction

/-- Something that is seen of a delivery. -/
inductive Report where
  | answered (d : Delivery) (h : Hook) (answer : HookAnswer)
  | reacted (d : Delivery) (r : Reaction)

/-- Whether the answer of a hook makes a delivery fail: the hook failed or panicked, or processing said
no. -/
def Hook.fails (h : Hook) : HookAnswer → Bool
  | .panicked _ => true
  | .returned (.error _) => true
  | .returned (.ok answer) => h == .process && !answer

namespace Report

/-- The delivery that a report is about. -/
def delivery : Report → Delivery
  | .answered d _ _ => d
  | .reacted d _ => d

/-- Whether a report is that a delivery fails. -/
def isFailure : Report → Bool
  | .answered _ h answer => h.fails answer
  | .reacted .. => false

/-- The reaction that a report is, if it is one. -/
def reaction? : Report → Option Reaction
  | .answered .. => none
  | .reacted _ r => some r

/-- The reactions among some reports, in their order. -/
def reactions (reports : List Report) : List Reaction := reports.filterMap (·.reaction?)

/-- The reports about one delivery. -/
def on (d : Delivery) (reports : List Report) : List Report := reports.filter (·.delivery = d)

/-- Whether a delivery failed by some reports. -/
def failed (d : Delivery) (reports : List Report) : Bool := (on d reports).any (·.isFailure)

/-- What was done about the failure of a delivery by some reports. -/
def reactionsTo (d : Delivery) (reports : List Report) : List Reaction := reactions (on d reports)

end Report

namespace Consumer

variable {σ : Type}

/-- What the consumer does about a delivery that failed. -/
def reaction (c : Consumer σ) (d : Delivery) (reason : String) (s : σ) : Reaction :=
  match c.retry.decide d.reconsumed with
  | .giveUp => .gaveUp (c.sink.map fun _ => .ofDelivery d reason)
  | .redeliver level =>
    match (c.transport.reconsumeLater d level s).1 with
    | .error _ => .refused
    | .ok _ => .requested level

/-- What is seen of a delivery when it is taken through a stage. -/
def reports (c : Consumer σ) (d : Delivery) (stage : Stage) (s : σ) : List Report :=
  match stage with
  | .asking h => [.answered d h (c.handler.ask h d.message.bodyText s).1]
  | .failing reason => [.reacted d (c.reaction d reason s)]
  | _ => []

end Consumer

/-- A consumer and the world it is in. -/
structure Workplace (σ : Type) where
  run : ConsumerRun σ
  world : σ

namespace Workplace

variable {σ : Type}

/-- What can happen to a consumer. -/
inductive Event (σ : Type) where
  | start
  /-- The listener offers a delivery to the pool. -/
  | receive (d : Delivery)
  /-- The listener offers a delivery to the pool, and the system has no thread for the worker that
  should run it. -/
  | receiveUnstarted (d : Delivery) (reason : String)
  | pick (worker : Nat)
  /-- The delivery of a worker goes through its next stage. -/
  | work (worker : Nat)
  /-- A delivery on the listening thread goes through its next stage. -/
  | workOnCaller (number : Nat)
  | retire (worker : Nat)
  | leave (worker : Nat)
  /-- The first part of a shutdown; `shutdownPool` is the second. -/
  | stop
  | shutdownPool
  | discardQueue
  /-- Something else happens in the world. -/
  | elsewhere (f : σ → σ)

def allows (x : Workplace σ) : Event σ → Bool
  | .receiveUnstarted .. => x.run.pool.startsNext
  | .pick n => x.run.pool.allows (.pick n)
  | .work n => (x.run.advanceWorker n x.world).1
  | .workOnCaller n => (x.run.advanceCaller n x.world).1
  | .retire n => x.run.pool.allows (.retire n)
  | .leave n => x.run.pool.allows (.leave n)
  | _ => true

def withPool (x : Workplace σ) (pool : WorkerPool Delivery Unit) : Workplace σ :=
  { x with run := { x.run with pool } }

def apply (x : Workplace σ) : Event σ → Workplace σ
  | .start => ⟨(x.run.start x.world).2.1, (x.run.start x.world).2.2⟩
  | .receive d => { x with run := (x.run.receive d).2 }
  | .receiveUnstarted _ reason => { x with run := x.run.receiveUnstarted reason }
  | .pick n => { x with run := x.run.pick n }
  | .work n => ⟨(x.run.advanceWorker n x.world).2.1, (x.run.advanceWorker n x.world).2.2⟩
  | .workOnCaller n => ⟨(x.run.advanceCaller n x.world).2.1, (x.run.advanceCaller n x.world).2.2⟩
  | .retire n => x.withPool (x.run.pool.leave n)
  | .leave n => x.withPool (x.run.pool.leave n)
  | .stop => ⟨(x.run.stop x.world).1, (x.run.stop x.world).2⟩
  | .shutdownPool => x.withPool x.run.pool.shutdown.2
  | .discardQueue => x.withPool x.run.pool.discardQueue.2
  | .elsewhere f => { x with world := f x.world }

def step (x : Workplace σ) (e : Event σ) : Option (Workplace σ) :=
  if x.allows e then some (x.apply e) else none

/-- The state after a list of events, if each is possible when it happens. -/
def after (x : Workplace σ) (es : List (Event σ)) : Option (Workplace σ) := es.foldlM step x

/-- The job that takes its next stage in an event, if one does. -/
def jobOf (x : Workplace σ) : Event σ → Option (Job Delivery)
  | .work n => ((x.run.pool.worker? n).bind (·.running)).map (·.1)
  | .workOnCaller n => x.run.pool.onCaller.find? (·.number == n)
  | _ => none

/-- What is seen of deliveries in an event. -/
def reports (x : Workplace σ) (e : Event σ) : List Report :=
  match x.jobOf e with
  | none => []
  | some j => x.run.consumer.reports j.task (x.run.stageOf j) x.world

/-- The states that a consumer with a pool of the given settings can reach, in any world. -/
inductive Reachable (c : Consumer σ) (p : PoolConfig) : Workplace σ → Prop where
  | start {pool : WorkerPool Delivery Unit} {run : ConsumerRun σ} (world : σ)
      (hpool : WorkerPool.ofConfig p = .ok pool) (hrun : ConsumerRun.create c pool = .ok run) :
      Reachable c p { run, world }
  | step {x y : Workplace σ} {e : Event σ} (reached : Reachable c p x)
      (next : x.step e = some y) : Reachable c p y

end Workplace

end KeyedDelivery
