import KeyedDelivery.Pool.Serve
import KeyedDelivery.Producer.Dispatch

/-!
# Producers at work

A producer that has been started, with the pool that its asynchronous sends go through, if it has
one; without a pool they are made at once. The outcome of an asynchronous send is nobody's concern.
A shutdown stops the transport first and then the pool.
-/

namespace KeyedDelivery

/-- A started producer in its world. -/
structure ProducerRun (σ η : Type) where
  producer : Producer σ η
  pool : Option (WorkerPool Message Unit)
  isShutDown : Bool
  world : σ

namespace ProducerRun

variable {σ η : Type}

def start (p : Producer σ η) (pool : Option (WorkerPool Message Unit)) (s : σ) :
    Except ProducerError (ProducerRun σ η) :=
  match p.config.validate with
  | .error e => .error (.config e)
  | .ok _ =>
    match p.transport.start s with
    | (.error e, _) => .error (.start e)
    | (.ok _, s) => .ok ⟨p, pool, false, s⟩

/-- What a worker does with a message. -/
def sendTask (p : Producer σ η) : WorkerPool.Runner Message Unit σ := fun m _ s =>
  let (outcome, s) := p.dispatch m s
  (outcome.asTask, s)

/-- Sends a message and waits for the outcome. -/
def sendMessage (r : ProducerRun σ η) (m : Message) : SendOutcome × ProducerRun σ η :=
  let (outcome, s) := r.producer.dispatch m r.world
  (outcome, { r with world := s })

/-- Sends a message some time later, from a thread with the log context `context`. A message that
the pool refuses is not sent. -/
def sendMessageAsync (r : ProducerRun σ η) (context : LogContext) (m : Message) :
    ProducerRun σ η :=
  match r.pool with
  | none => (r.sendMessage m).2
  | some pool =>
    match pool.offer m context with
    | (.toCaller n, pool) =>
      let (outcome, r) := r.sendMessage m
      { r with pool := some (pool.finishOnCaller n outcome.asTask) }
    | (_, pool) => { r with pool := some pool }

/-- Lets the workers of the pool send until there is nothing left for them. -/
def rest (r : ProducerRun σ η) : ProducerRun σ η :=
  match r.pool with
  | none => r
  | some pool =>
    let (pool, s) := pool.serve (sendTask r.producer) r.world
    { r with pool := some pool, world := s }

/-- Builds a message and sends it. An invalid one fails. -/
def sendSync (r : ProducerRun σ η) (topic tag key : String) (body : List UInt8)
    (delay : DelayLevel) : SendOutcome × ProducerRun σ η :=
  let (outcome, s) := r.producer.sendSync topic tag key body delay r.world
  (outcome, { r with world := s })

/-- Builds a message and sends it some time later. An invalid one is dropped. -/
def sendAsync (r : ProducerRun σ η) (context : LogContext) (topic tag key : String)
    (body : List UInt8) (delay : DelayLevel) : ProducerRun σ η :=
  match Producer.createMessage topic tag key body delay with
  | .error _ => r
  | .ok m => r.sendMessageAsync context m

def bindSync (r : ProducerRun σ η) (b : PackageBind) : SendOutcome × ProducerRun σ η :=
  let (outcome, s) := r.producer.sendBind b r.world
  (outcome, { r with world := s })

/-- Sends a package binding some time later. -/
def bindAsync (r : ProducerRun σ η) (context : LogContext) (b : PackageBind) :
    ProducerRun σ η :=
  let c := r.producer.config
  r.sendAsync context c.topic c.tag b.partitionKey b.toBytes .immediate

/-- Stops the transport, then the pool, whose queued sends are still made. Only the first call does
anything. -/
def shutdown (r : ProducerRun σ η) : ProducerRun σ η :=
  if r.isShutDown then r
  else
    let stopped := r.pool.map fun (pool : WorkerPool Message Unit) => pool.shutdown.2
    { r with
      isShutDown := true, world := r.producer.transport.shutdown r.world, pool := stopped }.rest

end ProducerRun

end KeyedDelivery
