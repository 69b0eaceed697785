import KeyedDelivery.Pool.Event
import KeyedDelivery.Producer.Async

/-!
# Runs of a producer with a pool

Sends are asked for one after the other, and the workers of the pool make them in between, in any
order in which each step is possible when it happens. Between the steps anything may happen to the
world; what is done to the log contexts of the threads is left out, as no send looks at them.

A producer that sends at once (`Producer.run`) is asked for sends, and between them anything may
happen to the world as well.
-/

namespace KeyedDelivery

/-- What a producer is asked to send. -/
structure SendRequest where
  topic : String
  tag : String
  key : String
  body : List UInt8
  delay : DelayLevel
  deriving DecidableEq, Repr

/-- The message of a request, if it is valid. -/
def SendRequest.message? (a : SendRequest) : Option Message :=
  (Producer.createMessage a.topic a.tag a.key a.body a.delay).toOption

namespace Producer

variable {σ η : Type}

/-- What can happen to a producer that sends at once. -/
inductive Event (σ : Type) where
  | send (a : SendRequest)
  | elsewhere (f : σ → σ)

/-- The requests that are made in some events, in order. -/
def requests : List (Event σ) → List SendRequest :=
  List.filterMap fun
    | .send a => some a
    | .elsewhere _ => none

/-- What happens to the world besides, in order. -/
def besides : List (Event σ) → List (σ → σ) :=
  List.filterMap fun
    | .send _ => none
    | .elsewhere f => some f

def step (p : Producer σ η) (s : σ) : Event σ → σ
  | .send a => (p.sendSync a.topic a.tag a.key a.body a.delay s).2
  | .elsewhere f => f s

/-- The world after a list of events. -/
def run (p : Producer σ η) (s : σ) (es : List (Event σ)) : σ := es.foldl p.step s

end Producer

namespace ProducerRun

variable {σ η : Type}

/-- What can happen to a producer with a pool. -/
inductive Event (σ : Type) where
  /-- A send is asked for, from a thread with a log context. -/
  | send (context : LogContext) (a : SendRequest)
  /-- An idle worker takes the oldest send. -/
  | pick (worker : Nat)
  /-- A worker makes the send that it has taken, and is done with it. -/
  | work (worker : Nat)
  /-- An idle worker exits after its time without work. -/
  | retire (worker : Nat)
  | elsewhere (f : σ → σ)

/-- The requests that are made in some events, in order. -/
def requests : List (Event σ) → List SendRequest :=
  List.filterMap fun
    | .send _ a => some a
    | _ => none

/-- What happens to the world besides, in order. -/
def besides : List (Event σ) → List (σ → σ) :=
  List.filterMap fun
    | .elsewhere f => some f
    | _ => none

/-- An event of the pool alone. -/
def poolStep (r : ProducerRun σ η) (e : WorkerPool.Event Message Unit) :
    Option (ProducerRun σ η) :=
  (r.pool.bind (·.step e)).map fun pool => { r with pool := some pool }

/-- A worker makes the send that it has taken. -/
def work (r : ProducerRun σ η) (n : Nat) : Option (ProducerRun σ η) :=
  match r.pool with
  | none => none
  | some pool =>
    (pool.worker? n).bind fun w => w.running.map fun (j, _) =>
      let (outcome, s) := sendTask r.producer j.task w.context r.world
      { r with pool := some (pool.finish n outcome), world := s }

def step (r : ProducerRun σ η) : Event σ → Option (ProducerRun σ η)
  | .send context a => some (r.sendAsync context a.topic a.tag a.key a.body a.delay)
  | .pick n => r.poolStep (.pick n)
  | .work n => r.work n
  | .retire n => r.poolStep (.retire n)
  | .elsewhere f => some { r with world := f r.world }

/-- The state after a list of events, if each is possible when it happens. -/
def run (r : ProducerRun σ η) (es : List (Event σ)) : Option (ProducerRun σ η) :=
  es.foldlM step r

/-- Whether nothing waits for a worker and no worker has anything to do. -/
def isIdle (r : ProducerRun σ η) : Bool := r.pool.all (·.isIdle)

end ProducerRun

end KeyedDelivery
