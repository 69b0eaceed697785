import KeyedDelivery.Pool.Basic

/-!
# Runs of a pool

Everything that happens to a pool is one of these events, in any order in which each is possible
when it happens. A state is reachable when a list of events leads to it from a pool without workers.
An incident is an event, or that the system has no thread for a worker the pool wants to start.
-/

namespace KeyedDelivery.WorkerPool

variable {τ ρ : Type}

/-- What can happen to a pool. -/
inductive Event (τ ρ : Type) where
  | offer (task : τ) (context : LogContext)
  | pick (worker : Nat)
  | finish (worker : Nat) (outcome : Outcome ρ)
  | finishOnCaller (number : Nat) (outcome : Outcome ρ)
  | updateContext (worker : Nat) (f : LogContext → LogContext)
  | retire (worker : Nat)
  | leave (worker : Nat)
  | shutdown
  | discardQueue

/-- Whether the worker of a number exists and is idle. -/
def hasIdle (p : WorkerPool τ ρ) (n : Nat) : Bool := (p.worker? n).any (·.isIdle)

/-- Whether the worker of a number exists and runs a job. -/
def hasBusy (p : WorkerPool τ ρ) (n : Nat) : Bool := (p.worker? n).any (! ·.isIdle)

def allows (p : WorkerPool τ ρ) : Event τ ρ → Bool
  | .offer .. => true
  | .pick n => p.hasIdle n && !p.queue.isEmpty
  | .finish n _ => p.hasBusy n
  | .finishOnCaller number _ => p.onCaller.any (·.number == number)
  | .updateContext n _ => p.hasBusy n
  | .retire n => p.hasIdle n && p.mayRetire
  | .leave n => p.hasIdle n && p.mustLeave
  | .shutdown => true
  | .discardQueue => true

def apply (p : WorkerPool τ ρ) : Event τ ρ → WorkerPool τ ρ
  | .offer task context => (p.offer task context).2
  | .pick n => p.pick n
  | .finish n outcome => p.finish n outcome
  | .finishOnCaller number outcome => p.finishOnCaller number outcome
  | .updateContext n f => p.updateContext n f
  | .retire n => p.leave n
  | .leave n => p.leave n
  | .shutdown => p.shutdown.2
  | .discardQueue => p.discardQueue.2

def step (p : WorkerPool τ ρ) (e : Event τ ρ) : Option (WorkerPool τ ρ) :=
  if p.allows e then some (p.apply e) else none

/-- The state after a list of events, if each is possible when it happens. -/
def run (p : WorkerPool τ ρ) (es : List (Event τ ρ)) : Option (WorkerPool τ ρ) :=
  es.foldlM step p

/-- The states a pool of the given settings can reach. -/
inductive Reachable (c : PoolConfig) : WorkerPool τ ρ → Prop where
  | start : Reachable c { config := c }
  | step {p q : WorkerPool τ ρ} {e : Event τ ρ} (reached : Reachable c p) (next : p.step e = some q) :
      Reachable c q

/-! ### Threads that cannot be started -/

/-- What can happen to a pool whose system may be out of threads. -/
inductive Incident (τ ρ : Type) where
  | event (e : Event τ ρ)
  /-- A task is offered that a new worker is to be started with, and there is no thread for it. -/
  | unstarted (task : τ) (context : LogContext) (reason : String)

/-- The task an incident offers, with the log context of its submitter. -/
def Incident.submission? : Incident τ ρ → Option (τ × LogContext)
  | .event (.offer task context) => some (task, context)
  | .unstarted task context _ => some (task, context)
  | _ => none

def undergo (p : WorkerPool τ ρ) : Incident τ ρ → Option (WorkerPool τ ρ)
  | .event e => p.step e
  | .unstarted _ _ reason => if p.startsNext then some (p.offerUnstarted reason).2 else none

/-- The state after a list of incidents, if each is possible when it happens. -/
def undergoAll (p : WorkerPool τ ρ) (is : List (Incident τ ρ)) : Option (WorkerPool τ ρ) :=
  is.foldlM undergo p

end KeyedDelivery.WorkerPool
