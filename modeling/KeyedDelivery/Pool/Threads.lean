import KeyedDelivery.Pool.Event

/-!
# The log contexts of threads

The tasks of a pool come from threads and run on threads: on the workers of the pool, or on the
thread that submits them. This module follows the log context of each thread. The code on a thread
changes the context and opens and gives up scopes as it likes; a submission takes a copy of it along,
which is installed on the thread that runs the task for as long as the task runs.

A thread that has to run its own task does so on top of the code that submitted it, and such tasks
nest: `Frame` holds what the code below had.
-/

namespace KeyedDelivery

/-- A thread: a worker of the pool, or any other. -/
inductive ThreadId where
  | worker (number : Nat)
  | outside (number : Nat)
  deriving DecidableEq, Repr

/-- A task that a thread runs for itself: its number, and what the code below had, its context and
the scopes it had open. -/
structure Frame where
  number : Nat
  guard : LogContext.Guard
  scopes : List (String × LogContext.Guard)
  deriving DecidableEq, Repr

/-- What a thread has: its context with the scopes of the code on top, and the tasks it runs for
itself, the last one first. -/
structure Strand where
  thread : LogContext.Thread := {}
  frames : List Frame := []
  deriving DecidableEq, Repr

namespace Strand

/-- What the code on top has as its log context. -/
def context (s : Strand) : LogContext := s.thread.current

/-- Begins a task on top of the code that runs. -/
def beginTask (s : Strand) (number : Nat) (installed : LogContext) : Strand :=
  let (current, guard) := LogContext.enter s.context installed
  { thread := { current }, frames := ⟨number, guard, s.thread.guards⟩ :: s.frames }

/-- Gives up the scopes of the code on top, as when it returns or panics. -/
def closeScopes (s : Strand) : Strand := { s with thread := s.thread.close }

/-- Ends the task on top, and leaves the thread to the code below. -/
def endTask (s : Strand) : Strand :=
  match s.frames with
  | [] => s
  | f :: rest => { thread := { current := f.guard.leave, guards := f.scopes }, frames := rest }

end Strand

/-- What code does to the log context of its thread. -/
inductive ContextAct where
  | update (f : LogContext → LogContext)
  | openScope (name : String) (c : LogContext)
  | dropScope (name : String)

def ContextAct.perform (t : LogContext.Thread) : ContextAct → Option LogContext.Thread
  | .update f => some (t.update f)
  | .openScope name c => some (t.openScope name c)
  | .dropScope name => t.dropScope? name

/-- A pool and all threads. The contexts of the workers are in the pool. -/
structure ThreadedPool (τ ρ : Type) where
  pool : WorkerPool τ ρ
  /-- The threads that are no workers. -/
  outside : Table Nat Strand := []
  /-- The scopes that are open on the workers, and the tasks they run for themselves. -/
  inside : Table Nat (List (String × LogContext.Guard) × List Frame) := []

namespace ThreadedPool

variable {τ ρ : Type}

/-- The log context of a worker. -/
def workerContext (p : WorkerPool τ ρ) (n : Nat) : LogContext :=
  ((p.worker? n).map (·.context)).getD {}

def strand (x : ThreadedPool τ ρ) : ThreadId → Strand
  | .outside n => (x.outside.find? n).getD {}
  | .worker n =>
    let (guards, frames) := (x.inside.find? n).getD ([], [])
    { thread := { current := workerContext x.pool n, guards }, frames }

def setStrand (x : ThreadedPool τ ρ) (t : ThreadId) (s : Strand) : ThreadedPool τ ρ :=
  match t with
  | .outside n => { x with outside := x.outside.put n s }
  | .worker n =>
    { x with
      pool := x.pool.updateContext n fun _ => s.context
      inside := x.inside.put n (s.thread.guards, s.frames) }

/-- Whether there is code that runs on a thread: a worker runs some while it has a task. -/
def acts (x : ThreadedPool τ ρ) : ThreadId → Bool
  | .outside _ => true
  | .worker n => x.pool.hasBusy n

/-! ### Events -/

/-- What can happen to a pool and its threads. -/
inductive Event (τ ρ : Type) where
  /-- The code on a thread changes its log context. -/
  | act (t : ThreadId) (a : ContextAct)
  /-- The code on a thread submits a task. -/
  | submit (t : ThreadId) (task : τ)
  /-- It submits one that a new worker is to be started with, and there is no thread for it. -/
  | submitUnstarted (t : ThreadId) (task : τ) (reason : String)
  /-- The task on top of a thread ends. -/
  | finish (t : ThreadId) (outcome : Outcome ρ)
  /-- An event of the pool that is no matter of the code on a thread. -/
  | move (e : WorkerPool.Event τ ρ)

/-- Whether an event of the pool is no matter of the code on a thread. -/
def isMove : WorkerPool.Event τ ρ → Bool
  | .pick _ | .retire _ | .leave _ | .shutdown | .discardQueue => true
  | _ => false

/-- What a task that is submitted from a thread leads to, with the place it goes to. -/
def offered (x : ThreadedPool τ ρ) (t : ThreadId) (task : τ) :
    WorkerPool.Placement × WorkerPool τ ρ :=
  x.pool.offer task (x.strand t).context

/-- The code on a thread submits a task, which takes a copy of the context along. -/
def submit (x : ThreadedPool τ ρ) (t : ThreadId) (task : τ) : ThreadedPool τ ρ :=
  let y := { x with pool := (x.offered t task).2 }
  match (x.offered t task).1 with
  | .toCaller number => y.setStrand t ((x.strand t).beginTask number (x.strand t).context)
  | _ => y

/-- The task on top of a thread ends: one that the thread runs for itself, or else the job of the
worker. -/
def finish (x : ThreadedPool τ ρ) (t : ThreadId) (outcome : Outcome ρ) :
    Option (ThreadedPool τ ρ) :=
  match (x.strand t).frames, t with
  | f :: _, t =>
    let y := x.setStrand t (x.strand t).closeScopes.endTask
    some { y with pool := y.pool.finishOnCaller f.number outcome }
  | [], .worker n =>
    let y := x.setStrand (.worker n) (x.strand (.worker n)).closeScopes
    some { y with pool := y.pool.finish n outcome }
  | [], .outside _ => none

def step (x : ThreadedPool τ ρ) : Event τ ρ → Option (ThreadedPool τ ρ)
  | .act t a =>
    if x.acts t then
      (a.perform (x.strand t).thread).map fun thread =>
        x.setStrand t { x.strand t with thread }
    else none
  | .submit t task => if x.acts t then some (x.submit t task) else none
  | .submitUnstarted t _ reason =>
    if x.acts t && x.pool.startsNext then
      some { x with pool := (x.pool.offerUnstarted reason).2 }
    else none
  | .finish t outcome => if x.acts t then x.finish t outcome else none
  | .move e => if isMove e then (x.pool.step e).map fun pool => { x with pool } else none

/-- The state after a list of events, if each is possible when it happens. -/
def run (x : ThreadedPool τ ρ) (es : List (Event τ ρ)) : Option (ThreadedPool τ ρ) :=
  es.foldlM step x

end ThreadedPool

end KeyedDelivery
