import KeyedDelivery.Pool.Basic

/-!
# Serving a pool

When the tasks of a pool run to their end without a pause, all that is left to happen is that a
worker ends its task, that an idle worker takes the next one, and that an idle worker leaves. `serve`
lets these happen until none is possible.
-/

namespace KeyedDelivery.WorkerPool

variable {τ ρ σ : Type}

/-- Runs a task of a worker on the world, with the log context the worker's thread has. -/
abbrev Runner (τ ρ σ : Type) := τ → LogContext → σ → Outcome ρ × σ

/-- One thing that can happen by itself, if there is one. -/
def serveStep (run : Runner τ ρ σ) (p : WorkerPool τ ρ) (s : σ) : Option (WorkerPool τ ρ × σ) :=
  match p.workers.find? (! ·.isIdle) with
  | some w =>
    w.running.map fun (j, _) =>
      let (outcome, s) := run j.task w.context s
      (p.finish w.number outcome, s)
  | none =>
    match p.workers.find? (·.isIdle) with
    | none => none
    | some w =>
      if !p.queue.isEmpty then some (p.pick w.number, s)
      else if p.mustLeave then some (p.leave w.number, s)
      else none

/-- Lets at most so many things happen. -/
def serveSteps (run : Runner τ ρ σ) : Nat → WorkerPool τ ρ → σ → WorkerPool τ ρ × σ
  | 0, p, s => (p, s)
  | n + 1, p, s =>
    match p.serveStep run s with
    | none => (p, s)
    | some (p, s) => serveSteps run n p s

/-- Serves a pool until it is at rest: two events for each task and one for each worker. -/
def serve (run : Runner τ ρ σ) (p : WorkerPool τ ρ) (s : σ) : WorkerPool τ ρ × σ :=
  serveSteps run (2 * (p.queue.length + p.workers.length)) p s

end KeyedDelivery.WorkerPool
