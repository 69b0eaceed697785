import KeyedDelivery.Pool.Event

/-!
# Handles

A task that is submitted goes into a job together with the sending end of a channel; the submitter
gets the receiving end, which is its handle. When the task ends, the job sends what it left, and ends
as the task did. A job that is dropped before it runs takes its sender with it, and the handle finds
that nothing will come.

A `ReplyPool` is a pool whose tasks are all submitted in this way. A handle is named by the number of
its job. A submitter that runs its task itself has its handle from the moment of the offer.
-/

namespace KeyedDelivery

namespace WorkerPool

variable {τ ρ : Type}

/-- The job that an incident ends, and how it ends. -/
def ending? (p : WorkerPool τ ρ) : Incident τ ρ → Option (Job τ × Outcome ρ)
  | .event (.finish n outcome) => ((p.worker? n).bind (·.running)).map fun r => (r.1, outcome)
  | .event (.finishOnCaller number outcome) =>
    (p.onCaller.find? (·.number == number)).map fun j => (j, outcome)
  | _ => none

/-- What the submitter of a task gets, by the place the task went to. -/
def Placement.answer (number : Nat) : Placement → Except PoolError Nat
  | .refused e => .error e
  | _ => .ok number

/-- What the submitter gets if an incident offers a task. -/
def answer? (p : WorkerPool τ ρ) : Incident τ ρ → Option (Except PoolError Nat)
  | .event (.offer task context) => some ((p.offer task context).1.answer p.submitted)
  | .unstarted _ _ reason => some ((p.offerUnstarted reason).1.answer p.submitted)
  | _ => none

end WorkerPool

/-- A pool with the channels of the tasks that were submitted to it. -/
structure ReplyPool (τ ρ : Type) where
  pool : WorkerPool τ ρ
  /-- What the submitters got, in the order of the submissions. -/
  answers : List (Except PoolError Nat) := []
  /-- What was sent to the handles. -/
  sent : Table Nat (Except TaskError ρ) := []

namespace ReplyPool

open WorkerPool (Incident fateOf)

variable {τ ρ : Type}

/-- The handles of all submissions that were not refused. -/
def handles (s : ReplyPool τ ρ) : List Nat := s.answers.filterMap Except.toOption

def step (s : ReplyPool τ ρ) (i : Incident τ ρ) : Option (ReplyPool τ ρ) :=
  (s.pool.undergo i).map fun pool =>
    { pool
      answers := s.answers ++ (s.pool.answer? i).toList
      sent := (s.pool.ending? i).elim s.sent fun e => s.sent.put e.1.number (fateOf e.2) }

/-- The state after a list of incidents, if each is possible when it happens. -/
def run (s : ReplyPool τ ρ) (is : List (Incident τ ρ)) : Option (ReplyPool τ ρ) := is.foldlM step s

/-- Whether the job of a number still exists, and with it the sender of its channel. -/
def hasSender (s : ReplyPool τ ρ) (k : Nat) : Bool :=
  (s.pool.queue ++ s.pool.running).any (·.number == k)

/-- What a handle finds without waiting, if anything: what was sent, or that the sender is gone. -/
def join? (s : ReplyPool τ ρ) (k : Nat) : Option (Except TaskError ρ) :=
  match s.sent.find? k with
  | some fate => some fate
  | none => if s.hasSender k then none else some (.error .discarded)

end ReplyPool

end KeyedDelivery
