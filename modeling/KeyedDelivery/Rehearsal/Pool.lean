import KeyedDelivery.Pool.Basic

/-!
# Pools with scripted tasks

Tasks that are told what to do, some of which wait at a gate before they do it. After each step the
pool is brought to rest (`settle`): workers whose task may go on end it, idle workers take what is
queued, and surplus workers leave. `began` lists the tasks in the order in which they began.
-/

namespace KeyedDelivery.Rehearsal

/-- What a task does. Values are in `α`. -/
inductive TaskScript (α : Type) where
  | value (a : α)
  | panic (p : PanicPayload)
  /-- Looks an entry of the log context up. -/
  | contextEntry (key : String)
  /-- Shows the log context. -/
  | contextShown
  /-- Sets an entry of the log context and shows it. -/
  | contextSet (key value : String)
  | threadName
  /-- Shuts the pool down from inside. -/
  | shutdown
  /-- Submits a task that notes its label and its log context. -/
  | resubmit (label : String)
  /-- Notes a label and the log context. -/
  | note (label : String)
  deriving Repr

/-- What a task gives. -/
inductive TaskValue (α : Type) where
  | value (a : α)
  | text (s : String)
  | entry (s : Option String)
  | done
  | resubmitted (result : Except PoolError Unit)

/-- A task with its name. A gated one waits at its gate first. -/
structure ScriptedTask (α : Type) where
  id : String
  gated : Bool
  script : TaskScript α
  deriving Repr

/-- Where a task runs. -/
inductive Place where
  | worker (number : Nat)
  | submitter
  deriving DecidableEq, Repr

/-- A pool with scripted tasks and the thread that submits them. -/
structure PoolStage (α : Type) where
  pool : WorkerPool (ScriptedTask α) (TaskValue α)
  /-- The name of the submitting thread. -/
  submitter : String := "main"
  /-- The log context of the submitting thread. -/
  context : LogContext := {}
  /-- The gates of the gated tasks in the order of their submission: the name of the task, and the
  number of its job. -/
  gates : List (String × Nat) := []
  /-- The numbers of the jobs whose gates are open. -/
  opened : List Nat := []
  /-- The names of the tasks that began, in order. -/
  began : List String := []
  /-- The handles of submitted tasks. -/
  handles : Table String Nat := []
  /-- The workers whose tasks wait for other workers to leave. -/
  waiting : Table Nat (List Nat) := []

namespace PoolStage

variable {α : Type}

def note (s : PoolStage α) (name : String) : PoolStage α := { s with began := s.began ++ [name] }

/-- Notes that a task began in some place. A task that makes its own note is not noted here. -/
def noteBegin (s : PoolStage α) (t : ScriptedTask α) (place : Place) : PoolStage α :=
  match t.script, place with
  | .note _, _ => s
  | _, .worker _ => s.note t.id
  | _, .submitter => s.note (t.id ++ "@caller")

/-- The label of a note with the log context. -/
def labelled (label : String) (c : LogContext) : String := label ++ "[" ++ c.display ++ "]"

/-- Offers a task from a thread with the log context `c`. A note that the thread has to run itself
is made at once. -/
def offerNote (s : PoolStage α) (label : String) (c : LogContext) :
    Except PoolError Unit × PoolStage α :=
  match s.pool.offer ⟨label, false, .note label⟩ c with
  | (.refused e, p) => (.error e, { s with pool := p })
  | (.toCaller n, p) =>
    let s := { s with pool := p }.note (labelled label c)
    (.ok (), { s with pool := s.pool.finishOnCaller n (.returned .done) })
  | (_, p) => (.ok (), { s with pool := p })

/-- Does what a script says, on a thread with the log context `c`. What it leaves in the context is
the last part of the result. -/
def perform (s : PoolStage α) (script : TaskScript α) (place : Place) (c : LogContext) :
    Outcome (TaskValue α) × PoolStage α × LogContext :=
  match script with
  | .value a => (.returned (.value a), s, c)
  | .panic p => (.panicked p, s, c)
  | .contextEntry key => (.returned (.entry (c.get? key)), s, c)
  | .contextShown => (.returned (.text c.display), s, c)
  | .contextSet key value =>
    let c := c.insert key value
    (.returned (.text c.display), s, c)
  | .threadName =>
    let name := match place with
      | .worker n => s.pool.threadName n
      | .submitter => s.submitter
    (.returned (.text name), s, c)
  | .shutdown =>
    let (others, p) := s.pool.shutdown
    let s := { s with pool := p }
    match place with
    | .worker n => (.returned .done, { s with waiting := s.waiting.put n (others.filter (· ≠ n)) }, c)
    | .submitter => (.returned .done, s, c)
  | .resubmit label =>
    let (result, s) := s.offerNote label c
    (.returned (.resubmitted result), s, c)
  | .note label => (.returned .done, s.note (labelled label c), c)

/-- Whether the task of a worker may go on to its end. -/
def mayGoOn (s : PoolStage α) (w : Worker (ScriptedTask α)) : Bool :=
  match w.running with
  | none => false
  | some (j, _) =>
    (!j.task.gated || s.opened.contains j.number) && (s.waiting.find? w.number).isNone

/-- Whether the task of a worker waited for others that are all gone. -/
def mayReturn (s : PoolStage α) (w : Worker (ScriptedTask α)) : Bool :=
  match s.waiting.find? w.number with
  | none => false
  | some others => others.all fun n => (s.pool.worker? n).isNone

/-- The task of a worker goes on to its end, or until it has to wait for other workers. -/
def goOn (s : PoolStage α) (w : Worker (ScriptedTask α)) : PoolStage α :=
  match w.running with
  | none => s
  | some (j, _) =>
    let (outcome, s, c) := s.perform j.task.script (.worker w.number) w.context
    let s := { s with pool := s.pool.updateContext w.number fun _ => c }
    if (s.waiting.find? w.number).isSome then s
    else { s with pool := s.pool.finish w.number outcome }

/-- The task of a worker returns after its wait. -/
def goBack (s : PoolStage α) (w : Worker (ScriptedTask α)) : PoolStage α :=
  { s with pool := s.pool.finish w.number (.returned .done), waiting := s.waiting.erase w.number }

def take (s : PoolStage α) (w : Worker (ScriptedTask α)) : PoolStage α :=
  let picked := { s with pool := s.pool.pick w.number }
  match s.pool.queue with
  | [] => picked
  | j :: _ => picked.noteBegin j.task (.worker w.number)

/-- Whether idle surplus workers leave while one waits for the pool to come to rest. -/
def retires (s : PoolStage α) : Bool := s.pool.config.keepAlive < Time.seconds 1

/-- One thing that can happen by itself, if there is one. -/
def advance? (s : PoolStage α) : Option (PoolStage α) :=
  match s.pool.workers.find? s.mayGoOn with
  | some w => some (s.goOn w)
  | none =>
    match s.pool.workers.find? s.mayReturn with
    | some w => some (s.goBack w)
    | none =>
      match s.pool.workers.find? (·.isIdle) with
      | none => none
      | some w =>
        if !s.pool.queue.isEmpty then some (s.take w)
        else if s.pool.mustLeave || (s.pool.mayRetire && s.retires) then
          some { s with pool := s.pool.leave w.number }
        else none

def advance : Nat → PoolStage α → PoolStage α
  | 0, s => s
  | n + 1, s =>
    match s.advance? with
    | none => s
    | some s => advance n s

/-- Brings the pool to rest. A task is begun, goes on, and may wait for others and submit one note,
which may start a worker: eight events for each task that is there, and one for each worker. -/
def settle (s : PoolStage α) : PoolStage α :=
  advance (8 * (s.pool.queue.length + s.pool.workers.length + 1)) s

/-! ### Steps -/

def submit (s : PoolStage α) (t : ScriptedTask α) (withHandle : Bool) :
    Except PoolError Unit × PoolStage α :=
  let number := s.pool.submitted
  let taken (s : PoolStage α) : PoolStage α :=
    { s with
      handles := if withHandle then s.handles.put t.id number else s.handles
      gates := if t.gated then s.gates ++ [(t.id, number)] else s.gates }
  match s.pool.offer t s.context with
  | (.refused e, p) => (.error e, { s with pool := p })
  | (.started n, p) => (.ok (), (taken { s with pool := p }).noteBegin t (.worker n))
  | (.toCaller n, p) =>
    let s := (taken { s with pool := p }).noteBegin t .submitter
    let (c, guard) := LogContext.enter s.context s.context
    let (outcome, s, _) := s.perform t.script .submitter c
    (.ok (), { s with pool := s.pool.finishOnCaller n outcome, context := guard.leave })
  | (_, p) => (.ok (), taken { s with pool := p })

/-- Opens the gates of the tasks of a name that were submitted so far. -/
def openGates (s : PoolStage α) (id : String) : PoolStage α :=
  { s with opened := (s.gates.filter (·.1 == id)).map (·.2) ++ s.opened }

/-- What a handle finds: a task that is not done with has timed out. -/
def fate (s : PoolStage α) (number : Nat) : Except TaskError (TaskValue α) :=
  (s.pool.fates.find? number).getD (.error .timeout)

def join? (s : PoolStage α) (id : String) :
    Option (Except TaskError (TaskValue α) × PoolStage α) :=
  (s.handles.find? id).map fun n => (s.fate n, { s with handles := s.handles.erase id })

def shutdown (s : PoolStage α) : PoolStage α := { s with pool := s.pool.shutdown.2 }

/-- Shuts the pool down from another thread and drops what is queued: how many tasks those were. -/
def shutdownNow (s : PoolStage α) : Nat × PoolStage α :=
  let (n, p) := s.pool.discardQueue
  (n, { s with pool := p.shutdown.2 })

/-- Opens the gates one by one, lets the pool come to rest after each, and shuts it down. -/
def close (s : PoolStage α) : PoolStage α :=
  let s := s.gates.foldl (fun s gate => { s with opened := gate.2 :: s.opened }.settle) s
  s.shutdown.settle

/-- What the handles that are left find when the pool has been given up. -/
def results (s : PoolStage α) : List (String × Except TaskError (TaskValue α)) :=
  let s := { s with pool := s.pool.abandon }
  s.handles.map fun (id, n) => (id, s.fate n)

end PoolStage

end KeyedDelivery.Rehearsal
