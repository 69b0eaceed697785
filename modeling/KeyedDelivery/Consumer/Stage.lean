import KeyedDelivery.Consumer.Basic

/-!
# The way of a delivery

A delivery waits for a permit, goes through the hooks of the handler up to a verdict, is counted,
and if it failed is asked for again or given up; in the end its permit is returned. Each of these is
one stage, so that the deliveries of several workers can be interleaved stage by stage (`advance`);
`handle` takes a delivery through all of them at once.
-/

namespace KeyedDelivery

/-- How a delivery ended. -/
inductive Verdict where
  | filtered
  | duplicate
  | succeeded
  | failed
  | errored (reason : String)
  deriving DecidableEq, Repr

def ConsumerStats.count (s : ConsumerStats) : Verdict → ConsumerStats
  | .filtered => { s with filtered := s.filtered + 1 }
  | .duplicate => { s with duplicates := s.duplicates + 1 }
  | .succeeded => { s with succeeded := s.succeeded + 1 }
  | .failed => { s with failed := s.failed + 1 }
  | .errored _ => { s with errored := s.errored + 1 }

/-- Where a delivery stands. -/
inductive Stage where
  /-- Before its permit. -/
  | waiting
  /-- Before a hook. -/
  | asking (h : Hook)
  /-- Before its verdict is counted. -/
  | judged (v : Verdict)
  /-- Counted as a failure, before something is done about it. -/
  | failing (reason : String)
  /-- Before its permit is returned. -/
  | leaving (outcome : Outcome Unit)
  deriving DecidableEq, Repr

/-- What a consumer keeps while it works: its figures and its permits. -/
structure Desk where
  stats : ConsumerStats := {}
  permits : Permits
  deriving DecidableEq, Repr

/-- How a stage was passed. -/
inductive Progress where
  /-- It was not: no permit is available. -/
  | blocked
  | at (stage : Stage)
  | ended (outcome : Outcome Unit)
  deriving DecidableEq, Repr

namespace Stage

/-- Where the answer of a hook leads. -/
def afterHook (h : Hook) : HookAnswer → Stage
  | .panicked p => .judged (.errored ("handler panicked: " ++ p.message))
  | .returned (.error chain) => .judged (.errored (": ".intercalate chain))
  | .returned (.ok answer) =>
    match h, answer with
    | .filter, true => .judged .filtered
    | .filter, false => .asking .duplicate
    | .duplicate, true => .judged .duplicate
    | .duplicate, false => .asking .process
    | .process, true => .judged .succeeded
    | .process, false => .judged .failed

/-- Whether the verdict on a delivery is still to be counted. -/
def isUncounted : Stage → Bool
  | .waiting => true
  | .asking _ => true
  | .judged _ => true
  | _ => false

/-- Whether a delivery was counted as a failure and something is still to be done about it. -/
def isFailing : Stage → Bool
  | .failing _ => true
  | _ => false

/-- Where a counted verdict leads. -/
def afterVerdict : Verdict → Stage
  | .failed => .failing "processing returned false"
  | .errored reason => .failing reason
  | _ => .leaving (.returned ())

end Stage

namespace Consumer

variable {σ : Type}

def giveUp (c : Consumer σ) (d : Delivery) (reason : String) (k : Desk) (s : σ) :
    Outcome Unit × Desk × σ :=
  let k := { k with stats := { k.stats with exhausted := k.stats.exhausted + 1 } }
  match c.sink with
  | none => (.returned (), k, s)
  | some sink =>
    match sink (.ofDelivery d reason) s with
    | (.panicked p, s) => (.panicked p, k, s)
    | (.returned _, s) =>
      (.returned (),
        { k with stats := { k.stats with deadLettered := k.stats.deadLettered + 1 } }, s)

/-- Asks for a failed delivery again, or gives it up. -/
def afterFailure (c : Consumer σ) (d : Delivery) (reason : String) (k : Desk) (s : σ) :
    Outcome Unit × Desk × σ :=
  match c.retry.decide d.reconsumed with
  | .giveUp => c.giveUp d reason k s
  | .redeliver level =>
    match c.transport.reconsumeLater d level s with
    | (.error _, s) => (.returned (), k, s)
    | (.ok _, s) =>
      (.returned (), { k with stats := { k.stats with retried := k.stats.retried + 1 } }, s)

def advance (c : Consumer σ) (d : Delivery) (stage : Stage) (k : Desk) (s : σ) :
    Progress × Desk × σ :=
  match stage with
  | .waiting =>
    match k.permits.acquire? with
    | none => (.blocked, k, s)
    | some permits => (.at (.asking .filter), { k with permits }, s)
  | .asking h =>
    let (answer, s) := c.handler.ask h d.message.bodyText s
    (.at (.afterHook h answer), k, s)
  | .judged v => (.at (.afterVerdict v), { k with stats := k.stats.count v }, s)
  | .failing reason =>
    let (outcome, k, s) := c.afterFailure d reason k s
    (.at (.leaving outcome), k, s)
  | .leaving outcome => (.ended outcome, { k with permits := k.permits.release }, s)

/-- Takes a delivery through at most so many stages: how it ended, unless it did not. -/
def advanceMany (c : Consumer σ) (d : Delivery) :
    Nat → Stage → Desk → σ → Option (Outcome Unit) × Desk × σ
  | 0, _, k, s => (none, k, s)
  | n + 1, stage, k, s =>
    match c.advance d stage k s with
    | (.blocked, k, s) => (none, k, s)
    | (.ended outcome, k, s) => (some outcome, k, s)
    | (.at stage, k, s) => advanceMany c d n stage k s

/-- Takes a delivery all the way: seven stages at most. -/
def handle (c : Consumer σ) (d : Delivery) (k : Desk) (s : σ) :
    Option (Outcome Unit) × Desk × σ :=
  c.advanceMany d 7 .waiting k s

end Consumer

end KeyedDelivery
