import KeyedDelivery.Broker.Backlog
import KeyedDelivery.Broker.Client

/-!
# Draining a group with a scripted listener

A client is started and delivers batch after batch to a listener that is told what to do, until
nothing is due, a number of batches were delivered, or the listener ends the delivery: it panics, or
it shuts its own client down. When nothing is due the client is left alone.
-/

namespace KeyedDelivery.Rehearsal

/-- What a listener does. -/
structure ListenerScript where
  /-- The keys it asks for again, with the level. -/
  reconsume : Table String DelayLevel := []
  /-- It asks only for deliveries whose count is below this. -/
  reconsumeBelow : Nat := 1
  /-- Its answers, batch by batch; the last one repeats. -/
  statuses : List ConsumeStatus := []
  /-- The batch, counted from 1, at which it panics. -/
  panicAt : Option Nat := none
  /-- The batch, counted from 1, at which it shuts its client down. -/
  stopAt : Option Nat := none
  /-- After so many batches the client is shut down; the first one is always delivered. -/
  maxBatches : Nat := 12

/-- How a listener ended the delivery. -/
inductive DrainEnd where
  | panicked
  /-- Whether the client ran on, what asking for the first delivery again answered, and how many
  redeliveries had been requested by then. -/
  | stopped (running : Bool) (reconsume : Except TransportError Unit) (redeliveries : Nat)

/-- A drain under way, or what is left of one. -/
structure Drain where
  broker : Broker
  client : ConsumerClient
  batches : List (List Delivery) := []
  ended : Option DrainEnd := none

namespace ListenerScript

/-- The answer to batch number `i`, counted from 0. -/
def status (l : ListenerScript) (i : Nat) : ConsumeStatus :=
  (l.statuses[i]? <|> l.statuses.getLast?).getD .success

def requests (l : ListenerScript) (now : Nat) (c : ConsumerClient) (b : Broker)
    (batch : List Delivery) : Broker :=
  batch.foldl (fun b d =>
    match l.reconsume.find? d.message.key with
    | none => b
    | some level =>
      if d.reconsumed.toNat < l.reconsumeBelow then (c.reconsumeLater b now d level).2 else b) b

/-- Handles the batch number `i`, counted from 0. What it asks for is asked for before it panics or
answers; a panic leaves it without an answer. -/
def handle (l : ListenerScript) (now : Nat) (x : Drain) (i : Nat) (batch : List Delivery) :
    Drain :=
  let b := l.requests now x.client x.broker batch
  let x := { x with broker := b, batches := x.batches ++ [batch] }
  let answered (b : Broker) : Broker :=
    match l.status i with
    | .success => b
    | .later => b.scheduleBatch now x.client.group batch
  if l.panicAt = some (i + 1) then { x with ended := some .panicked }
  else
    match batch with
    | first :: _ =>
      if l.stopAt = some (i + 1) then
        let client := x.client.shutdown
        let (asked, b) := client.reconsumeLater b now first ⟨1⟩
        let b := answered b
        { x with broker := b, client, ended := some (.stopped client.running asked b.redeliveries.length) }
      else { x with broker := answered b }
    | [] => { x with broker := answered b }

end ListenerScript

namespace Drain

def run (l : ListenerScript) (now : Nat) (s : Subscription) : Nat → Drain → Drain
  | 0, x => x
  | room + 1, x =>
    if x.ended.isSome || !x.broker.hasDue now s.topic x.client.group then x
    else
      let (batch, b) := x.broker.takeBatch now s.topic x.client.group s.filter
      let x := { x with broker := b }
      if batch.isEmpty then x
      else run l now s room (l.handle now x x.batches.length batch)

end Drain

/-- What a drain came to. When nothing was due it came to nothing, and the client is as it was; else
there are the batches, with whether the client ran on before it was shut down in the end. -/
structure Drained where
  ran : Bool
  batches : List (List Delivery)
  ended : Option DrainEnd
  runningAfter : Bool
  backlog : Nat
  client : ConsumerClient
  broker : Broker

/-- Gives a client a listener, starts it and drains its subscription, if something is due. -/
def drain (l : ListenerScript) (now : Nat) (c : ConsumerClient) (b : Broker) :
    Except TransportError Drained :=
  match c.listen.start with
  | .error e => .error e
  | .ok (started, s) =>
    if b.hasDue now s.topic c.group then
      let x := Drain.run l now s (max l.maxBatches 1) { broker := b, client := started }
      .ok ⟨true, x.batches, x.ended, x.client.running, x.broker.backlog s.topic c.group,
        x.client.shutdown, x.broker⟩
    else .ok ⟨false, [], none, false, b.backlog s.topic c.group, c, b⟩

end KeyedDelivery.Rehearsal
