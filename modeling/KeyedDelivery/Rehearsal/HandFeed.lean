import KeyedDelivery.Rehearsal.Consumers

/-!
# A transport that is fed by hand

It answers as told, writes down what it is asked for, and keeps the listener; deliveries come from
outside.
-/

namespace KeyedDelivery.Rehearsal

/-- What a hand-fed transport answers, and what it was asked for. -/
structure HandFeed where
  subscribeError : Option String := none
  startError : Option String := none
  /-- What is answered to the next requests for redelivery; those after the last succeed. -/
  reconsumeErrors : List (Option String) := []
  /-- Whether it has a listener. -/
  listening : Bool := false
  calls : List String := []
  deriving Repr

namespace HandFeed

def note (f : HandFeed) (call : String) : HandFeed := { f with calls := f.calls ++ [call] }

/-- An error, if there is one. -/
def told : Option String → Except String Unit
  | some e => .error e
  | none => .ok ()

def transport : ConsumerTransport (ConsumerWorld HandFeed) where
  subscribe topic filter w :=
    (told w.link.subscribeError,
      { w with link := w.link.note ("subscribe " ++ topic ++ " " ++ filter) })
  listen w := { w with link := { w.link.note "listener" with listening := true } }
  start w := (told w.link.startError, { w with link := w.link.note "start" })
  reconsumeLater d level w :=
    let link := w.link.note (" ".intercalate ["reconsume", d.message.key,
      Text.natural d.reconsumed.toNat, Text.natural level.level.toNat])
    (told (w.link.reconsumeErrors.head?.join),
      { w with link := { link with reconsumeErrors := link.reconsumeErrors.tail } })
  shutdown w := { w with link := w.link.note "shutdown" }

end HandFeed

/-- A consumer on a hand-fed transport, or the transport that is left of it. -/
structure FedConsumer where
  stage : ConsumerStage HandFeed
  dropped : Bool := false

namespace FedConsumer

/-- Hands a batch to the listener, if there is one. The listener of a consumer that was dropped
does nothing. -/
def deliver? (c : FedConsumer) (batch : List Delivery) (gated : Bool) :
    Option (Option Held × FedConsumer) :=
  if !c.stage.world.link.listening then none
  else if c.dropped then some (none, c)
  else
    let (held, stage) := c.stage.deliver batch gated
    some (held, { c with stage })

/-- Gives the consumer up, which shuts it down. -/
def drop (c : FedConsumer) : FedConsumer := { stage := c.stage.shutdown, dropped := true }

/-- Forgets the calls and the hooks that were written down. -/
def forget (c : FedConsumer) : FedConsumer :=
  let w := c.stage.world
  { c with stage := { c.stage with world :=
    { w with link := { w.link with calls := [] }, script := { w.script with asked := [] } } } }

/-- The most deliveries that were inside the processing at once, as far as it is certain: those seen
before a gate, or one if any was processed. -/
def peak (c : FedConsumer) : Option Held → Nat
  | some held => held.inside
  | none => if c.stage.world.script.asked.any (·.startsWith "process ") then 1 else 0

end FedConsumer

end KeyedDelivery.Rehearsal
