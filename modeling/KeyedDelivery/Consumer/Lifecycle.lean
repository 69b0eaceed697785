import KeyedDelivery.Consumer.Event

/-!
# From start to shutdown

A consumer is started and shut down, each any number of times, while deliveries come and go. Here the
transport of a consumer writes down what it is asked for, so that it can be told afterwards whether it
was shut down.
-/

namespace KeyedDelivery

variable {σ : Type}

/-- What a transport is asked for, and whether it did it where it can fail. -/
inductive TransportCall where
  | subscribe (done : Bool)
  | listen
  | start (done : Bool)
  | reconsume
  | shutdown
  deriving DecidableEq, Repr

/-- A world with the calls that were written down. -/
abbrev Recorded (σ : Type) := σ × List TransportCall

/-- The same transport, which writes its calls down. -/
def ConsumerTransport.recorded (t : ConsumerTransport σ) : ConsumerTransport (Recorded σ) where
  subscribe topic tags w :=
    let (answer, s) := t.subscribe topic tags w.1
    (answer, s, w.2 ++ [.subscribe answer.isOk])
  listen w := (t.listen w.1, w.2 ++ [.listen])
  start w :=
    let (answer, s) := t.start w.1
    (answer, s, w.2 ++ [.start answer.isOk])
  reconsumeLater d level w :=
    let (answer, s) := t.reconsumeLater d level w.1
    (answer, s, w.2 ++ [.reconsume])
  shutdown w := (t.shutdown w.1, w.2 ++ [.shutdown])

def Handler.recorded (h : Handler σ) : Handler (Recorded σ) where
  ask hook body w :=
    let (answer, s) := h.ask hook body w.1
    (answer, s, w.2)

/-- The same consumer on a transport that writes its calls down. -/
def Consumer.recorded (c : Consumer σ) : Consumer (Recorded σ) where
  config := c.config
  transport := c.transport.recorded
  handler := c.handler.recorded
  sink := c.sink.map fun sink letter w =>
    let (outcome, s) := sink letter w.1
    (outcome, s, w.2)

namespace Lifecycle

/-- What can happen to a consumer in its life. -/
inductive Event (σ : Type) where
  | start
  | shutdown
  /-- A delivery is received, or goes on, or a worker exits. -/
  | work (e : Workplace.Event (Recorded σ))
  /-- Something else happens in the world. -/
  | elsewhere (f : σ → σ)

/-- Whether an event is about deliveries and workers. -/
def isWork : Workplace.Event (Recorded σ) → Bool
  | .receive _ | .receiveUnstarted .. | .pick _ | .work _ | .workOnCaller _ | .retire _
  | .leave _ => true
  | _ => false

/-- The consumer is shut down, and the call returns. -/
def shutdown (x : Workplace (Recorded σ)) : Workplace (Recorded σ) :=
  ⟨(x.run.shutdown x.world).1, (x.run.shutdown x.world).2⟩

def step (x : Workplace (Recorded σ)) : Event σ → Option (Workplace (Recorded σ))
  | .start => some (x.apply .start)
  | .shutdown => some (shutdown x)
  | .work e => if isWork e then x.step e else none
  | .elsewhere f => some { x with world := (f x.world.1, x.world.2) }

/-- The state after a list of events, if each is possible when it happens. -/
def run (x : Workplace (Recorded σ)) (es : List (Event σ)) : Option (Workplace (Recorded σ)) :=
  es.foldlM step x

end Lifecycle

end KeyedDelivery
