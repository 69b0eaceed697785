import KeyedDelivery.Consumer.Stage

/-!
# What a delivery asks for

While a delivery is handled, the hooks of the handler are asked, and when it fails the transport or the
sink. Here a consumer writes down what it asks of them, and what they answer.
-/

namespace KeyedDelivery

variable {σ : Type}

/-- What is asked while a delivery is handled, and the answer. -/
inductive HandlingCall where
  | asked (h : Hook) (body : String) (answer : HookAnswer)
  | requested (d : Delivery) (level : DelayLevel) (answer : Except String Unit)
  | lettered (letter : DeadLetter) (answer : Outcome Unit)

namespace HandlingCall

def hook? : HandlingCall → Option Hook
  | .asked h _ _ => some h
  | _ => none

/-- What the transport is asked to deliver again, and at which level. -/
def request? : HandlingCall → Option (Delivery × DelayLevel)
  | .requested d level _ => some (d, level)
  | _ => none

/-- What the sink is given. -/
def letter? : HandlingCall → Option DeadLetter
  | .lettered letter _ => some letter
  | _ => none

/-- Whether it is a request that the transport took. -/
def isGranted : HandlingCall → Bool
  | .requested _ _ answer => answer.isOk
  | _ => false

/-- Whether it is a letter that the sink took. -/
def isKept : HandlingCall → Bool
  | .lettered _ answer => answer.isReturned
  | _ => false

end HandlingCall

/-- Why a delivery failed that ended so, if it did. -/
def Verdict.reason? : Verdict → Option String
  | .failed => some "processing returned false"
  | .errored reason => some reason
  | _ => none

/-- The same consumer, which writes its calls down. -/
def Consumer.transcribed (c : Consumer σ) : Consumer (σ × List HandlingCall) where
  config := c.config
  handler.ask h body w :=
    let (answer, s) := c.handler.ask h body w.1
    (answer, s, w.2 ++ [.asked h body answer])
  transport :=
    { subscribe := fun topic tags w =>
        let (answer, s) := c.transport.subscribe topic tags w.1
        (answer, s, w.2)
      listen := fun w => (c.transport.listen w.1, w.2)
      start := fun w =>
        let (answer, s) := c.transport.start w.1
        (answer, s, w.2)
      reconsumeLater := fun d level w =>
        let (answer, s) := c.transport.reconsumeLater d level w.1
        (answer, s, w.2 ++ [.requested d level answer])
      shutdown := fun w => (c.transport.shutdown w.1, w.2) }
  sink := c.sink.map fun sink letter w =>
    let (answer, s) := sink letter w.1
    (answer, s, w.2 ++ [.lettered letter answer])

/-- What is asked while a delivery is handled, in order. -/
def Consumer.transcript (c : Consumer σ) (d : Delivery) (k : Desk) (s : σ) : List HandlingCall :=
  (c.transcribed.handle d k (s, [])).2.2.2

end KeyedDelivery
