import KeyedDelivery.Message
import KeyedDelivery.MessageId
import KeyedDelivery.Queue

/-!
# What a broker hands out

A sender gets a receipt, a consumer group gets deliveries. A copy that was asked for again carries
one more in its count of redeliveries, and the broker keeps a record of the request.
-/

namespace KeyedDelivery

/-- What the sender of an accepted message is told. -/
structure Receipt where
  id : MessageId
  queue : Queue
  offset : Nat
  deriving DecidableEq, Repr

/-- A message as it is delivered. -/
structure Delivery where
  id : MessageId
  message : Message
  queue : Queue
  offset : Nat
  /-- How many redeliveries came before this one. -/
  reconsumed : UInt32
  deriving DecidableEq, Repr

/-- The copy that is delivered again. -/
def Delivery.again (d : Delivery) : Delivery :=
  { d with reconsumed := DelayLevel.increment d.reconsumed }

/-- A request to deliver a message again. -/
structure Redelivery where
  group : String
  id : MessageId
  key : String
  /-- The count that the copy carries. -/
  reconsumed : UInt32
  level : DelayLevel
  deriving DecidableEq, Repr

/-- What a listener answers to a batch. -/
inductive ConsumeStatus where
  /-- The batch is accepted. -/
  | success
  /-- The whole batch is to be delivered again. -/
  | later
  deriving DecidableEq, Repr

end KeyedDelivery
