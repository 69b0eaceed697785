import KeyedDelivery.Json.Record
import KeyedDelivery.Json.Writer

/-!
# Queues

A topic is divided into numbered queues, each held by a broker. Order is kept inside a queue only.
-/

namespace KeyedDelivery

/-- A queue of a topic. -/
structure Queue where
  topic : String
  broker : String
  id : UInt32
  deriving DecidableEq, Repr, Inhabited

namespace Queue

def display (q : Queue) : String := q.topic ++ "@" ++ q.broker ++ "#" ++ Text.natural q.id.toNat

/-- A queue of which some fields were read. -/
structure Draft where
  topic : Option String := none
  broker : Option String := none
  id : Option UInt32 := none

/-- How a queue is written as a record. -/
def format : Json.Format Draft Queue where
  title := "MessageQueue"
  fields := [
    .of "topic" Json.string (·.topic) fun v d => { d with topic := some v },
    .of "broker_name" Json.string (·.broker) fun v d => { d with broker := some v },
    .of "queue_id" Json.word32 (·.id) fun v d => { d with id := some v }]
  blank := {}
  finish d := do
    let topic ← Json.required "topic" d.topic
    let broker ← Json.required "broker_name" d.broker
    let id ← Json.required "queue_id" d.id
    return ⟨topic, broker, id⟩

def ofJson (text : String) : Except Json.Fault Queue := format.decode text

def toJson (q : Queue) : String :=
  String.ofList <| Json.writeObject [
    ("topic", Json.writeString q.topic),
    ("broker_name", Json.writeString q.broker),
    ("queue_id", Json.writeNatural q.id.toNat)]

end Queue

end KeyedDelivery
