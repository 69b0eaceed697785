import KeyedDelivery.Delay.Level
import KeyedDelivery.Json.Record
import KeyedDelivery.Text.Utf8
import KeyedDelivery.Validation

/-!
# Messages

What a producer hands to a transport: a topic, a tag to subscribe by, a key that decides the queue
and names the lock, a body of bytes, and a delay level.
-/

namespace KeyedDelivery

/-- An outbound message. -/
structure Message where
  topic : String
  tag : String
  key : String
  body : List UInt8
  delay : DelayLevel
  deriving DecidableEq, Repr, Inhabited

/-- Whether two bars in a row occur. -/
def hasBars : List Char → Bool
  | '|' :: '|' :: _ => true
  | _ :: r => hasBars r
  | [] => false

/-- Refuses a tag that holds the separator of tags in a subscription. -/
def validateTag (tag : String) : Except ValidationError Unit :=
  if hasBars tag.toList then .error (.outOfRange "tag" "must not contain '||'") else .ok ()

namespace Message

/-- An immediate message. Only the topic is mandatory. -/
def create (topic tag key : String) (body : List UInt8) : Except ValidationError Message := do
  requireNonEmpty "topic" topic
  validateTag tag
  return ⟨topic, tag, key, body, .immediate⟩

/-- The message at another level. Level 0 leaves it as it is. -/
def withDelay (m : Message) (l : DelayLevel) : Message :=
  if l.isImmediate then m else { m with delay := l }

/-- The body as a text, malformed bytes replaced. -/
def bodyText (m : Message) : String := Text.textOf m.body

/-! ### JSON -/

/-- A message of which some fields were read. -/
structure Draft where
  topic : Option String := none
  tag : Option String := none
  key : Option String := none
  body : Option (List UInt8) := none
  delay : Option DelayLevel := none

/-- How a message is written as a record. -/
def format : Json.Format Draft Message where
  title := "Message"
  fields := [
    .of "topic" Json.string (·.topic) fun v d => { d with topic := some v },
    .of "tag" Json.string (·.tag) fun v d => { d with tag := some v },
    .of "key" Json.string (·.key) fun v d => { d with key := some v },
    .of "body" (Json.list Json.byte) (·.body) fun v d => { d with body := some v },
    .of "delay_level" (Json.word32.map DelayLevel.mk) (·.delay) fun v d =>
      { d with delay := some v }]
  blank := {}
  finish d := do
    let topic ← Json.required "topic" d.topic
    let tag ← Json.required "tag" d.tag
    let key ← Json.required "key" d.key
    let body ← Json.required "body" d.body
    let delay ← Json.required "delay_level" d.delay
    return ⟨topic, tag, key, body, delay⟩

/-- Reads a message. Nothing but its shape is checked. -/
def ofJson (text : String) : Except Json.Fault Message := format.decode text

def toJson (m : Message) : String :=
  String.ofList <| Json.writeObject [
    ("topic", Json.writeString m.topic),
    ("tag", Json.writeString m.tag),
    ("key", Json.writeString m.key),
    ("body", Json.writeList (m.body.map fun b => Json.writeNatural b.toNat)),
    ("delay_level", m.delay.toJson)]

end Message

end KeyedDelivery
