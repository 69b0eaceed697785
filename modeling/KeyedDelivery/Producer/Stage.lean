import KeyedDelivery.Producer.Dispatch

/-!
# The way of a send

A send asks for the queues of its topic, and then tries the queue of its key until it is answered.
Each call of the transport is one stage, so that the sends of several producers can be interleaved
call by call (`advance`).
-/

namespace KeyedDelivery

/-- What a send asks of its transport. -/
inductive SendCall where
  | queues (topic : String)
  | send (m : Message) (q : Queue)
  deriving DecidableEq, Repr

/-- Where a send stands. -/
inductive SendStage where
  /-- Before it asks for the queues. -/
  | asking
  /-- Before it tries the queue of its key, up to `left` more times; `made` attempts were made, of
  which the last failed with `last`. -/
  | trying (q : Queue) (deadline left made : Nat) (last : String)
  | answered (result : Except String Receipt)

namespace SendStage

variable {σ : Type}

/-- A panic of the transport is the failure of the send. -/
def failed (payload : PanicPayload) : SendStage :=
  .answered (.error ("send panicked: " ++ payload.message))

/-- Where the answer to the question for the queues leads. -/
def afterQueues (c : ProducerConfig) (m : Message) (deadline : Nat) :
    Outcome (Except String (List Queue)) → SendStage
  | .panicked payload => failed payload
  | .returned (.error e) => .answered (.error e)
  | .returned (.ok queues) =>
    match selectQueue queues m.key with
    | none => .answered (.error ("no queues for topic " ++ m.topic))
    | some q => .trying q deadline (Producer.attemptLimit c).toNat 0 ""

/-- Where the answer to an attempt leads. -/
def afterAttempt (q : Queue) (deadline left made : Nat) :
    Outcome (Except String Receipt) → SendStage
  | .panicked payload => failed payload
  | .returned (.ok r) => .answered (.ok r)
  | .returned (.error e) => .trying q deadline left (made + 1) e

/-- The call that comes next, if there is one. -/
def call? (t : SendTransport σ) (m : Message) : SendStage → σ → Option SendCall
  | .asking, _ => some (.queues m.topic)
  | .trying q deadline (_ + 1) made _, s =>
    if 0 < made ∧ deadline ≤ t.now s then none else some (.send m q)
  | _, _ => none

/-- The receipt that the next call brings, if it brings one. -/
def receipt? (t : SendTransport σ) (m : Message) (stage : SendStage) (s : σ) : Option Receipt :=
  match stage.call? t m s with
  | some (.send m q) =>
    match (t.send m q s).1 with
    | .returned (.ok r) => some r
    | _ => none
  | _ => none

def advance (c : ProducerConfig) (t : SendTransport σ) (m : Message) :
    SendStage → σ → SendStage × σ
  | .asking, s =>
    let (answer, s') := t.queues m.topic s
    (afterQueues c m (t.now s + c.sendTimeout) answer, s')
  | .trying _ _ 0 _ last, s => (.answered (.error last), s)
  | .trying q deadline (left + 1) made last, s =>
    if 0 < made ∧ deadline ≤ t.now s then
      (.answered (.error (Producer.timedOut made last)), s)
    else
      let (answer, s) := t.send m q s
      (afterAttempt q deadline left made answer, s)
  | .answered result, s => (.answered result, s)

end SendStage

end KeyedDelivery
