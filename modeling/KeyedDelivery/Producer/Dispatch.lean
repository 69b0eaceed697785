import KeyedDelivery.Producer.Basic

/-!
# Sending one message

A send holds the lock of the message's key, asks for the queues of the topic, and tries the queue of
the key. A failed attempt is repeated while attempts are left and the budget, measured from before
the queues were asked for, has not run out. A panic of the transport ends the send as a failure.

* `attempts` is the loop over one queue.
* `sendRouted` is a send under its lock.
* `dispatch` is the whole, with its outcome. A panic of the attempt to take the lock leaves it.
-/

namespace KeyedDelivery.Producer

variable {σ η : Type}

/-- The key of the lock for a message key. -/
def lockKey (p : Producer σ η) (key : String) : String := p.config.lockKeyPrefix ++ key

def attemptLimit (c : ProducerConfig) : UInt32 := c.retryTimes + 1

/-- What is said when the budget ends a send after `made` attempts. -/
def timedOut (made : Nat) (last : String) : String :=
  "send timed out after " ++ Text.natural made ++ " attempt(s): " ++ last

/-- Tries a queue up to `left` more times, after `made` attempts of which the last failed with
`last`. Only the first attempt is made without a look at the deadline. -/
def attempts (t : SendTransport σ) (m : Message) (q : Queue) (deadline : Nat) :
    Nat → Nat → String → σ → Outcome (Except String Receipt) × σ
  | 0, _, last, s => (.returned (.error last), s)
  | left + 1, made, last, s =>
    if 0 < made ∧ deadline ≤ t.now s then (.returned (.error (timedOut made last)), s)
    else match t.send m q s with
      | (.panicked p, s) => (.panicked p, s)
      | (.returned (.ok r), s) => (.returned (.ok r), s)
      | (.returned (.error e), s) => attempts t m q deadline left (made + 1) e s

/-- Sends a message to the queue of its key. -/
def sendRouted (p : Producer σ η) (m : Message) (s : σ) :
    Outcome (Except String Receipt) × σ :=
  let deadline := p.transport.now s + p.config.sendTimeout
  match p.transport.queues m.topic s with
  | (.panicked payload, s) => (.panicked payload, s)
  | (.returned (.error e), s) => (.returned (.error e), s)
  | (.returned (.ok queues), s) =>
    match selectQueue queues m.key with
    | none => (.returned (.error ("no queues for topic " ++ m.topic)), s)
    | some q => attempts p.transport m q deadline (attemptLimit p.config).toNat 0 "" s

/-- A send whose panic became its failure. -/
def sendGuarded (p : Producer σ η) (m : Message) (s : σ) : Except String Receipt × σ :=
  match p.sendRouted m s with
  | (.returned r, s) => (r, s)
  | (.panicked payload, s) => (.error ("send panicked: " ++ payload.message), s)

/-- What a send under its lock came to. A panic under the lock is a failure, not a skip. -/
def outcomeOf : Except SkipReason (Except String Receipt) → SendOutcome
  | .ok (.ok r) => .sent r
  | .ok (.error e) => .failed e
  | .error (.actionPanicked e) => .failed e
  | .error skip => .skipped skip

/-- How a call ends whose send comes to something, or that panics before. -/
def outcome : Outcome (Except SkipReason (Except String Receipt)) → SendOutcome
  | .returned result => outcomeOf result
  | .panicked p => .panicked p

/-- Sends a message. -/
def dispatch (p : Producer σ η) (m : Message) (s : σ) : SendOutcome × σ :=
  let (result, s) := p.exclusion.run (p.lockKey m.key) (p.sendGuarded m) s
  (outcome result, s)

/-! ### Building messages -/

def createMessage (topic tag key : String) (body : List UInt8) (delay : DelayLevel) :
    Except ValidationError Message := do
  requireNonEmpty "key" key
  let m ← Message.create topic tag key body
  return m.withDelay delay

def sendSync (p : Producer σ η) (topic tag key : String) (body : List UInt8) (delay : DelayLevel)
    (s : σ) : SendOutcome × σ :=
  match createMessage topic tag key body delay with
  | .error e => (.failed e.message, s)
  | .ok m => p.dispatch m s

/-- Sends a package binding at once: keyed by the binding, with the topic and the tag of the
producer. -/
def sendBind (p : Producer σ η) (b : PackageBind) (s : σ) : SendOutcome × σ :=
  p.sendSync p.config.topic p.config.tag b.partitionKey b.toBytes .immediate s

end KeyedDelivery.Producer
