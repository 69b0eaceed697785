import KeyedDelivery.Lock.Event
import KeyedDelivery.Producer.Stage

/-!
# Sends of many producers at once

Any number of producers send through transports in one world, and those with locks take them from
one registry. The sends take their steps in any order: one comes to its lock, looks whether it is
free, calls its transport, releases its lock. In between, other handles act on the registry, time
passes, and anything may happen to the world.

An event that is not possible when it happens does nothing.
-/

namespace KeyedDelivery

/-- A producer: its settings, its transport, and how long it waits for a lock, if it takes locks. -/
structure Sender (σ : Type) where
  config : ProducerConfig
  transport : SendTransport σ
  patience : Option Nat

/-- A lock that a send was granted: the token of its handle, and when. -/
structure Hold where
  token : Nat
  since : Nat
  deriving DecidableEq, Repr

/-- How far a send has come. -/
inductive SendPoint where
  | arriving
  /-- It has a handle on its lock, and will not wait beyond the deadline. -/
  | contending (token deadline : Nat)
  /-- It has looked, and waits for its lock. -/
  | waiting (token : Nat)
  /-- It sends, with the lock it was granted if it takes locks. -/
  | sending (hold : Option Hold) (stage : SendStage)
  | ended (outcome : SendOutcome)

namespace SendPoint

/-- The token of the handle that the send has. -/
def token? : SendPoint → Option Nat
  | contending token _ => some token
  | waiting token => some token
  | sending hold _ => hold.map (·.token)
  | _ => none

/-- The lock that the send holds. -/
def hold? : SendPoint → Option Hold
  | sending hold _ => hold
  | _ => none

/-- Whether the send may call its transport. -/
def isSending : SendPoint → Bool
  | sending _ _ => true
  | _ => false

/-- Where the answer to a look leads: a look without an answer has to be repeated. -/
def afterLook (token now : Nat) : Option Contention.Answer → SendPoint
  | some (.tried _ (.ok true)) => .sending (some ⟨token, now⟩) .asking
  | some (.tried _ (.ok false)) => .ended (Producer.outcomeOf (.error .notAcquired))
  | some (.tried _ (.error e)) => .ended (Producer.outcomeOf (.error (.ofError e)))
  | some (.panicked _ p) => .ended (.panicked p)
  | _ => .waiting token

end SendPoint

/-- One send. -/
structure Sending (σ : Type) where
  sender : Sender σ
  message : Message
  point : SendPoint := .arriving

namespace Sending

variable {σ : Type}

/-- The key of the lock of a send. -/
def lockKey (s : Sending σ) : String := s.sender.config.lockKeyPrefix ++ s.message.key

def isLocked (s : Sending σ) : Bool := s.sender.patience.isSome

/-- The receipt that the next step of a send brings, if it brings one. -/
def receipt? (s : Sending σ) (w : σ) : Option Receipt :=
  match s.point with
  | .sending _ stage => stage.receipt? s.sender.transport s.message w
  | _ => none

end Sending

/-- The sends that were begun, in this order, with the registry and the world. -/
structure Traffic (σ : Type) where
  locks : Contention
  world : σ
  sends : List (Sending σ) := []

namespace Traffic

variable {σ : Type}

/-- What can happen. -/
inductive Event (σ : Type) where
  | begin (sender : Sender σ) (m : Message)
  /-- The send of a number, counted from the first, takes its next step. -/
  | proceed (i : Nat)
  /-- A handle that belongs to no send acts on the registry, or time passes there. -/
  | locks (e : Contention.Event)
  /-- Something happens to the world. -/
  | elsewhere (f : σ → σ)

def start (c : LockConfig) (w : σ) : Traffic σ := { locks := .start c, world := w }

/-- The next step of a send, with what it does to the registry and the world. -/
def advance (x : Traffic σ) (s : Sending σ) : SendPoint × Contention × σ :=
  match s.point with
  | .arriving =>
    match s.sender.patience with
    | none => (.sending none .asking, x.locks, x.world)
    | some timeout =>
      if s.lockKey.isEmpty then
        (.ended (Producer.outcomeOf (.error (.invalidArgument (.empty "lock_key")))),
          x.locks, x.world)
      else if timeout = 0 then
        (.ended (Producer.outcomeOf (.error (.invalidArgument (.notPositive "acquire_timeout")))),
          x.locks, x.world)
      else
        (.contending x.locks.registry.nextToken (x.locks.now + timeout),
          (x.locks.step (.obtain s.lockKey)).2, x.world)
  | .contending token deadline =>
    let (answer, locks) := x.locks.step (.enter token (deadline - x.locks.now))
    (.afterLook token x.locks.now answer, locks, x.world)
  | .waiting token =>
    let (answer, locks) := x.locks.step (.look token)
    (.afterLook token x.locks.now answer, locks, x.world)
  | .sending none (.answered result) => (.ended (Producer.outcomeOf (.ok result)), x.locks, x.world)
  | .sending (some hold) (.answered result) =>
    (.ended (Producer.outcomeOf (.ok result)), (x.locks.step (.unlock hold.token)).2, x.world)
  | .sending hold stage =>
    let (stage, world) := stage.advance s.sender.config s.sender.transport s.message x.world
    (.sending hold stage, x.locks, world)
  | .ended outcome => (.ended outcome, x.locks, x.world)

/-- Whether a handle belongs to a send that has not ended. -/
def ownsToken (x : Traffic σ) (token : Nat) : Bool :=
  x.sends.any fun s => s.point.token? == some token

def step (x : Traffic σ) : Event σ → Traffic σ
  | .begin sender m => { x with sends := x.sends ++ [{ sender, message := m }] }
  | .proceed i =>
    match x.sends[i]? with
    | none => x
    | some s =>
      let (point, locks, world) := x.advance s
      { locks, world, sends := x.sends.set i { s with point } }
  | .locks e =>
    if e.actor.any x.ownsToken then x else { x with locks := (x.locks.step e).2 }
  | .elsewhere f => { x with world := f x.world }

def run (x : Traffic σ) (es : List (Event σ)) : Traffic σ := es.foldl step x

/-- The send that is granted its lock in an event, if one is. -/
def granted? (x : Traffic σ) : Event σ → Option Nat
  | .proceed i =>
    match x.sends[i]? with
    | none => none
    | some s => if s.point.hold?.isNone ∧ (x.advance s).1.hold?.isSome then some i else none
  | _ => none

/-- The call that a send makes in an event, if one does. -/
def call? (x : Traffic σ) : Event σ → Option (Nat × SendCall)
  | .proceed i =>
    match x.sends[i]? with
    | none => none
    | some s =>
      match s.point with
      | .sending _ stage => (stage.call? s.sender.transport s.message x.world).map (i, ·)
      | _ => none
  | _ => none

/-- The message that a transport accepts in an event, if one does, with its receipt. -/
def receipt? (x : Traffic σ) : Event σ → Option (Message × Receipt)
  | .proceed i => x.sends[i]?.bind fun s => (s.receipt? x.world).map (s.message, ·)
  | _ => none

/-- The calls that the sends make, in order. -/
def calls (x : Traffic σ) : List (Event σ) → List (Nat × SendCall)
  | [] => []
  | e :: es => (x.call? e).toList ++ calls (x.step e) es

end Traffic

end KeyedDelivery
