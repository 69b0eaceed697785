import KeyedDelivery.Producer.Async
import KeyedDelivery.Producer.Site

/-!
# Producers with a scripted transport

The world of a producer that is being rehearsed: a broker with a client, a lock registry whose clock
is the clock of the sends, and a script for a transport that answers as told. Locks can be held from
outside the producer.
-/

namespace KeyedDelivery.Rehearsal

/-- How a scripted send ends. -/
inductive SendResult where
  | accepted
  | refused (reason : String)
  | panics (payload : PanicPayload)
  deriving DecidableEq, Repr

/-- One scripted send: how long it takes and how it ends. -/
structure SendScript where
  takes : Nat := 0
  result : SendResult := .accepted
  deriving DecidableEq, Repr

/-- What a transport answers. -/
structure TransportScript where
  startError : Option String := none
  queuesError : Option String := none
  queues : Nat := 4
  /-- The sends in order; those after the last succeed. -/
  sends : List SendScript := []
  deriving Repr

/-- The world of a producer. -/
structure SendWorld where
  broker : Broker
  client : ProducerClient := {}
  locks : LockRegistry
  /-- The locks that are held from outside, by key. -/
  held : Table String LockHandle := []
  /-- How many scripted sends were made. -/
  attempts : Nat := 0
  /-- How often the scripted transport was shut down. -/
  shutdowns : Nat := 0

namespace SendWorld

/-- The parts of the world. The broker's clock stands still, and asking the broker takes no time. -/
def site : SendSite SendWorld where
  broker := (·.broker)
  setBroker b s := { s with broker := b }
  client := (·.client)
  setClient c s := { s with client := c }
  locks := (·.locks)
  setLocks r s := { s with locks := r }
  brokerNow _ := 0
  now := (·.locks.now)
  broker_setBroker _ _ := rfl
  broker_setLocks _ _ := rfl
  locks_setLocks _ _ := rfl
  locks_setBroker _ _ := ⟨0, rfl⟩

def lockService : LockService SendWorld LockHandle := site.lockService

/-- The in-memory client. -/
def inMemory : SendTransport SendWorld := site.transport

/-- The next scripted send. -/
def sendScripted (script : TransportScript) (q : Queue) (s : SendWorld) :
    Outcome (Except String Receipt) × SendWorld :=
  let n := s.attempts
  let told := (script.sends[n]?).getD {}
  let s := { s with attempts := n + 1, locks := s.locks.advance told.takes }
  match told.result with
  | .accepted => (.returned (.ok ⟨.timeOrdered 0 n, q, n⟩), s)
  | .refused reason => (.returned (.error reason), s)
  | .panics payload => (.panicked payload, s)

/-- A transport that answers as told. -/
def scripted (script : TransportScript) : SendTransport SendWorld where
  start s := (match script.startError with
    | some e => .error e
    | none => .ok (), s)
  queues topic s := (.returned (match script.queuesError with
    | some e => .error e
    | none => .ok ((List.range script.queues).map fun i => ⟨topic, "s", UInt32.ofNat i⟩)), s)
  send _ q s := sendScripted script q s
  shutdown s := { s with shutdowns := s.shutdowns + 1 }
  now s := s.locks.now

/-- How long a lock is waited for from outside. -/
def holdTimeout : Nat := Time.millis 20

/-- Takes a lock from outside. -/
def hold (s : SendWorld) (key : String) : Outcome (Except SkipReason Unit) × SendWorld :=
  match LockMutex.acquire { service := lockService } key holdTimeout s with
  | (.panicked p, s) => (.panicked p, s)
  | (.returned (.error skip), s) => (.returned (.error skip), s)
  | (.returned (.ok h), s) => (.returned (.ok ()), { s with held := s.held.put key h })

/-- Gives a lock that was taken from outside back, if there is one. -/
def letGo? (s : SendWorld) (key : String) : Option SendWorld :=
  (s.held.find? key).map fun h =>
    let s := LockMutex.release { service := lockService } h s
    { s with held := s.held.erase key }

end SendWorld

end KeyedDelivery.Rehearsal
