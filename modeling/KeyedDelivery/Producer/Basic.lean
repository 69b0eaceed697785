import KeyedDelivery.Broker.Client
import KeyedDelivery.Config.Producer
import KeyedDelivery.Lock.Mutex
import KeyedDelivery.PackageBind
import KeyedDelivery.Pool.Error
import KeyedDelivery.Routing

/-!
# Producers

A producer sends messages through a transport, and may hold a lock on the message's key while it
does. Both are given as functions on the state `σ` of the world: `SendTransport` is what it asks of
a transport, `Exclusion` is how it keeps two sends of one key apart.
-/

namespace KeyedDelivery

/-- How a call to send a message ended. -/
inductive SendOutcome where
  /-- The transport accepted the message. -/
  | sent (receipt : Receipt)
  /-- The send did not run. -/
  | skipped (reason : SkipReason)
  /-- The send ran and failed, or the message was invalid. -/
  | failed (message : String)
  /-- The call panicked while it took its lock, and gave no outcome. The send did not run. -/
  | panicked (payload : PanicPayload)
  deriving DecidableEq, Repr

namespace SendOutcome

def isSent : SendOutcome → Bool
  | .sent _ => true
  | _ => false

def receipt? : SendOutcome → Option Receipt
  | .sent r => some r
  | _ => none

/-- The call as a task of which nobody asks for the outcome. -/
def asTask : SendOutcome → Outcome Unit
  | .panicked p => .panicked p
  | _ => .returned ()

end SendOutcome

/-- Why there is no producer. -/
inductive ProducerError where
  | start (reason : String)
  | config (error : ConfigError)
  | pool (error : PoolError)
  deriving DecidableEq, Repr

def ProducerError.message : ProducerError → String
  | .start reason => "transport failed to start: " ++ reason
  | .config error => error.message
  | .pool error => error.message

/-- A transport for sends in a world of states `σ`. Its errors are texts, and asking it may
panic. -/
structure SendTransport (σ : Type) where
  start : σ → Except String Unit × σ
  queues : String → σ → Outcome (Except String (List Queue)) × σ
  send : Message → Queue → σ → Outcome (Except String Receipt) × σ
  shutdown : σ → σ
  /-- The clock that the budget of a send is measured by. -/
  now : σ → Nat

/-- How sends of one key are kept apart. -/
inductive Exclusion (σ η : Type) where
  /-- They are not. -/
  | unlocked
  /-- Each holds a lock on its key. -/
  | locked (mutex : LockMutex σ η)

namespace Exclusion

variable {σ η α : Type}

/-- The locks of the given settings. -/
def ofConfig (service : LockService σ η) (c : LockConfig) : Except ConfigError (Exclusion σ η) := do
  c.validate
  return .locked { service, defaultTimeout := c.acquireTimeout }

/-- Runs a send that cannot panic, alone for its lock key. -/
def run (x : Exclusion σ η) (lockKey : String) (send : σ → α × σ) (s : σ) :
    Outcome (Except SkipReason α) × σ :=
  match x with
  | .unlocked => let (a, s) := send s; (.returned (.ok a), s)
  | .locked m =>
    m.tryWithLock lockKey m.defaultTimeout (fun s => let (a, s) := send s; (.returned a, s)) s

end Exclusion

/-- A producer: its settings, its transport, and how it keeps sends apart. -/
structure Producer (σ η : Type) where
  config : ProducerConfig
  transport : SendTransport σ
  exclusion : Exclusion σ η

def SendTransport.inMemory {σ : Type} (broker : σ → Broker) (setBroker : Broker → σ → σ)
    (client : σ → ProducerClient) (setClient : ProducerClient → σ → σ) (brokerNow : σ → Nat)
    (now : σ → Nat) : SendTransport σ where
  start s :=
    let (r, c) := (client s).start
    (r.mapError (·.message), setClient c s)
  queues topic s :=
    let (r, b) := (client s).queues (broker s) topic
    (.returned (r.mapError (·.message)), setBroker b s)
  send m q s :=
    let (r, b) := (client s).send (broker s) (brokerNow s) m q
    (.returned (r.mapError (·.message)), setBroker b s)
  shutdown s := setClient (client s).shutdown s
  now := now

end KeyedDelivery
