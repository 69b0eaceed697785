import KeyedDelivery.Producer.Dispatch

/-!
# Where a producer works

A producer on a client of an in-memory broker, with locks from a registry. Where in the world the
broker, the client and the locks are found is given by a `SendSite`, together with the clocks. Asking
the broker takes time, in which nobody else acts.
-/

namespace KeyedDelivery

/-- The parts of a world of states `σ` that a producer works with. The locks expire by a clock without
end. -/
structure SendSite (σ : Type) where
  broker : σ → Broker
  setBroker : Broker → σ → σ
  client : σ → ProducerClient
  setClient : ProducerClient → σ → σ
  locks : σ → LockRegistry
  setLocks : LockRegistry → σ → σ
  /-- The clock that the broker schedules by. -/
  brokerNow : σ → Nat
  /-- The clock that the budget of a send is measured by. -/
  now : σ → Nat
  broker_setBroker : ∀ b s, broker (setBroker b s) = b
  broker_setLocks : ∀ r s, broker (setLocks r s) = broker s
  locks_setLocks : ∀ r s, locks (setLocks r s) = r
  /-- While the broker is asked, nothing happens to the locks but that time passes. -/
  locks_setBroker : ∀ b s, ∃ d, locks (setBroker b s) = (locks s).advance d

namespace SendSite

variable {σ : Type}

def transport (w : SendSite σ) : SendTransport σ :=
  .inMemory w.broker w.setBroker w.client w.setClient w.brokerNow w.now

def lockService (w : SendSite σ) : LockService σ LockHandle :=
  LockRegistry.service w.locks w.setLocks

/-- The locks, waited for up to a time. -/
def mutex (w : SendSite σ) (timeout : Nat) : LockMutex σ LockHandle :=
  { service := w.lockService, defaultTimeout := timeout }

/-- How a producer keeps sends apart: by locks that it waits for up to a time, or not at all. -/
def exclusion (w : SendSite σ) : Option Nat → Exclusion σ LockHandle
  | none => .unlocked
  | some timeout => .locked (w.mutex timeout)

/-- A producer on the client, with locks when it is given a time to wait for them. -/
def producer (w : SendSite σ) (c : ProducerConfig) (timeout : Option Nat) : Producer σ LockHandle :=
  { config := c, transport := w.transport, exclusion := w.exclusion timeout }

end SendSite

end KeyedDelivery
