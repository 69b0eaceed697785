import KeyedDelivery.Lock.Company
import KeyedDelivery.Producer.Stage

/-!
# Sends in company

A transport whose world has locks beside it, on which others act while it is asked, and a transport
that writes down what it is asked for.
-/

namespace KeyedDelivery

variable {τ : Type}

namespace SendTransport

/-- The same transport, which writes its calls down. -/
def recorded (t : SendTransport τ) : SendTransport (τ × List SendCall) where
  start w := ((t.start w.1).1, ((t.start w.1).2, w.2))
  queues topic w :=
    let (answer, s) := t.queues topic w.1
    (answer, (s, w.2 ++ [.queues topic]))
  send m q w :=
    let (answer, s) := t.send m q w.1
    (answer, (s, w.2 ++ [.send m q]))
  shutdown w := (t.shutdown w.1, w.2)
  now w := t.now w.1

/-- The same transport beside locks. While it is asked, others act and time passes as `during`
tells. -/
def inCompany (t : SendTransport τ) (during : SendCall → τ → List Contention.Event) :
    SendTransport (Company τ) where
  start s := ((t.start s.world).1, s.withWorld (t.start s.world).2)
  queues topic s :=
    let (answer, w) := t.queues topic s.world
    (answer, (s.withWorld w).meanwhile (during (.queues topic) s.world))
  send m q s :=
    let (answer, w) := t.send m q s.world
    (answer, (s.withWorld w).meanwhile (during (.send m q) s.world))
  shutdown s := s.withWorld (t.shutdown s.world)
  now s := t.now s.world

end SendTransport

end KeyedDelivery
