import KeyedDelivery.Producer.Company

/-!
# What a send asks for

A producer whose transport writes its calls down, and the world in which its sends begin once they are
past their lock.
-/

namespace KeyedDelivery

variable {σ η : Type}

/-- The same locks in a world that has something beside it. -/
def LockService.beside (κ : Type) (l : LockService σ η) : LockService (σ × κ) η where
  obtain key w :=
    let (answer, s) := l.obtain key w.1
    (answer, s, w.2)
  tryLock timeout h w :=
    let (answer, h, s) := l.tryLock timeout h w.1
    (answer, h, s, w.2)
  unlock h w :=
    let (answer, h, s) := l.unlock h w.1
    (answer, h, s, w.2)

def LockMutex.beside (κ : Type) (m : LockMutex σ η) : LockMutex (σ × κ) η where
  service := m.service.beside κ
  defaultTimeout := m.defaultTimeout

namespace Exclusion

def beside (κ : Type) : Exclusion σ η → Exclusion (σ × κ) η
  | .unlocked => .unlocked
  | .locked m => .locked (m.beside κ)

/-- The world in which a send begins that gets past its lock. -/
def begun (x : Exclusion σ η) (lockKey : String) (s : σ) : Option σ :=
  match x with
  | .unlocked => some s
  | .locked m =>
    if lockKey.isEmpty || m.defaultTimeout = 0 then none
    else match m.acquire lockKey m.defaultTimeout s with
      | (.returned (.ok _), s) => some s
      | _ => none

end Exclusion

/-- The same producer on a transport that writes its calls down. -/
def Producer.recorded (p : Producer σ η) : Producer (σ × List SendCall) η where
  config := p.config
  transport := p.transport.recorded
  exclusion := p.exclusion.beside _

/-- What the transport of a send is asked for, in order. -/
def Producer.calls (p : Producer σ η) (m : Message) (s : σ) : List SendCall :=
  (p.recorded.dispatch m (s, [])).2.2

namespace SendTransport

variable (t : SendTransport σ) (m : Message) (q : Queue)

/-- The world after some attempts to send a message to a queue. -/
def after (s : σ) : Nat → σ
  | 0 => s
  | k + 1 => (t.send m q (after s k)).2

/-- What the attempt is answered that comes after `k` others. -/
def answer (s : σ) (k : Nat) : Outcome (Except String Receipt) := (t.send m q (t.after m q s k)).1

end SendTransport

end KeyedDelivery
