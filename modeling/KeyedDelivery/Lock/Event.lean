import KeyedDelivery.Lock.Registry

/-!
# Runs of a lock registry

Any number of handles on the locks of one registry, each with an owner of its own, act in any order.
A handle that tries to take its lock waits from its first look on until a look ends the wait; in
between the other handles act and time passes. While it waits it does nothing else.

Handles are told apart by their tokens. An event that is not possible when it happens does nothing.
-/

namespace KeyedDelivery

/-- What a handle is about: nothing, or waiting for its lock. -/
inductive Contender where
  | idle (handle : LockHandle)
  | waiting (w : LockRegistry.Waiter)
  deriving DecidableEq, Repr

/-- The handle of a contender. -/
def Contender.handle : Contender → LockHandle
  | .idle h => h
  | .waiting w => w.handle

/-- A registry with the handles that were obtained from it, by their tokens. -/
structure Contention where
  registry : LockRegistry
  contenders : Table Nat Contender := []
  /-- The greatest reading of the clock, if there is one. -/
  lastReading : Option Nat := none
  deriving Repr

namespace Contention

/-- What can happen. -/
inductive Event where
  | obtain (key : String)
  /-- A handle begins to try, and looks for the first time. `timeout` is what is left of its time
  when the registry is entered. -/
  | enter (token timeout : Nat)
  /-- A waiting handle looks again. -/
  | look (token : Nat)
  | unlock (token : Nat)
  | interrupt
  | failing (n : Nat)
  | advance (d : Nat)
  deriving DecidableEq, Repr

/-- The handle that acts in an event, if one does. -/
def Event.actor : Event → Option Nat
  | .enter token _ => some token
  | .look token => some token
  | .unlock token => some token
  | _ => none

/-- How a call on a handle ends. -/
inductive Answer where
  | tried (token : Nat) (result : Except LockError Bool)
  /-- A try that panicked, and so returned nothing. -/
  | panicked (token : Nat) (payload : PanicPayload)
  | unlocked (token : Nat) (result : Except LockError Unit)

def start (c : LockConfig) : Contention := { registry := .ofConfig c }

def set (s : Contention) (token : Nat) (c : Contender) : Contention :=
  { s with contenders := s.contenders.put token c }

/-- A handle looks whether its wait is over. -/
def lookOnce (s : Contention) (token : Nat) (w : LockRegistry.Waiter) :
    Option Answer × Contention :=
  match s.registry.look w with
  | .granted =>
    (some (.tried token (.ok true)),
      { s with registry := s.registry.grant w.handle }.set token
        (.idle { w.handle with held := true }))
  | .overflowed =>
    (some (.panicked token LockRegistry.overflow), s.set token (.idle w.handle))
  | .interrupted =>
    (some (.tried token (.error (.interrupted w.handle.key))), s.set token (.idle w.handle))
  | .timedOut => (some (.tried token (.ok false)), s.set token (.idle w.handle))
  | .waits _ => (none, s.set token (.waiting w))

/-- A handle that is idle begins to try. -/
def enter (s : Contention) (token : Nat) (h : LockHandle) (timeout : Nat) :
    Option Answer × Contention :=
  match s.registry.beginWait h timeout s.lastReading with
  | (.panicked p, r) => (some (.panicked token p), { s with registry := r })
  | (.returned (.error e), r) => (some (.tried token (.error e)), { s with registry := r })
  | (.returned (.ok w), r) => { s with registry := r }.lookOnce token w

/-- A handle that is idle releases its lock. -/
def unlock (s : Contention) (token : Nat) (h : LockHandle) : Option Answer × Contention :=
  let (result, h, r) := s.registry.unlock h
  (some (.unlocked token result), { s with registry := r }.set token (.idle h))

def step (s : Contention) : Event → Option Answer × Contention
  | .obtain key =>
    let (h, r) := s.registry.obtain key
    (none, { s with registry := r }.set h.token (.idle h))
  | .enter token timeout =>
    match s.contenders.find? token with
    | some (.idle h) => s.enter token h timeout
    | _ => (none, s)
  | .look token =>
    match s.contenders.find? token with
    | some (.waiting w) => s.lookOnce token w
    | _ => (none, s)
  | .unlock token =>
    match s.contenders.find? token with
    | some (.idle h) => s.unlock token h
    | _ => (none, s)
  | .interrupt => (none, { s with registry := s.registry.interrupt })
  | .failing n => (none, { s with registry := s.registry.failing n })
  | .advance d => (none, { s with registry := s.registry.advance d })

def run (s : Contention) (es : List Event) : Contention := es.foldl (fun s e => (s.step e).2) s

def keyOf (s : Contention) (token : Nat) : Option String :=
  (s.contenders.find? token).map (·.handle.key)

def holder (s : Contention) (key : String) : Option LockHolder := s.registry.held.find? key

def now (s : Contention) : Nat := s.registry.now

end Contention

end KeyedDelivery
