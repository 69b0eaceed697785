import KeyedDelivery.Lock.Event
import KeyedDelivery.Lock.Mutex

/-!
# Locks that are taken in company

A source of locks for code that is not alone: each time that a call waits for a lock, others act on
the same registry, with handles of their own. They may take, release and interrupt, and let time
pass. What they do while calls wait is told beforehand (`Company.others`); when there is nothing left
of it, a call waits with nobody else acting.

Whatever happens to the locks is an event of `Contention`.
-/

namespace KeyedDelivery

/-- The locks of one registry, with a world of states `τ`. -/
structure Company (τ : Type) where
  locks : Contention
  /-- The tokens of the handles on this side. -/
  own : List Nat := []
  /-- What the others do, one list for each time that a call waits. -/
  others : List (List Contention.Event) := []
  world : τ
  deriving Repr

/-- A handle after an attempt to take its lock. -/
def LockHandle.after (h : LockHandle) : Outcome (Except LockError Bool) → LockHandle
  | .returned (.ok true) => { h with held := true }
  | _ => h

namespace Company

variable {τ υ α : Type}

/-- Others do not act with the handles on this side. -/
def Foreign (s : Company τ) (e : Contention.Event) : Prop := ∀ n ∈ s.own, e.actor ≠ some n

instance (s : Company τ) : DecidablePred s.Foreign := fun _ => List.decidableBAll _ _

/-- Others act. -/
def meanwhile (s : Company τ) (es : List Contention.Event) : Company τ :=
  { s with locks := s.locks.run (es.filter s.Foreign) }

/-- The same locks beside another world. -/
def withWorld (s : Company τ) (w : υ) : Company υ := ⟨s.locks, s.own, s.others, w⟩

def obtained (s : Company τ) (key : String) : Company τ :=
  { s with
    locks := (s.locks.step (.obtain key)).2, own := s.locks.registry.nextToken :: s.own }

/-- A waiting handle has looked. -/
def looked (s : Company τ) (w : LockRegistry.Waiter) : Company τ :=
  { s with locks := (s.locks.lookOnce w.handle.token w).2 }

-- The equation's name is used by `decreasing_by` only, which the linter does not see.
set_option linter.unusedVariables false in
/-- Waits to the end. -/
def wait (w : LockRegistry.Waiter) (s : Company τ) :
    Outcome (Except LockError Bool) × Company τ :=
  match h : s.locks.registry.look w with
  | .granted => (.returned (.ok true), s.looked w)
  | .overflowed => (.panicked LockRegistry.overflow, s.looked w)
  | .interrupted => (.returned (.error (.interrupted w.handle.key)), s.looked w)
  | .timedOut => (.returned (.ok false), s.looked w)
  | .waits wake =>
    match ho : s.others with
    | es :: others => wait w ({ s with others }.meanwhile es)
    | [] => wait w { s with locks := (s.locks.step (.advance (wake - s.locks.now))).2 }
termination_by (s.others.length, w.deadline - s.locks.now)
decreasing_by
  · left
    show others.length < s.others.length
    rw [ho]
    exact Nat.lt_succ_self _
  · have := LockRegistry.lt_of_look_waits h
    rw [ho]
    right
    show w.deadline - (s.locks.registry.now + (wake - s.locks.registry.now)) <
      w.deadline - s.locks.registry.now
    omega

def tryLock (timeout : Nat) (h : LockHandle) (s : Company τ) :
    Outcome (Except LockError Bool) × LockHandle × Company τ :=
  match s.locks.registry.beginWait h timeout s.locks.lastReading with
  | (.panicked p, registry) => (.panicked p, h, { s with locks := { s.locks with registry } })
  | (.returned (.error e), registry) =>
    (.returned (.error e), h, { s with locks := { s.locks with registry } })
  | (.returned (.ok w), registry) =>
    let (answer, s) :=
      wait w { s with locks := { s.locks with registry }.set h.token (.waiting w) }
    (answer, h.after answer, s)

def unlock (h : LockHandle) (s : Company τ) : Except LockError Unit × LockHandle × Company τ :=
  let (answer, free, _) := s.locks.registry.unlock h
  (answer, free, { s with locks := (s.locks.unlock h.token h).2 })

def service : LockService (Company τ) LockHandle where
  obtain key s := (.ok (s.locks.registry.obtain key).1, s.obtained key)
  tryLock := tryLock
  unlock := unlock

/-- The locks, waited for up to a time when nothing else is said. -/
def mutex (timeout : Nat) : LockMutex (Company τ) LockHandle :=
  { service, defaultTimeout := timeout }

/-! ### What code under a lock does -/

/-- The same company with notes beside its world. -/
def withNotes (s : Company τ) (notes : List (Company τ)) : Company (τ × List (Company τ)) :=
  s.withWorld (s.world, notes)

/-- A piece of code that also notes in which states it was begun. -/
def noting (action : Company τ → Outcome α × Company τ)
    (s : Company (τ × List (Company τ))) : Outcome α × Company (τ × List (Company τ)) :=
  let before := s.withWorld s.world.1
  let (outcome, after) := action before
  (outcome, after.withNotes (s.world.2 ++ [before]))

end Company

end KeyedDelivery
