import KeyedDelivery.Config.Lock
import KeyedDelivery.Lock.Error
import KeyedDelivery.Outcome
import KeyedDelivery.Table

/-!
# Lock registry

Named locks that expire. Every handle has a token of its own, and a lock is released only with the
token that took it. A lock whose expiry is not after the clock is free.

* `LockRegistry.look` is one look of a waiting handle: it is granted the lock, is interrupted, gives
  up, or has to wait until a later reading of the clock.
* `LockRegistry.tryLock` waits, with nobody else acting: the clock moves from look to look.
* `LockRegistry.unlock` releases with the handle's own token only.

A clock may have a greatest reading. An attempt whose deadline lies beyond it panics before anything
else, and a look that would grant a lock beyond it panics instead. Where nothing is said of the clock it
goes on without end.
-/

namespace KeyedDelivery

/-- Who holds a lock, and until when. -/
structure LockHolder where
  token : Nat
  expiresAt : Nat
  deriving DecidableEq, Repr

/-- The locks of one namespace, and the clock they are read by. -/
structure LockRegistry where
  /-- The namespace. -/
  registryKey : String
  expireAfter : Nat
  held : Table String LockHolder := []
  /-- How often waiting handles were interrupted. -/
  epoch : Nat := 0
  /-- How many of the next attempts fail. -/
  failNext : Nat := 0
  /-- The token of the next handle. -/
  nextToken : Nat := 0
  now : Nat := 0
  deriving Repr

/-- One owner's handle on a lock. -/
structure LockHandle where
  key : String
  token : Nat
  /-- Whether the handle was granted the lock and has not released it. -/
  held : Bool := false
  deriving DecidableEq, Repr

namespace LockRegistry

/-- The registry of the given settings, with nothing held. -/
def ofConfig (c : LockConfig) : LockRegistry :=
  { registryKey := c.registryKey, expireAfter := c.expireAfter }

def fullKey (r : LockRegistry) (key : String) : String := r.registryKey ++ ":" ++ key

/-- Whether a key is held and has not expired. -/
def isLocked (r : LockRegistry) (key : String) : Bool :=
  match r.held.find? (r.fullKey key) with
  | none => false
  | some h => r.now < h.expiresAt

def advance (r : LockRegistry) (d : Nat) : LockRegistry := { r with now := r.now + d }

def interrupt (r : LockRegistry) : LockRegistry := { r with epoch := r.epoch + 1 }

/-- Makes the next `n` attempts fail. -/
def failing (r : LockRegistry) (n : Nat) : LockRegistry := { r with failNext := n }

def obtain (r : LockRegistry) (key : String) : LockHandle × LockRegistry :=
  ({ key := r.fullKey key, token := r.nextToken }, { r with nextToken := r.nextToken + 1 })

/-! ### Taking a lock -/

/-- Whether a handle can take its lock now: nobody holds it, it has expired, or the handle holds
it. -/
def isFree (r : LockRegistry) (h : LockHandle) : Bool :=
  match r.held.find? h.key with
  | none => true
  | some holder => holder.expiresAt ≤ r.now || holder.token == h.token

/-- Enters a handle as the holder of its lock. A handle is granted its lock only when the clock has
the reading at which the lock expires (`look`). -/
def grant (r : LockRegistry) (h : LockHandle) : LockRegistry :=
  { r with held := r.held.put h.key ⟨h.token, r.now + r.expireAfter⟩ }

/-- A handle that waits: what it had seen of interrupts when it began, and when it gives up. -/
structure Waiter where
  handle : LockHandle
  epoch : Nat
  deadline : Nat
  /-- The greatest reading of the clock it waits by. -/
  last : Option Nat := none
  deriving DecidableEq, Repr

/-- What a waiting handle sees. -/
inductive Look where
  | granted
  /-- The lock is free, but the clock does not have the reading at which it would expire. -/
  | overflowed
  | interrupted
  | timedOut
  | waits (wake : Nat)
  deriving DecidableEq, Repr

/-- One look of a waiting handle. One that waits looks again when its time has run out or the
holder's lock expires. -/
def look (r : LockRegistry) (w : Waiter) : Look :=
  if r.isFree w.handle then
    if Time.reaches w.last (r.now + r.expireAfter) then .granted else .overflowed
  else if r.epoch ≠ w.epoch then .interrupted
  else if w.deadline ≤ r.now then .timedOut
  else match r.held.find? w.handle.key with
    | none => .waits w.deadline
    | some holder => .waits (min w.deadline holder.expiresAt)

/-- What an attempt panics with when the clock does not have a reading. -/
def overflow : PanicPayload := .text "overflow when adding duration to instant"

/-- Begins to wait, unless the attempt is made to fail. Before that the deadline is computed, which
panics when the clock does not have it. -/
def beginWait (r : LockRegistry) (h : LockHandle) (timeout : Nat) (last : Option Nat := none) :
    Outcome (Except LockError Waiter) × LockRegistry :=
  if !Time.reaches last (r.now + timeout) then (.panicked overflow, r)
  else if 0 < r.failNext then
    (.returned (.error (.backend "injected acquire failure")), { r with failNext := r.failNext - 1 })
  else (.returned (.ok ⟨h, r.epoch, r.now + timeout, last⟩), r)

/-- How a wait ended: the answer if there is one, the handle, and the registry. -/
abbrev Ended := Outcome (Except LockError Bool) × LockHandle × LockRegistry

/-- A later look finds less time left. -/
theorem lt_of_look_waits {r : LockRegistry} {w : Waiter} {wake : Nat}
    (h : r.look w = .waits wake) : r.now < wake ∧ wake ≤ w.deadline := by
  unfold look at h
  split at h
  · split at h <;> simp at h
  · rename_i hf
    split at h
    · simp at h
    · split at h
      · simp at h
      · rename_i hd
        split at h
        · simp at h; subst h; exact ⟨by omega, Nat.le_refl _⟩
        · rename_i holder hk
          simp at h
          simp [isFree, hk] at hf
          subst h
          omega

-- The equation's name is used by `decreasing_by` only, which the linter does not see.
set_option linter.unusedVariables false in
/-- Waits to the end, with nobody else acting. -/
def await (r : LockRegistry) (w : Waiter) : Ended :=
  match h : r.look w with
  | .granted => (.returned (.ok true), { w.handle with held := true }, r.grant w.handle)
  | .overflowed => (.panicked overflow, w.handle, r)
  | .interrupted => (.returned (.error (.interrupted w.handle.key)), w.handle, r)
  | .timedOut => (.returned (.ok false), w.handle, r)
  | .waits wake => await { r with now := wake } w
termination_by w.deadline - r.now
decreasing_by
  have := lt_of_look_waits h
  omega

/-- Tries to take a lock for up to `timeout`, with nobody else acting. -/
def tryLock (r : LockRegistry) (h : LockHandle) (timeout : Nat) (last : Option Nat := none) :
    Ended :=
  match r.beginWait h timeout last with
  | (.panicked p, r) => (.panicked p, h, r)
  | (.returned (.error e), r) => (.returned (.error e), h, r)
  | (.returned (.ok w), r) => r.await w

/-! ### Releasing a lock -/

/-- Releases a lock that the handle was granted. It fails when the lock has gone to another owner
by then. -/
def unlock (r : LockRegistry) (h : LockHandle) : Except LockError Unit × LockHandle × LockRegistry :=
  if !h.held then (.error (.notHeld h.key), h, r)
  else
    let free := { h with held := false }
    match r.held.find? h.key with
    | some holder =>
      if holder.token = h.token then (.ok (), free, { r with held := r.held.erase h.key })
      else (.error (.notHeld h.key), free, r)
    | none => (.error (.notHeld h.key), free, r)

end LockRegistry

end KeyedDelivery
