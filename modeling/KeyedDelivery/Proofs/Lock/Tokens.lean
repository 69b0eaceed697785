import KeyedDelivery.Lock.Mutex
import KeyedDelivery.Proofs.Lock.Attempt
import KeyedDelivery.Proofs.Lock.Exclusion

/-!
# A lock that is taken and released leaves no record

Every handle has a token that was never handed out before. A record with this token is entered by a
granted attempt only, for the key of the handle, and the release that follows takes it out.

* **`Fresh`** — no record has a token that is still to be handed out; so it is after every run of
  any handles (`fresh_run`).
* **`tryLock_cases`** — an attempt enters the handle for its key, or changes no record.
* **`lacks_unlock`** — after the release of a granted handle no record has its token.
-/

namespace KeyedDelivery.LockRegistry

variable {r r' : LockRegistry}

/-- Every record has a token that was handed out. -/
def Fresh (r : LockRegistry) : Prop := ∀ key x, r.held.find? key = some x → x.token < r.nextToken

/-- No record has this token. -/
def Lacks (r : LockRegistry) (token : Nat) : Prop :=
  ∀ key x, r.held.find? key = some x → x.token ≠ token

theorem Lacks.congr {token : Nat} (h : r.Lacks token) (hheld : r'.held = r.held) :
    r'.Lacks token := by
  unfold Lacks
  rwa [hheld]

theorem Fresh.lacks (h : r.Fresh) : r.Lacks r.nextToken :=
  fun key x hx => Nat.ne_of_lt (h key x hx)

/-- **The tokens in every registry that is reached were handed out**, whatever its handles did. -/
theorem fresh_run (c : LockConfig) (es : List Contention.Event) :
    ((Contention.start c).run es).registry.Fresh := by
  intro key x hx
  obtain ⟨issued, entered⟩ := Contention.orderly_run c es
  obtain ⟨contender, hfind, -⟩ := Option.map_eq_some_iff.mp (entered key x hx)
  exact issued.below x.token contender hfind

/-! ## Attempts -/

/-- How an attempt of a handle ends: it is entered for its key, or no record has changed. By a clock
that has a greatest reading it may also panic, which changes no record. -/
inductive Tried (last : Option Nat) (r : LockRegistry) (h : LockHandle) : Ended → Prop where
  | granted {r' : LockRegistry} (expiresAt : Nat)
      (held : r'.held = r.held.put h.key ⟨h.token, expiresAt⟩) :
      Tried last r h (.returned (.ok true), { h with held := true }, r')
  | timedOut {r' : LockRegistry} (held : r'.held = r.held) :
      Tried last r h (.returned (.ok false), h, r')
  | failed {r' : LockRegistry} (e : LockError) (held : r'.held = r.held) :
      Tried last r h (.returned (.error e), h, r')
  | panicked {r' : LockRegistry} (limited : last ≠ none) (held : r'.held = r.held) :
      Tried last r h (.panicked overflow, h, r')

/-- It matters only which records there were at the beginning. -/
theorem Tried.of_held {last : Option Nat} {h : LockHandle} {ended : Ended}
    (tried : Tried last r' h ended) (hheld : r'.held = r.held) : Tried last r h ended := by
  cases tried with
  | granted expiresAt held => exact .granted expiresAt (hheld ▸ held)
  | timedOut held => exact .timedOut (held.trans hheld)
  | failed e held => exact .failed e (held.trans hheld)
  | panicked limited held => exact .panicked limited (held.trans hheld)

/-- A wait ends so; induction on the time that is left. -/
theorem await_cases (r : LockRegistry) (w : Waiter) : Tried w.last r w.handle (r.await w) := by
  induction hleft : w.deadline - r.now using Nat.strongRecOn generalizing r with
  | ind left ih =>
    rw [await_eq]
    cases hlook : r.look w with
    | granted => exact .granted _ rfl
    | overflowed => exact .panicked (last_ne_none_of_look hlook) rfl
    | interrupted => exact .failed _ rfl
    | timedOut => exact .timedOut rfl
    | waits wake =>
      obtain ⟨hnow, hdeadline⟩ := lt_of_look_waits hlook
      have hless : w.deadline - wake < left := by omega
      -- only the clock has moved until the next look
      exact (ih _ hless { r with now := wake } rfl).of_held rfl

/-- **An attempt ends so.** -/
theorem tryLock_cases (r : LockRegistry) (h : LockHandle) (timeout : Nat) (last : Option Nat) :
    Tried last r h (r.tryLock h timeout last) := by
  unfold tryLock
  rcases r.beginWait_cases h timeout last with ⟨limited, hbegin⟩ | ⟨e, failNext, hbegin⟩ | hbegin
  · rw [hbegin]
    exact .panicked limited rfl
  · rw [hbegin]
    exact .failed e rfl
  · rw [hbegin]
    exact r.await_cases ⟨h, r.epoch, r.now + timeout, last⟩

/-! ## Release -/

/-- **The release of a granted handle takes its record out**, also when the lock has expired. -/
theorem lacks_unlock {h : LockHandle} {expiresAt : Nat} (hlacks : r.Lacks h.token)
    (hheld : r'.held = r.held.put h.key ⟨h.token, expiresAt⟩) :
    (r'.unlock { h with held := true }).2.2.Lacks h.token := by
  have hfind : r'.held.find? h.key = some ⟨h.token, expiresAt⟩ := by
    rw [hheld, Table.find?_put_self]
  have hunlock : (r'.unlock { h with held := true }).2.2.held = r'.held.erase h.key := by
    simp [unlock, hfind]
  -- the record of the key is gone, and no other key had one with the token
  intro key x hx
  rw [hunlock, Table.find?_erase] at hx
  split at hx
  · cases hx
  · next hne =>
    rw [hheld, Table.find?_put, if_neg hne] at hx
    exact hlacks key x hx

end KeyedDelivery.LockRegistry
