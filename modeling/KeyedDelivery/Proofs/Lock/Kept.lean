import KeyedDelivery.Proofs.Lock.Tokens

/-!
# What is left of the other locks

With nobody else acting, a handle that takes its lock and releases it leaves the locks as if only time
had passed: those that others hold are held until they expire, and no others are.

* **`Kept`** — only time has passed, as far as the locks are held; **`Kept.trans`** composes.
* **`Course`** — how an attempt with nobody else acting goes: it is made to fail, it finds the lock
  free at some reading of the clock, or busy until its time has run out (`course_of_tryLock`).
* **`kept_released`** — taking a lock that is free, and releasing it, keeps the locks.
-/

namespace KeyedDelivery.LockRegistry

variable {r r' r'' : LockRegistry}

/-- The holder of a full key, if its lock has not expired at a reading of the clock. -/
def holderAt (r : LockRegistry) (n : Nat) (key : String) : Option LockHolder :=
  (r.held.find? key).filter (n < ·.expiresAt)

/-- A lock counts as taken when there is a holder at the present reading. -/
theorem isLocked_eq (r : LockRegistry) (key : String) :
    r.isLocked key = (r.holderAt r.now (r.fullKey key)).isSome := by
  unfold isLocked holderAt
  cases r.held.find? (r.fullKey key) with
  | none => rfl
  | some x => by_cases h : r.now < x.expiresAt <;> simp [h]

/-- Of the locks that are held now, those that have not expired are held later. -/
theorem holderAt_later {n n' : Nat} (h : n ≤ n') (key : String) :
    r.holderAt n' key = (r.holderAt n key).filter (n' < ·.expiresAt) := by
  have hlive (x : LockHolder) : decide (n' < x.expiresAt) =
      (decide (n < x.expiresAt) && decide (n' < x.expiresAt)) := by
    rw [← Bool.decide_and]
    exact decide_eq_decide.mpr ⟨fun hlive => ⟨Nat.lt_of_le_of_lt h hlive, hlive⟩, And.right⟩
  rw [holderAt, holderAt, Option.filter_filter]
  exact congrArg (Option.filter · _) (funext hlive)

/-! ## Only time has passed -/

/-- Only time has passed from one registry to another, as far as the locks are held. -/
structure Kept (r r' : LockRegistry) : Prop where
  registryKey : r'.registryKey = r.registryKey
  later : r.now ≤ r'.now
  fresh : r'.Fresh
  holders : ∀ key, r'.holderAt r'.now key = r.holderAt r'.now key

namespace Kept

theorem refl (fresh : r.Fresh) : Kept r r := ⟨rfl, Nat.le_refl _, fresh, fun _ => rfl⟩

theorem trans (h : Kept r r') (h' : Kept r' r'') : Kept r r'' where
  registryKey := h'.registryKey.trans h.registryKey
  later := Nat.le_trans h.later h'.later
  fresh := h'.fresh
  holders key := by
    rw [h'.holders, holderAt_later h'.later, h.holders, ← holderAt_later h'.later]

/-- The records may stay as they are while the clock goes on and handles are handed out. -/
theorem of_held (fresh : r.Fresh) (hkey : r'.registryKey = r.registryKey) (later : r.now ≤ r'.now)
    (hheld : r'.held = r.held) (hnext : r.nextToken ≤ r'.nextToken) : Kept r r' where
  registryKey := hkey
  later := later
  fresh key x hx := Nat.lt_of_lt_of_le (fresh key x (hheld ▸ hx)) hnext
  holders key := by rw [holderAt, hheld, holderAt]

/-- What is held afterwards is what would be held if only time had passed. -/
theorem isLocked (h : Kept r r') (key : String) :
    r'.isLocked key = { r with now := r'.now }.isLocked key := by
  rw [isLocked_eq, isLocked_eq, h.holders, fullKey, h.registryKey]
  rfl

end Kept

/-- When time passes, nothing else happens. -/
theorem kept_advance (fresh : r.Fresh) (d : Nat) : Kept r (r.advance d) :=
  .of_held fresh rfl (Nat.le_add_right _ _) rfl (Nat.le_refl _)

/-- No lock that is held expires up to a reading of the clock. -/
def Unexpired (r : LockRegistry) (n : Nat) : Prop :=
  ∀ key x, r.held.find? key = some x → r.now < x.expiresAt → n < x.expiresAt

theorem Unexpired.mono {n n' : Nat} (h : r.Unexpired n') (hn : n ≤ n') : r.Unexpired n :=
  fun key x hx hlive => Nat.lt_of_le_of_lt hn (h key x hx hlive)

/-- Until then the same locks are held. -/
theorem Unexpired.holderAt {n : Nat} (h : r.Unexpired n) (hn : r.now ≤ n) (key : String) :
    r.holderAt n key = r.holderAt r.now key := by
  unfold LockRegistry.holderAt
  cases hx : r.held.find? key with
  | none => rfl
  | some x =>
    have hlive : n < x.expiresAt ↔ r.now < x.expiresAt :=
      ⟨Nat.lt_of_le_of_lt hn, h key x hx⟩
    simp only [Option.filter_some, hlive]

/-- Until then what is held is what was held before. -/
theorem Kept.isLocked_of_unexpired (h : Kept r r') (unexpired : r.Unexpired r'.now) (key : String) :
    r'.isLocked key = r.isLocked key := by
  rw [h.isLocked, isLocked_eq, isLocked_eq, ← unexpired.holderAt h.later]
  rfl

/-! ## Attempts -/

/-- How an attempt with nobody else acting goes, on a clock without end. -/
inductive Course (r : LockRegistry) (h : LockHandle) : Ended → Prop where
  /-- It is made to fail. -/
  | failed (e : LockError) (injected : 0 < r.failNext) :
      Course r h (.returned (.error e), h, { r with failNext := r.failNext - 1 })
  /-- It finds the lock free at a reading of the clock. -/
  | granted (n : Nat) (later : r.now ≤ n) (uninjected : r.failNext = 0)
      (free : { r with now := n }.isFree h = true) :
      Course r h (.returned (.ok true), { h with held := true }, { r with now := n }.grant h)
  /-- It finds the lock busy when its time has run out. -/
  | timedOut (n : Nat) (later : r.now ≤ n) (uninjected : r.failNext = 0)
      (busy : { r with now := n }.isFree h = false) :
      Course r h (.returned (.ok false), h, { r with now := n })

/-- Only the clock may move before. -/
theorem Course.after {h : LockHandle} {n : Nat} {ended : Ended} (hn : r.now ≤ n)
    (course : Course { r with now := n } h ended) (uninjected : r.failNext = 0) :
    Course r h ended := by
  cases course with
  | failed e injected => exact absurd uninjected (Nat.ne_of_gt injected)
  | granted m later _ free => exact .granted m (Nat.le_trans hn later) uninjected free
  | timedOut m later _ busy => exact .timedOut m (Nat.le_trans hn later) uninjected busy

/-- A wait goes so, as nobody interrupts it; induction on the time that is left. -/
theorem course_of_await (r : LockRegistry) (h : LockHandle) (deadline : Nat)
    (uninjected : r.failNext = 0) : Course r h (r.await ⟨h, r.epoch, deadline, none⟩) := by
  -- the time left decreases: a wait that goes on wakes at a later reading, within the deadline
  induction hleft : deadline - r.now using Nat.strongRecOn generalizing r with
  | ind left ih =>
    rw [await_eq]
    cases hlook : r.look ⟨h, r.epoch, deadline, none⟩ with
    | granted => exact .granted r.now (Nat.le_refl _) uninjected (isFree_of_look hlook)
    | overflowed => exact absurd rfl (last_ne_none_of_look hlook)
    -- nobody interrupts: the epoch is that of the registry at the start, and stays
    | interrupted =>
      unfold look at hlook
      split at hlook
      · cases hlook
      · rw [if_neg fun hne => hne rfl] at hlook
        split at hlook
        · cases hlook
        · split at hlook <;> cases hlook
    | timedOut =>
      refine .timedOut r.now (Nat.le_refl _) uninjected ?_
      unfold look at hlook
      split at hlook
      · cases hlook
      · next hbusy => simpa using hbusy
    | waits wake =>
      obtain ⟨hnow, hdeadline⟩ := lt_of_look_waits hlook
      have hless : deadline - wake < left := by
        have hdeadline : wake ≤ deadline := hdeadline
        omega
      exact (ih _ hless { r with now := wake } uninjected rfl).after (Nat.le_of_lt hnow) uninjected

/-- **An attempt with nobody else acting goes so.** -/
theorem course_of_tryLock (r : LockRegistry) (h : LockHandle) (timeout : Nat) :
    Course r h (r.tryLock h timeout) := by
  by_cases injected : 0 < r.failNext
  · have hbegin : r.beginWait h timeout = (.returned (.error (.backend "injected acquire failure")),
        { r with failNext := r.failNext - 1 }) := by
      rw [beginWait, Time.reaches_none, if_neg (by simp), if_pos injected]
    rw [tryLock, hbegin]
    exact .failed _ injected
  · -- without an injected failure the attempt is its wait
    have uninjected : r.failNext = 0 := by omega
    rw [tryLock, beginWait_eq (Time.reaches_none _) uninjected]
    exact course_of_await r h _ uninjected

/-! ## A lock that is taken and released -/

/-- A new handle finds its lock free when nobody holds it. -/
theorem holderAt_of_isFree {h : LockHandle} (lacks : r.Lacks h.token) (free : r.isFree h = true) :
    r.holderAt r.now h.key = none := by
  unfold holderAt
  cases hx : r.held.find? h.key with
  | none => rfl
  | some x =>
    rcases of_isFree free hx with hexpired | hown
    · simp [hexpired]
    · exact absurd hown (lacks _ _ hx)

/-- A handle that finds its lock busy finds a holder. -/
theorem holderAt_of_busy {h : LockHandle} (busy : r.isFree h = false) :
    (r.holderAt r.now h.key).isSome := by
  unfold isFree at busy
  unfold holderAt
  cases hx : r.held.find? h.key with
  | none => rw [hx] at busy; cases busy
  | some x =>
    rw [hx] at busy
    simp only [Bool.or_eq_false_iff, decide_eq_false_iff_not, Nat.not_le] at busy
    simp [busy.1]

/-- The registry after the lock of a handle was taken at a reading of the clock, some time has passed,
and the lock is released again. -/
def released (r : LockRegistry) (h : LockHandle) (n d : Nat) : LockRegistry :=
  ((({ r with now := n }.grant h).advance d).unlock { h with held := true }).2.2

/-- The record that was entered is taken out again, and nothing else is touched. -/
theorem released_eq (r : LockRegistry) (h : LockHandle) (n d : Nat) :
    r.released h n d = { r with
      now := n + d
      held := (r.held.put h.key ⟨h.token, n + r.expireAfter⟩).erase h.key } := by
  simp [released, unlock, grant, advance]

/-- **A lock that is taken and released is kept free**, and the others as they are. -/
theorem kept_released {h : LockHandle} (fresh : r.Fresh) (lacks : r.Lacks h.token) {n : Nat}
    (later : r.now ≤ n) (free : { r with now := n }.isFree h = true) (d : Nat) :
    Kept r (r.released h n d) := by
  have hfind (key : String) : (r.released h n d).held.find? key =
      if h.key = key then none else r.held.find? key := by
    rw [released_eq, Table.find?_erase]
    split
    · rfl
    · next hne => rw [Table.find?_put, if_neg hne]
  have hnow : (r.released h n d).now = n + d := by rw [released_eq]
  refine ⟨by rw [released_eq], by omega, fun key x hx => ?_, fun key => ?_⟩
  · rw [hfind] at hx
    split at hx
    · cases hx
    · rw [released_eq]
      exact fresh key x hx
  · rw [hnow, holderAt, hfind]
    split
    · next hkey =>
      -- the lock was free when it was taken, and so it would be now
      have hfree : r.holderAt n h.key = none :=
        holderAt_of_isFree (r := { r with now := n }) lacks free
      rw [← hkey, holderAt_later (Nat.le_add_right n d), hfree, Option.filter_none]
    · rfl

end KeyedDelivery.LockRegistry
