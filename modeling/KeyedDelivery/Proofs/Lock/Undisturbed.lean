import KeyedDelivery.Proofs.Lock.Tokens

/-!
# An attempt that nobody disturbs

A new handle tries to take a lock while no other handle acts. What is left of the holder's time
decides: the handle is granted the lock when this runs out, unless its own time runs out before. By a
clock that has a greatest reading, the attempt panics when the reading at which it gives up, or the one
at which the lock would expire, is not among those of the clock.

* **`remaining`** — what is left of the holder's time; nothing of it exactly if the lock is not held
  (`isLocked_eq_remaining`).
* **`look_later`** — what the handle sees at any later reading of the clock.
* **`tryLock_eq`** — the whole attempt: it ends at its first look or at the one it waits for.
* **`tryLock_undisturbed`** — when an attempt returns, what it answers, and how long it waited.
-/

namespace KeyedDelivery.LockRegistry

variable {r : LockRegistry} {h : LockHandle} {key : String}

/-- What is left until the lock of a key expires: nothing when nobody holds it. -/
def remaining (r : LockRegistry) (key : String) : Nat :=
  match r.held.find? (r.fullKey key) with
  | none => 0
  | some x => x.expiresAt - r.now

theorem isLocked_eq_remaining (r : LockRegistry) (key : String) :
    r.isLocked key = decide (0 < r.remaining key) := by
  unfold isLocked remaining
  cases r.held.find? (r.fullKey key) with
  | none => rfl
  | some x => exact decide_eq_decide.mpr Nat.sub_pos_iff_lt.symm

/-- The handle as the waiter that it becomes, before anything happens. -/
def waiter (r : LockRegistry) (h : LockHandle) (timeout : Nat) (last : Option Nat) : Waiter :=
  ⟨h, r.epoch, r.now + timeout, last⟩

/-- A lock that another handle holds is free from the reading on at which it expires. -/
theorem isFree_later (hkey : h.key = r.fullKey key) (lacks : r.Lacks h.token) {n : Nat}
    (later : r.now ≤ n) :
    { r with now := n }.isFree h = decide (r.now + r.remaining key ≤ n) := by
  unfold isFree remaining
  dsimp only
  rw [hkey]
  cases hfind : r.held.find? (r.fullKey key) with
  | none => simp [later]
  | some x =>
    -- the record of another handle: only its expiry makes the lock free
    have hother : (x.token == h.token) = false := beq_false_of_ne (lacks _ _ hfind)
    have hexpired : x.expiresAt ≤ n ↔ r.now + (x.expiresAt - r.now) ≤ n := by omega
    simp only [hother, Bool.or_false, hexpired]

/-- **What a waiting handle sees later on.** The lock is free from the reading on at which it
expires, and the time of the handle has run out from its deadline on. Until then it waits for the
earlier of the two, however often it looks. -/
theorem look_later (hkey : h.key = r.fullKey key) (lacks : r.Lacks h.token) (timeout : Nat)
    (last : Option Nat) {n : Nat} (later : r.now ≤ n) :
    { r with now := n }.look (r.waiter h timeout last) =
      if r.now + r.remaining key ≤ n then
        if Time.reaches last (n + r.expireAfter) then .granted else .overflowed
      else if r.now + timeout ≤ n then .timedOut
      else .waits (r.now + min timeout (r.remaining key)) := by
  -- the look at the later reading, with the epoch unchanged and the deadline written out
  have hlook : { r with now := n }.look (r.waiter h timeout last) =
      if { r with now := n }.isFree h then
        if Time.reaches last (n + r.expireAfter) then .granted else .overflowed
      else if r.epoch ≠ r.epoch then .interrupted
      else if r.now + timeout ≤ n then .timedOut
      else match r.held.find? h.key with
        | none => .waits (r.now + timeout)
        | some x => .waits (min (r.now + timeout) x.expiresAt) := rfl
  rw [hlook, isFree_later hkey lacks later, if_neg (not_not_intro rfl), hkey]
  simp only [decide_eq_true_eq]
  split
  · rfl
  · next hlive =>
    rw [remaining] at hlive ⊢
    cases hfind : r.held.find? (r.fullKey key) with
    | none => simp [hfind, later] at hlive
    | some x =>
      simp only [hfind] at hlive
      -- the earlier of the deadline and the expiry, as a distance from the start of the wait
      have hwake : min (r.now + timeout) x.expiresAt =
          r.now + min timeout (x.expiresAt - r.now) := by omega
      simp only [hwake]

/-- How an attempt ends that finds its lock free. -/
def ending (r : LockRegistry) (h : LockHandle) (last : Option Nat) : Ended :=
  if Time.reaches last (r.now + r.expireAfter) then
    (.returned (.ok true), { h with held := true }, r.grant h)
  else (.panicked overflow, h, r)

theorem await_of_isFree {w : Waiter} (hfree : r.isFree w.handle = true) :
    r.await w = r.ending w.handle w.last := by
  rw [await_eq, ending]
  cases hreaches : Time.reaches w.last (r.now + r.expireAfter) with
  | true => rw [look_eq_granted_iff.mpr ⟨hfree, hreaches⟩, if_pos rfl]
  | false => rw [look_eq_overflowed_iff.mpr ⟨hfree, hreaches⟩, if_neg Bool.false_ne_true]

/-- **How a wait ends.** The second look is the last: it is made when the lock expires or the time of
the handle runs out. -/
theorem await_waiter (hkey : h.key = r.fullKey key) (lacks : r.Lacks h.token) (timeout : Nat)
    (last : Option Nat) :
    r.await (r.waiter h timeout last) =
      if r.remaining key ≤ timeout then { r with now := r.now + r.remaining key }.ending h last
      else (.returned (.ok false), h, { r with now := r.now + timeout }) := by
  have hlook {n : Nat} (later : r.now ≤ n) := look_later hkey lacks timeout last later
  have hexpired : { r with now := r.now + r.remaining key }.isFree h = true := by
    rw [isFree_later hkey lacks (Nat.le_add_right _ _), decide_eq_true (Nat.le_refl _)]
  by_cases hfree : r.remaining key = 0
  · -- the first look finds the lock free
    rw [hfree] at hexpired ⊢
    rw [if_pos (Nat.zero_le _)]
    exact await_of_isFree (w := r.waiter h timeout last) hexpired
  rw [await_eq, hlook (Nat.le_refl _), if_neg (by omega)]
  by_cases hnone : timeout = 0
  · -- the first look finds it busy, and there is no time to wait
    rw [if_pos (by omega), if_neg (by omega), hnone]
    rfl
  rw [if_neg (by omega)]
  dsimp only
  by_cases hexpires : r.remaining key ≤ timeout
  · rw [Nat.min_eq_right hexpires, if_pos hexpires]
    exact await_of_isFree (w := r.waiter h timeout last) hexpired
  · rw [Nat.min_eq_left (by omega), await_eq, hlook (Nat.le_add_right _ _), if_neg (by omega),
      if_pos (Nat.le_refl _), if_neg hexpires]
    rfl

theorem tryLock_eq (uninjected : r.failNext = 0) (hkey : h.key = r.fullKey key)
    (lacks : r.Lacks h.token) (timeout : Nat) (last : Option Nat) :
    r.tryLock h timeout last =
      if Time.reaches last (r.now + timeout) then
        if r.remaining key ≤ timeout then { r with now := r.now + r.remaining key }.ending h last
        else (.returned (.ok false), h, { r with now := r.now + timeout })
      else (.panicked overflow, h, r) := by
  rw [tryLock]
  cases hdeadline : Time.reaches last (r.now + timeout) with
  | false =>
    rw [beginWait_of_beyond hdeadline]
    rfl
  | true =>
    rw [beginWait_eq hdeadline uninjected]
    exact await_waiter hkey lacks timeout last

/-- How often waiting handles were interrupted before plays no part in an attempt. -/
theorem tryLock_epoch (uninjected : r.failNext = 0) (hkey : h.key = r.fullKey key)
    (lacks : r.Lacks h.token) (timeout : Nat) (last : Option Nat) (epoch : Nat) :
    let ended := r.tryLock h timeout last
    { r with epoch }.tryLock h timeout last = (ended.1, ended.2.1, { ended.2.2 with epoch }) := by
  intro ended
  have heq : ended = _ := tryLock_eq uninjected hkey lacks timeout last
  have hepoch : { r with epoch }.tryLock h timeout last =
      if Time.reaches last (r.now + timeout) then
        if r.remaining key ≤ timeout then
          { r with now := r.now + r.remaining key, epoch }.ending h last
        else (.returned (.ok false), h, { r with now := r.now + timeout, epoch })
      else (.panicked overflow, h, { r with epoch }) :=
    tryLock_eq (r := { r with epoch }) uninjected hkey lacks timeout last
  rw [hepoch, heq]
  -- the epoch is carried along on every branch
  split
  · split
    · unfold ending
      split <;> rfl
    · rfl
  · rfl

/-- **An attempt that nobody disturbs is decided by what is left of the holder's time.** In every
state of the registry in which no attempt is made to fail, for a handle of which no record has the
token yet, and whichever the greatest reading of the clock is:

* the attempt returns exactly if the clock has the readings that are needed (`fits`): the one at which
  the attempt gives up, and, if it is granted, the one at which the lock expires;
* if it returns, it is granted exactly if its key is not locked or what is left until it expires is at
  most `timeout`; nothing is left of the time of a key that is not locked;
* if it is granted, this is how long it waited, and the key has the token of the handle from then on,
  until `expireAfter` later; no other record has changed;
* if not, it gives up after exactly `timeout`, and every record stays;
* if it does not return, it panics, and every record stays: at once when it has no reading to give up
  at, and else when it finds the lock free;
* it looks once more after this time and no more than that: a look before it waits for the same
  reading of the clock, and the look at this reading does not wait;
* how often waiting handles were interrupted before makes no difference. -/
theorem tryLock_undisturbed (uninjected : r.failNext = 0) (hkey : h.key = r.fullKey key)
    (lacks : r.Lacks h.token) (timeout : Nat) (last : Option Nat) :
    let free := r.isLocked key = false ∨ r.remaining key ≤ timeout
    let wake := r.now + min timeout (r.remaining key)
    let gives := Time.reaches last (r.now + timeout) = true
    let fits := gives ∧
      (free → Time.reaches last (r.now + r.remaining key + r.expireAfter) = true)
    let ended := r.tryLock h timeout last
    (ended.1.isReturned = true ↔ fits) ∧
    (fits → (ended.1 = .returned (.ok true) ↔ free)) ∧
    (r.isLocked key = false → r.remaining key = 0) ∧
    (fits → free → ended = (.returned (.ok true), { h with held := true }, { r with
      now := r.now + r.remaining key
      held := r.held.put (r.fullKey key)
        ⟨h.token, r.now + r.remaining key + r.expireAfter⟩ })) ∧
    (fits → ¬free → ended = (.returned (.ok false), h, { r with now := r.now + timeout })) ∧
    (¬fits → ended = (.panicked overflow, h,
      { r with now := r.now + if gives then r.remaining key else 0 })) ∧
    ((∀ n, r.now ≤ n → n < wake →
      { r with now := n }.look (r.waiter h timeout last) = .waits wake) ∧
      ∀ n, { r with now := wake }.look (r.waiter h timeout last) ≠ .waits n) ∧
    ∀ epoch, { r with epoch }.tryLock h timeout last =
      (ended.1, ended.2.1, { ended.2.2 with epoch }) := by
  intro free wake gives fits ended
  -- an open lock has nothing remaining, so both disjuncts of `free` compare times
  have hfree : free ↔ r.remaining key ≤ timeout := by
    have hlocked := isLocked_eq_remaining r key
    refine ⟨fun hor => hor.elim (fun hopen => ?_) id, .inr⟩
    rw [hopen] at hlocked
    have hnone : ¬0 < r.remaining key := of_decide_eq_false hlocked.symm
    omega
  have heq : ended = _ := tryLock_eq uninjected hkey lacks timeout last
  -- the three ways in which the attempt ends, from which the rest is read
  have hgranted (hfits : fits) (hopen : free) : ended =
      (.returned (.ok true), { h with held := true }, { r with
        now := r.now + r.remaining key
        held := r.held.put (r.fullKey key)
          ⟨h.token, r.now + r.remaining key + r.expireAfter⟩ }) := by
    rw [heq, if_pos hfits.1, if_pos (hfree.mp hopen), ending, if_pos (hfits.2 hopen), grant, hkey]
  have hbusy (hfits : fits) (hclosed : ¬free) : ended =
      (.returned (.ok false), h, { r with now := r.now + timeout }) := by
    rw [heq, if_pos hfits.1, if_neg (mt hfree.mpr hclosed)]
  have hpanics (hunfit : ¬fits) : ended = (.panicked overflow, h,
      { r with now := r.now + if gives then r.remaining key else 0 }) := by
    by_cases hgives : gives
    · -- a busy lock is not granted, so it cannot be the expiry that is out of range
      have hopen : free := Decidable.byContradiction fun hclosed =>
        hunfit ⟨hgives, fun hopen => absurd hopen hclosed⟩
      have hexpiry := fun hexpiry => hunfit ⟨hgives, fun _ => hexpiry⟩
      rw [heq, if_pos hgives, if_pos (hfree.mp hopen), ending, if_neg hexpiry, if_pos hgives]
    · rw [heq, if_neg hgives, if_neg hgives]
      rfl
  have hlook {n : Nat} (later : r.now ≤ n) := look_later hkey lacks timeout last later
  refine ⟨⟨fun hreturned => ?_, fun hfits => ?_⟩, fun hfits => ⟨fun htrue => ?_, fun hopen => ?_⟩,
    fun hopen => ?_, hgranted, hbusy, hpanics, ⟨fun n later hn => ?_, fun n => ?_⟩, fun epoch => ?_⟩
  · refine Decidable.byContradiction fun hunfit => ?_
    rw [hpanics hunfit] at hreturned
    cases hreturned
  · by_cases hopen : free
    · rw [hgranted hfits hopen]
      rfl
    · rw [hbusy hfits hopen]
      rfl
  · refine Decidable.byContradiction fun hclosed => ?_
    rw [hbusy hfits hclosed] at htrue
    cases htrue
  · rw [hgranted hfits hopen]
  · rw [isLocked_eq_remaining] at hopen
    exact Nat.eq_zero_of_not_pos (of_decide_eq_false hopen)
  · rw [hlook later, if_neg (by omega), if_neg (by omega)]
  · rw [hlook (Nat.le_add_right _ _)]
    repeat' split
    · exact fun h => nomatch h
    · exact fun h => nomatch h
    · exact fun h => nomatch h
    · omega
  · exact tryLock_epoch uninjected hkey lacks timeout last epoch

/-- The lock of another handle, some time after it was taken and an interrupt; a new handle waits. -/
def overdue : LockRegistry :=
  ((Contention.start { expireAfter := 5 }).run
    [.obtain "k", .enter 0 0, .advance 2, .interrupt]).registry

/-- A handle whose time ends at the very reading at which the lock expires is granted it. -/
theorem tryLock_undisturbed_overdue :
    overdue.failNext = 0 ∧ (overdue.obtain "k").1.key = overdue.fullKey "k" ∧
      overdue.Lacks (overdue.obtain "k").1.token ∧
      overdue.tryLock (overdue.obtain "k").1 3 (some Time.lastReading) =
        (.returned (.ok true), ⟨"custom-redis-lock:k", 1, true⟩,
          { overdue with now := 5, held := [("custom-redis-lock:k", ⟨1, 10⟩)] }) := by
  have lacks : overdue.Lacks (overdue.obtain "k").1.token :=
    (fresh_run { expireAfter := 5 } [.obtain "k", .enter 0 0, .advance 2, .interrupt]).lacks
  obtain ⟨-, -, -, hgranted, -⟩ :=
    tryLock_undisturbed (r := overdue) rfl rfl lacks 3 (some Time.lastReading)
  exact ⟨rfl, rfl, lacks, hgranted ⟨by decide, fun _ => by decide⟩ (.inr (by decide))⟩

/-- The default registry, of which no lock was ever taken. -/
def untouched : LockRegistry := ((ofConfig {}).obtain "k").2

/-- **Not every attempt returns.** With the longest time there is, the attempt of a new handle panics,
although nobody holds its lock: it would give up after the greatest reading of the clock. -/
theorem tryLock_longest_panics :
    let h := ((ofConfig {}).obtain "k").1
    let ended := untouched.tryLock h Time.longest (some Time.lastReading)
    untouched.failNext = 0 ∧ h.key = untouched.fullKey "k" ∧ untouched.Lacks h.token ∧
      untouched.isLocked "k" = false ∧ ended = (.panicked overflow, h, untouched) ∧
      ended.1 ≠ .returned (.ok true) := by
  intro h ended
  have hpanics : ended = (.panicked overflow, h, untouched) := by
    show untouched.tryLock h Time.longest (some Time.lastReading) = _
    rw [tryLock, beginWait_of_beyond (by decide)]
  have lacks : untouched.Lacks h.token := fun _ _ hx => by cases hx
  refine ⟨rfl, rfl, lacks, rfl, hpanics, fun hgranted => ?_⟩
  rw [hpanics] at hgranted
  cases hgranted

end KeyedDelivery.LockRegistry
