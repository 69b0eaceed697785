import KeyedDelivery.Lock.Event

/-!
# An attempt with nobody else acting

`LockRegistry.tryLock` waits from look to look and lets the clock move in between. With nobody else
acting this is one run among those in which any number of handles act.

* **`Event.ofAttempt`** — the events of such a run: the handle begins, time passes, it looks.
* **`Answer.ofTry`** — how an attempt is told that ends so; **`Ends`** — the answer, the registry and
  the handle at its end.
* **`await_run`** — a wait is a run of these events; induction on the time that is left.
* **`tryLock_run`** — so is a whole attempt: the last event gives the answer of the attempt, and
  leaves the registry and the handle as the attempt does.
-/

namespace KeyedDelivery

/-- A wait goes from look to look. -/
theorem LockRegistry.await_eq (r : LockRegistry) (w : Waiter) :
    r.await w = match r.look w with
      | .granted => (.returned (.ok true), { w.handle with held := true }, r.grant w.handle)
      | .overflowed => (.panicked overflow, w.handle, r)
      | .interrupted => (.returned (.error (.interrupted w.handle.key)), w.handle, r)
      | .timedOut => (.returned (.ok false), w.handle, r)
      | .waits wake => { r with now := wake }.await w := by
  rw [await]
  split
  all_goals
    next h => rw [h]

/-- The clock moves to a later reading. -/
theorem LockRegistry.advance_to {r : LockRegistry} {wake : Nat} (h : r.now ≤ wake) :
    r.advance (wake - r.now) = { r with now := wake } := by
  rw [advance, Nat.add_sub_cancel' h]

namespace Contention

variable {s : Contention} {n : Nat}

/-- An event of an attempt with nobody else acting. -/
def Event.ofAttempt (n timeout : Nat) (e : Event) : Prop :=
  e = .enter n timeout ∨ e = .look n ∨ ∃ d, e = .advance d

/-- The answer to a handle whose attempt ends so. -/
def Answer.ofTry (n : Nat) : Outcome (Except LockError Bool) → Answer
  | .returned result => .tried n result
  | .panicked p => .panicked n p

/-- The attempt of a handle has ended as `ended` says. -/
structure Ends (n : Nat) (p : Option Answer × Contention) (ended : LockRegistry.Ended) : Prop where
  answer : p.1 = some (.ofTry n ended.1)
  registry : p.2.registry = ended.2.2
  handle : p.2.contenders.find? n = some (.idle ended.2.1)

/-- One look ends the wait, unless the handle has to wait until a later reading of the clock. -/
theorem lookOnce_cases (s : Contention) (n : Nat) (w : LockRegistry.Waiter) :
    Ends n (s.lookOnce n w) (s.registry.await w) ∨
      ∃ wake, s.now < wake ∧ wake ≤ w.deadline ∧
        s.registry.await w = { s.registry with now := wake }.await w ∧
        s.lookOnce n w = (none, s.set n (.waiting w)) := by
  rw [LockRegistry.await_eq, lookOnce]
  cases hlook : s.registry.look w with
  | granted => exact .inl ⟨rfl, rfl, Table.find?_put_self _ _ _⟩
  | overflowed => exact .inl ⟨rfl, rfl, Table.find?_put_self _ _ _⟩
  | interrupted => exact .inl ⟨rfl, rfl, Table.find?_put_self _ _ _⟩
  | timedOut => exact .inl ⟨rfl, rfl, Table.find?_put_self _ _ _⟩
  | waits wake =>
    obtain ⟨hnow, hdeadline⟩ := LockRegistry.lt_of_look_waits hlook
    exact .inr ⟨wake, hnow, hdeadline, rfl, rfl⟩

/-- **A wait is a run.** Time passes until the handle looks and its wait is over. Induction on the
time that is left: each look that does not end the wait names a later reading of the clock. -/
theorem await_run {w : LockRegistry.Waiter} (hfind : s.contenders.find? n = some (.waiting w))
    (timeout : Nat) : ∃ es e, (∀ e' ∈ es ++ [e], e'.ofAttempt n timeout) ∧
      Ends n ((s.run es).step e) (s.registry.await w) := by
  induction hleft : w.deadline - s.now using Nat.strongRecOn generalizing s with
  | ind left ih =>
    have hstep : s.step (.look n) = s.lookOnce n w := by rw [step, hfind]
    rcases lookOnce_cases s n w with hends | ⟨wake, hnow, hdeadline, hawait, -⟩
    · exact ⟨[], .look n, List.forall_mem_singleton.mpr (.inr (.inl rfl)), hstep ▸ hends⟩
    · -- the clock moves to the reading at which the handle looks again
      have hmoved : s.registry.advance (wake - s.now) = { s.registry with now := wake } :=
        LockRegistry.advance_to (Nat.le_of_lt hnow)
      let later : Contention := { s with registry := { s.registry with now := wake } }
      have hless : w.deadline - later.now < left := by
        show w.deadline - wake < left
        omega
      obtain ⟨es, e, hown, hends⟩ := ih _ hless (s := later) hfind rfl
      refine ⟨.advance (wake - s.now) :: es, e, ?_, ?_⟩
      · exact List.forall_mem_cons.mpr ⟨.inr (.inr ⟨_, rfl⟩), hown⟩
      · show Ends n ((run { s with registry := s.registry.advance (wake - s.now) } es).step e) _
        rw [hmoved, hawait]
        exact hends

/-- **An attempt is a run.** With nobody else acting, the handle that tries to take its lock gets
the answer, and leaves the registry and itself, as at the end of a run of its own events. -/
theorem tryLock_run {h : LockHandle} (hfind : s.contenders.find? n = some (.idle h))
    (timeout : Nat) : ∃ es e, (∀ e' ∈ es ++ [e], e'.ofAttempt n timeout) ∧
      Ends n ((s.run es).step e) (s.registry.tryLock h timeout s.lastReading) := by
  have honly : ∀ e' ∈ [Event.enter n timeout], e'.ofAttempt n timeout :=
    List.forall_mem_singleton.mpr (.inl rfl)
  have hstep : s.step (.enter n timeout) = s.enter n h timeout := by rw [step, hfind]
  rw [LockRegistry.tryLock]
  rw [enter] at hstep
  rcases hbegin : s.registry.beginWait h timeout s.lastReading with ⟨(e | w) | p, r⟩
  · -- the attempt is made to fail
    rw [hbegin] at hstep
    exact ⟨[], .enter n timeout, honly, hstep ▸ ⟨rfl, rfl, hfind⟩⟩
  · rw [hbegin] at hstep
    rcases lookOnce_cases { s with registry := r } n w with hends | ⟨wake, -, -, -, hwaits⟩
    · exact ⟨[], .enter n timeout, honly, hstep ▸ hends⟩
    · -- the first look does not end the wait; the rest of the attempt is the run of the wait
      have hwaiting : ({ s with registry := r }.set n (.waiting w)).contenders.find? n =
          some (.waiting w) := Table.find?_put_self _ _ _
      obtain ⟨es, e, hown, hends⟩ := await_run hwaiting timeout
      have hnext : (s.step (.enter n timeout)).2 = { s with registry := r }.set n (.waiting w) := by
        rw [hstep]
        show ({ s with registry := r }.lookOnce n w).2 = _
        rw [hwaits]
      refine ⟨.enter n timeout :: es, e, List.forall_mem_cons.mpr ⟨.inl rfl, hown⟩, ?_⟩
      rw [run, List.foldl_cons, hnext]
      exact hends
  · -- the deadline is no reading of the clock
    rw [hbegin] at hstep
    exact ⟨[], .enter n timeout, honly, hstep ▸ ⟨rfl, rfl, hfind⟩⟩

end Contention

end KeyedDelivery
