import KeyedDelivery.Producer.Recorded
import KeyedDelivery.Proofs.Producer.Agreement
import KeyedDelivery.Rehearsal.Sends

/-!
# How often a send tries

Past its lock, a send asks for the queues of its topic once and tries one of them until an attempt is
answered, the budget has run out, or no attempt is left.

* **`attempts_refused`** — as long as attempts are refused in time, a send gets to the next one;
  induction on the attempts that were made.
* **`Ended`** — the three ways in which the attempts end. They always end in one of them
  (`attempts_ended`), at the first attempt that is not refused in time.
* **`calls_of_begun`** — what a send asks for once it is past its lock.
* **`send_course`** — which attempts are made, and what comes of them.
* **`attempts_counted`** — the number of attempts, for every number of retries that can be set; with the
  greatest there is no attempt at all (`attempts_wrap`).
-/

namespace KeyedDelivery

variable {σ η : Type}

/-! ## One attempt after the other -/

namespace SendTransport

variable (t : SendTransport σ) (m : Message) (q : Queue) (deadline : Nat) (s : σ)

theorem recorded_send (w : σ × List SendCall) :
    t.recorded.send m q w =
      ((t.send m q w.1).1, (t.send m q w.1).2, w.2 ++ [.send m q]) := rfl

/-- Whether the attempt that comes after `k` others is refused. -/
def Refuses (k : Nat) : Prop := ∃ e, t.answer m q s k = .returned (.error e)

/-- Whether the attempt that comes after `k` others is made in time. The first one always is. -/
def InTime (k : Nat) : Prop := 0 < k → t.now (t.after m q s k) < deadline

/-- The first `n` attempts are made in time and refused. -/
def Refused (n : Nat) : Prop := ∀ k < n, t.InTime m q deadline s k ∧ t.Refuses m q s k

/-- Why the last of some attempts was refused. -/
def lastError : Nat → String
  | 0 => ""
  | k + 1 =>
    match t.answer m q s k with
    | .returned (.error e) => e
    | _ => ""

/-- The calls of some attempts. -/
def tries (n : Nat) : List SendCall := List.replicate n (.send m q)

/-- How the attempts on a queue end, by how many are made and what they come to. -/
inductive Ended (limit : Nat) : Nat → Outcome (Except String Receipt) → Prop where
  /-- One is accepted, or panics. -/
  | answered {n : Nat} (refused : t.Refused m q deadline s n) (more : n < limit)
      (inTime : t.InTime m q deadline s n) (final : ¬ t.Refuses m q s n) :
      Ended limit (n + 1) (t.answer m q s n)
  | late {n : Nat} (refused : t.Refused m q deadline s n) (more : n < limit)
      (late : ¬ t.InTime m q deadline s n) :
      Ended limit n (.returned (.error (Producer.timedOut n (t.lastError m q s n))))
  | exhausted (refused : t.Refused m q deadline s limit) :
      Ended limit limit (.returned (.error (t.lastError m q s limit)))

/-- Either the first `limit` attempts are refused in time, or there is a first one that is not. -/
theorem refused_or_stops (limit : Nat) :
    t.Refused m q deadline s limit ∨
      ∃ n < limit, t.Refused m q deadline s n ∧ ¬ (t.InTime m q deadline s n ∧ t.Refuses m q s n) := by
  induction limit with
  | zero => exact .inl fun _ hk => absurd hk (Nat.not_lt_zero _)
  | succ limit ih =>
    rcases ih with hall | ⟨n, hn, hstops⟩
    · -- the first attempt that is not refused in time, if there is one below the limit
      by_cases hnext : t.InTime m q deadline s limit ∧ t.Refuses m q s limit
      · refine .inl fun k hk => ?_
        rcases Nat.lt_succ_iff_lt_or_eq.mp hk with hk | rfl
        · exact hall k hk
        · exact hnext
      · exact .inr ⟨limit, Nat.lt_succ_self _, hall, hnext⟩
    · exact .inr ⟨n, Nat.lt_succ_of_lt hn, hstops⟩

variable {t m q deadline s}

/-- The error kept after one more attempt is the one it was refused with. -/
theorem lastError_succ {k : Nat} {e : String} (h : t.answer m q s k = .returned (.error e)) :
    t.lastError m q s (k + 1) = e := by
  rw [lastError, h]

/-! ## The attempts that are made -/

/-- The clock of a transport never goes back. -/
structure Forward (t : SendTransport σ) : Prop where
  queues : ∀ topic s, t.now s ≤ t.now (t.queues topic s).2
  send : ∀ m q s, t.now s ≤ t.now (t.send m q s).2

/-- By a clock that goes forward, a later attempt sees no earlier time. -/
theorem Forward.after (h : t.Forward) {k k' : Nat} (hk : k ≤ k') :
    t.now (t.after m q s k) ≤ t.now (t.after m q s k') := by
  induction hk with
  | refl => exact Nat.le_refl _
  | step _ ih => exact Nat.le_trans ih (h.send m q _)

namespace Ended

variable {limit n : Nat} {result : Outcome (Except String Receipt)}

/-- No more attempts are made than there are. -/
theorem le (h : Ended t m q deadline s limit n result) : n ≤ limit := by
  cases h with
  | answered _ more => exact more
  | late _ more => exact Nat.le_of_lt more
  | exhausted => exact Nat.le_refl _

/-- If there is any, one is made. -/
theorem pos (h : Ended t m q deadline s limit n result) (hlimit : 0 < limit) : 0 < n := by
  cases h with
  | answered => exact Nat.succ_pos _
  | late _ _ late => exact Nat.pos_of_ne_zero fun hzero => late fun hpos => by omega
  | exhausted => exact hlimit

/-- **Which attempts are made**: those within the limit that come in time, after refusals only. -/
theorem lt_iff (h : Ended t m q deadline s limit n result) (hclock : t.Forward) (k : Nat) :
    k < n ↔ k < limit ∧ (∀ j < k, t.Refuses m q s j) ∧ t.InTime m q deadline s k := by
  cases h with
  | @answered n refused more inTime final =>
    refine ⟨fun hk => ?_, fun ⟨_, hrefuses, _⟩ => ?_⟩
    · have hle := Nat.le_of_lt_succ hk
      refine ⟨Nat.lt_of_le_of_lt hle more, fun j hj => (refused j (Nat.lt_of_lt_of_le hj hle)).2, ?_⟩
      rcases Nat.lt_or_eq_of_le hle with hlt | rfl
      · exact (refused k hlt).1
      · exact inTime
    · -- the one that is not refused would have been refused
      refine Nat.lt_succ_of_le (Nat.le_of_not_lt fun hk => ?_)
      exact final (hrefuses n hk)
  | @late n refused more late =>
    refine ⟨fun hk => ?_, fun ⟨_, _, hinTime⟩ => ?_⟩
    · exact ⟨Nat.lt_trans hk more, fun j hj => (refused j (Nat.lt_trans hj hk)).2, (refused k hk).1⟩
    · -- what is late stays late
      refine Nat.lt_of_not_le fun hle => late fun hpos => ?_
      exact Nat.lt_of_le_of_lt (hclock.after hle) (hinTime (Nat.lt_of_lt_of_le hpos hle))
  | exhausted refused =>
    refine ⟨fun hk => ?_, fun ⟨hk, _⟩ => hk⟩
    exact ⟨hk, fun j hj => (refused j (Nat.lt_trans hj hk)).2, (refused k hk).1⟩

/-- Of the attempts that are made, only the last one is not refused, and that is what they come to. -/
theorem eq_answer (h : Ended t m q deadline s limit n result) {k : Nat} (hk : k < n)
    (hfinal : ¬ t.Refuses m q s k) : result = t.answer m q s k := by
  cases h with
  | @answered n refused =>
    rcases Nat.lt_or_eq_of_le (Nat.le_of_lt_succ hk) with hlt | rfl
    · exact absurd (refused k hlt).2 hfinal
    · rfl
  | late refused => exact absurd (refused k hk).2 hfinal
  | exhausted refused => exact absurd (refused k hk).2 hfinal

/-- If the last attempt that is made is refused, the budget has run out or no attempt is left. -/
theorem of_refused (h : Ended t m q deadline s limit n result) {e : String}
    (he : t.answer m q s (n - 1) = .returned (.error e)) (hpos : 0 < n) :
    (n < limit ∧ deadline ≤ t.now (t.after m q s n) ∧
        result = .returned (.error (Producer.timedOut n e))) ∨
      (n = limit ∧ result = .returned (.error e)) := by
  have hlast : t.lastError m q s n = e := by
    obtain ⟨k, rfl⟩ := Nat.exists_eq_succ_of_ne_zero (Nat.ne_of_gt hpos)
    exact lastError_succ he
  cases h with
  | answered _ _ _ final => exact absurd ⟨e, he⟩ final
  | late _ more late =>
    refine .inl ⟨more, ?_, by rw [hlast]⟩
    exact Nat.le_of_not_lt fun hearly => late fun _ => hearly
  | exhausted => exact .inr ⟨rfl, by rw [hlast]⟩

end Ended

end SendTransport

namespace Producer

open SendTransport (Refused InTime Refuses Ended tries refused_or_stops)

variable {t : SendTransport σ} {m : Message} {q : Queue} {deadline : Nat} {s : σ}

/-- An attempt that is made in time asks the transport, and goes on only if it is refused. -/
theorem attempts_recorded {left made : Nat} {last : String} {calls : List SendCall}
    (h : 0 < made → t.now s < deadline) :
    attempts t.recorded m q deadline (left + 1) made last (s, calls) =
      match (t.send m q s).1 with
      | .returned (.error e) =>
        attempts t.recorded m q deadline left (made + 1) e ((t.send m q s).2, calls ++ [.send m q])
      | answer => (answer, (t.send m q s).2, calls ++ [.send m q]) := by
  have hearly : ¬ (0 < made ∧ deadline ≤ t.recorded.now (s, calls)) := fun ⟨hmade, hlate⟩ =>
    Nat.not_lt_of_le hlate (h hmade)
  rw [attempts, if_neg hearly, SendTransport.recorded_send]
  rcases t.send m q s with ⟨(e | r) | payload, s'⟩ <;> rfl

/-- **As long as attempts are refused in time, a send gets to the next one.** -/
theorem attempts_refused {limit n : Nat} (h : Refused t m q deadline s n) (hn : n ≤ limit)
    (calls : List SendCall) :
    attempts t.recorded m q deadline limit 0 "" (s, calls) =
      attempts t.recorded m q deadline (limit - n) n (t.lastError m q s n)
        (t.after m q s n, calls ++ tries m q n) := by
  induction n with
  | zero => rw [tries, List.replicate_zero, List.append_nil]; rfl
  | succ n ih =>
    obtain ⟨hintime, e, he⟩ := h n (Nat.lt_succ_self n)
    -- one attempt more: the loop is unfolded once, and the error it keeps is the new one
    have hleft : limit - n = limit - (n + 1) + 1 := by omega
    rw [ih (fun k hk => h k (Nat.lt_succ_of_lt hk)) (Nat.le_of_succ_le hn), hleft,
      attempts_recorded hintime, SendTransport.lastError_succ he]
    have hanswer : (t.send m q (t.after m q s n)).1 = .returned (.error e) := he
    rw [hanswer, List.append_assoc, tries, tries, List.replicate_succ']
    rfl

/-- **The attempts end in one of three ways**, at the first that is not refused in time. -/
theorem attempts_ended (t : SendTransport σ) (m : Message) (q : Queue) (deadline limit : Nat) (s : σ)
    (calls : List SendCall) :
    ∃ n result, attempts t.recorded m q deadline limit 0 "" (s, calls) =
        (result, t.after m q s n, calls ++ tries m q n) ∧ Ended t m q deadline s limit n result := by
  rcases refused_or_stops t m q deadline s limit with hall | ⟨n, hlimit, hrefused, hstop⟩
  · refine ⟨limit, _, ?_, .exhausted hall⟩
    rw [attempts_refused hall (Nat.le_refl _), Nat.sub_self, attempts]
  · have hleft : limit - n = limit - (n + 1) + 1 := by omega
    have hnext := attempts_refused hrefused (Nat.le_of_lt hlimit) calls
    rw [hleft] at hnext
    -- the loop stops because the attempt is final, or because its time has passed
    by_cases hintime : InTime t m q deadline s n
    · have hfinal : ¬ Refuses t m q s n := fun hrefuses => hstop ⟨hintime, hrefuses⟩
      refine ⟨n + 1, _, ?_, .answered hrefused hlimit hintime hfinal⟩
      rw [hnext, attempts_recorded hintime, List.append_assoc, tries, tries, List.replicate_succ']
      split
      · next e he => exact absurd ⟨e, he⟩ hfinal
      · rfl
    · refine ⟨n, _, ?_, .late hrefused hlimit hintime⟩
      have hlate : 0 < n ∧ deadline ≤ t.now (t.after m q s n) := by
        simpa [SendTransport.InTime] using hintime
      rw [hnext, attempts]
      exact if_pos hlate

end Producer

/-! ## Past the lock -/

theorem LockService.beside_obtain {κ : Type} (l : LockService σ η) (key : String) (w : σ × κ) :
    (l.beside κ).obtain key w = ((l.obtain key w.1).1, (l.obtain key w.1).2, w.2) := rfl

theorem LockService.beside_tryLock {κ : Type} (l : LockService σ η) (timeout : Nat) (h : η)
    (w : σ × κ) :
    (l.beside κ).tryLock timeout h w =
      ((l.tryLock timeout h w.1).1, (l.tryLock timeout h w.1).2.1, (l.tryLock timeout h w.1).2.2,
        w.2) := rfl

theorem LockMutex.acquire_beside {κ : Type} (x : LockMutex σ η) (key : String) (timeout : Nat)
    (w : σ × κ) :
    (x.beside κ).acquire key timeout w =
      ((x.acquire key timeout w.1).1, (x.acquire key timeout w.1).2, w.2) := by
  unfold acquire
  rw [beside, LockService.beside_obtain]
  rcases x.service.obtain key w.1 with ⟨e | h, s⟩
  · rfl
  · dsimp only
    rw [LockService.beside_tryLock]
    rcases x.service.tryLock timeout h s with ⟨(e | _ | _) | p, h, s⟩ <;> rfl

namespace Exclusion

variable {α κ : Type} {x : Exclusion σ η} {key : String} {s s₁ : σ}

/-- A send begins at once if there is no lock, and else when its lock is granted. -/
theorem begun_cases (h : x.begun key s = some s₁) :
    (x = .unlocked ∧ s₁ = s) ∨
      ∃ y holder, x = .locked y ∧ key.isEmpty = false ∧ y.defaultTimeout ≠ 0 ∧
        y.acquire key y.defaultTimeout s = (.returned (.ok holder), s₁) := by
  cases x with
  | unlocked => exact .inl ⟨rfl, (Option.some.inj h).symm⟩
  | locked y =>
    simp only [begun] at h
    split at h
    · cases h
    · next hsettings =>
      split at h
      · next holder s' hacquire =>
        cases h
        -- the lock was asked for, so its key and its time are valid
        simp only [Bool.or_eq_true, decide_eq_true_eq, not_or, Bool.not_eq_true] at hsettings
        exact .inr ⟨y, holder, rfl, hsettings.1, hsettings.2, hacquire⟩
      · cases h

theorem run_of_begun (h : x.begun key s = some s₁) (send : σ → α × σ) :
    (x.run key send s).1 = .returned (.ok (send s₁).1) := by
  rcases begun_cases h with ⟨rfl, rfl⟩ | ⟨y, holder, rfl, hkey, htimeout, hacquire⟩
  · rfl
  · simp only [run, LockMutex.tryWithLock, hkey, htimeout, hacquire]
    rfl

/-- What stands beside the locks is left to the send. -/
theorem run_beside_of_begun (h : x.begun key s = some s₁) (send : σ × κ → α × σ × κ) (k : κ) :
    ((x.beside κ).run key send (s, k)).1 = .returned (.ok (send (s₁, k)).1) ∧
      ((x.beside κ).run key send (s, k)).2.2 = (send (s₁, k)).2.2 := by
  rcases begun_cases h with ⟨rfl, rfl⟩ | ⟨y, holder, rfl, hkey, htimeout, hacquire⟩
  · exact ⟨rfl, rfl⟩
  · have hbeside := y.acquire_beside key y.defaultTimeout (s, k)
    rw [hacquire] at hbeside
    have hsame : (y.beside κ).defaultTimeout = y.defaultTimeout := rfl
    simp only [beside, run, LockMutex.tryWithLock, hkey, hsame, htimeout, hbeside]
    exact ⟨rfl, rfl⟩

end Exclusion

/-- Writing the calls down changes no answer. -/
theorem SendTransport.agree_recorded (t : SendTransport σ) :
    Agree (fun w s => w.1 = s) t.recorded t where
  now h := congrArg t.now h
  queues _ _ _ h := h ▸ ⟨rfl, rfl⟩
  send _ _ _ _ h := h ▸ ⟨rfl, rfl⟩

namespace Producer

open SendTransport (Ended tries)

variable (p : Producer σ η) (m : Message) {s s₁ : σ}

/-- And the outcome is that of the guarded send. -/
theorem dispatch_of_begun (h : p.exclusion.begun (p.lockKey m.key) s = some s₁) :
    (p.dispatch m s).1 = outcomeOf (.ok (p.sendGuarded m s₁).1) :=
  congrArg outcome (Exclusion.run_of_begun h (p.sendGuarded m))

/-- Past the lock, the calls are those of the guarded send. -/
theorem calls_of_begun (h : p.exclusion.begun (p.lockKey m.key) s = some s₁) :
    p.calls m s = (p.recorded.sendGuarded m (s₁, [])).2.2 := by
  rw [← (Exclusion.run_beside_of_begun h (p.recorded.sendGuarded m) []).2]
  rfl

/-- What a send reports whose transport answered. A panic is a failure. -/
def told : Outcome (Except String Receipt) → SendOutcome
  | .returned (.ok r) => .sent r
  | .returned (.error e) => .failed e
  | .panicked payload => .failed ("send panicked: " ++ payload.message)

/-- Past its lock, a send calls its transport in one go, and reports what it is answered. -/
theorem routed_of_begun (h : p.exclusion.begun (p.lockKey m.key) s = some s₁) :
    p.calls m s = (p.recorded.sendRouted m (s₁, [])).2.2 ∧
      (p.dispatch m s).1 = told (p.recorded.sendRouted m (s₁, [])).1 := by
  have hagree := (SendTransport.agree_recorded p.transport).sendGuarded p.recorded p rfl
    (s := (s₁, [])) rfl m
  rw [calls_of_begun p m h, dispatch_of_begun p m h, ← hagree.1, SendStage.sendGuarded_eq]
  rcases p.recorded.sendRouted m (s₁, []) with ⟨(e | r) | payload, w⟩ <;> exact ⟨rfl, rfl⟩

theorem recorded_lookup (s : σ) :
    p.recorded.transport.queues m.topic (s, []) =
      ((p.transport.queues m.topic s).1, (p.transport.queues m.topic s).2, [.queues m.topic]) := rfl

/-- **A send that has a queue makes its attempts on it**, and reports what they come to. -/
theorem ended_of_begun (h : p.exclusion.begun (p.lockKey m.key) s = some s₁) {queues : List Queue}
    {q : Queue} (hlookup : (p.transport.queues m.topic s₁).1 = .returned (.ok queues))
    (hqueue : selectQueue queues m.key = some q) :
    ∃ n result, Ended p.transport m q (p.transport.now s₁ + p.config.sendTimeout)
        (p.transport.queues m.topic s₁).2 (attemptLimit p.config).toNat n result ∧
      p.calls m s = .queues m.topic :: tries m q n ∧ (p.dispatch m s).1 = told result := by
  obtain ⟨n, result, hattempts, hended⟩ := attempts_ended p.transport m q
    (p.transport.now s₁ + p.config.sendTimeout) (attemptLimit p.config).toNat
    (p.transport.queues m.topic s₁).2 [.queues m.topic]
  obtain ⟨hcalls, hout⟩ := routed_of_begun p m h
  -- the lookup is the first call, and the attempts go on from there
  have hrouted : p.recorded.sendRouted m (s₁, []) =
      (result, p.transport.after m q (p.transport.queues m.topic s₁).2 n,
        .queues m.topic :: tries m q n) := by
    rw [sendRouted, recorded_lookup, hlookup]
    dsimp only
    rw [hqueue]
    exact hattempts
  rw [hrouted] at hcalls hout
  exact ⟨n, result, hended, hcalls, hout⟩

/-! ### With a clock that goes forward -/

/-- The `n` attempts that a send makes on a queue that it may retry `retries` times within `budget`
from the time `began`, and what comes of them. `s` is the world before the first one. -/
structure Attempted (t : SendTransport σ) (m : Message) (q : Queue) (began budget retries : Nat) (s : σ)
    (n : Nat) (outcome : SendOutcome) : Prop where
  first : 0 < n
  /-- A later attempt is made exactly when a retry is left, those before it were all refused, and the
  time that has passed is below the budget. -/
  again : ∀ k, 0 < k → (k < n ↔
    k ≤ retries ∧ (∀ j < k, t.Refuses m q s j) ∧ t.now (t.after m q s k) - began < budget)
  sent : ∀ k < n, ∀ r, t.answer m q s k = .returned (.ok r) → outcome = .sent r
  panicked : ∀ k < n, ∀ payload, t.answer m q s k = .panicked payload →
    outcome = .failed ("send panicked: " ++ payload.message)
  /-- The last attempt was refused, and a retry was left: the budget had run out. -/
  timedOut : ∀ e, t.answer m q s (n - 1) = .returned (.error e) → n ≤ retries →
    budget ≤ t.now (t.after m q s n) - began ∧
      outcome = .failed ("send timed out after " ++ Text.natural n ++ " attempt(s): " ++ e)
  /-- The last attempt was refused, and it was the last retry. -/
  exhausted : ∀ e, t.answer m q s (n - 1) = .returned (.error e) → retries < n →
    n = retries + 1 ∧ outcome = .failed e

/-- What the attempts come to: which of them are made, and what is told. -/
theorem attempted_of_ended {t : SendTransport σ} (hclock : t.Forward) {m : Message} {q : Queue}
    {began budget retries : Nat} {s : σ} {n : Nat} {result : Outcome (Except String Receipt)}
    (hbegan : began ≤ t.now s) (hended : Ended t m q (began + budget) s (retries + 1) n result) :
    Attempted t m q began budget retries s n (told result) := by
  -- no attempt is made before the send began, so the difference is not cut off
  have helapsed (k : Nat) : began ≤ t.now (t.after m q s k) :=
    Nat.le_trans hbegan (hclock.after (Nat.zero_le k))
  have hpos := hended.pos (Nat.succ_pos retries)
  refine ⟨hpos, fun k hk => ?_, fun k hk r hr => ?_, fun k hk payload hpayload => ?_,
    fun e he hleft => ?_, fun e he hnone => ?_⟩
  · rw [hended.lt_iff hclock k, Nat.lt_succ_iff]
    have hearly : t.InTime m q (began + budget) s k ↔ t.now (t.after m q s k) - began < budget := by
      have := helapsed k
      exact ⟨fun h => by have := h hk; omega, fun h _ => by omega⟩
    rw [hearly]
  · -- a receipt or a panic is an answer that is no refusal, so it ends the attempts
    have hfinal : ¬ t.Refuses m q s k := fun ⟨e, he⟩ => by rw [hr] at he; cases he
    rw [hended.eq_answer hk hfinal, hr]
    rfl
  · have hfinal : ¬ t.Refuses m q s k := fun ⟨e, he⟩ => by rw [hpayload] at he; cases he
    rw [hended.eq_answer hk hfinal, hpayload]
    rfl
  · rcases hended.of_refused he hpos with ⟨-, hlate, rfl⟩ | ⟨hall, -⟩
    · have := helapsed n
      exact ⟨by omega, rfl⟩
    · omega
  · rcases hended.of_refused he hpos with ⟨hmore, -⟩ | ⟨hall, rfl⟩
    · omega
    · exact ⟨hall, rfl⟩

/-- How a send goes that begins in the world `s`: what it asks for, and what it reports. -/
inductive Course (s : σ) : List SendCall → SendOutcome → Prop where
  | panicked {payload : PanicPayload}
      (lookup : (p.transport.queues m.topic s).1 = .panicked payload) :
      Course s [.queues m.topic] (.failed ("send panicked: " ++ payload.message))
  | failed {e : String} (lookup : (p.transport.queues m.topic s).1 = .returned (.error e)) :
      Course s [.queues m.topic] (.failed e)
  | unrouted (lookup : (p.transport.queues m.topic s).1 = .returned (.ok [])) :
      Course s [.queues m.topic] (.failed ("no queues for topic " ++ m.topic))
  | attempted {queues : List Queue} {q : Queue} {n : Nat} {outcome : SendOutcome}
      (lookup : (p.transport.queues m.topic s).1 = .returned (.ok queues))
      (queue : selectQueue queues m.key = some q)
      (attempted : Attempted p.transport m q (p.transport.now s) p.config.sendTimeout
        p.config.retryTimes.toNat (p.transport.queues m.topic s).2 n outcome) :
      Course s (.queues m.topic :: List.replicate n (.send m q)) outcome

/-- The limit is one more than the retries, in the arithmetic of words of 32 bits. -/
theorem toNat_attemptLimit (c : ProducerConfig) :
    (attemptLimit c).toNat = (c.retryTimes.toNat + 1) % UInt32.size :=
  UInt32.toNat_add _ _

/-- Of some queues one is always selected. -/
theorem selectQueue_of_ne_nil {queues : List Queue} (h : queues ≠ []) (key : String) :
    ∃ q ∈ queues, selectQueue queues key = some q := by
  have hpos : 0 < queues.length := List.length_pos_iff.mpr h
  have hlt := Nat.mod_lt (keyHash key).toInt.natAbs hpos
  refine ⟨_, List.getElem_mem hlt, ?_⟩
  rw [selectQueue, selectIndex, if_neg (Nat.ne_of_gt hpos)]
  exact List.getElem?_eq_getElem hlt

/-- **The course of a send** past its lock, when the number of its attempts fits. -/
theorem send_course (hbegun : p.exclusion.begun (p.lockKey m.key) s = some s₁)
    (hretries : p.config.retryTimes.toNat + 1 < UInt32.size) (hclock : p.transport.Forward) :
    Course p m s₁ (p.calls m s) (p.dispatch m s).1 := by
  obtain ⟨hcalls, hout⟩ := routed_of_begun p m hbegun
  rcases hlookup : (p.transport.queues m.topic s₁).1 with (e | queues) | payload
  · rw [sendRouted, recorded_lookup, hlookup] at hcalls hout
    rw [hcalls, hout]
    exact .failed hlookup
  · by_cases hqueues : queues = []
    · subst hqueues
      rw [sendRouted, recorded_lookup, hlookup] at hcalls hout
      rw [hcalls, hout]
      exact .unrouted hlookup
    · obtain ⟨q, -, hqueue⟩ := selectQueue_of_ne_nil hqueues m.key
      obtain ⟨n, result, hended, hcalls, hout⟩ := ended_of_begun p m hbegun hlookup hqueue
      rw [toNat_attemptLimit, Nat.mod_eq_of_lt hretries] at hended
      rw [hcalls, hout]
      exact .attempted hlookup hqueue (attempted_of_ended hclock (hclock.queues _ _) hended)
  · rw [sendRouted, recorded_lookup, hlookup] at hcalls hout
    rw [hcalls, hout]
    exact .panicked hlookup

end Producer

namespace Rehearsal.SendWorld

/-- Whatever its script is, the clock of a transport that answers as told goes forward. -/
theorem forward_scripted (script : TransportScript) : (scripted script).Forward where
  queues _ _ := Nat.le_refl _
  send _ q s := by
    show s.locks.now ≤ (sendScripted script q s).2.locks.now
    unfold sendScripted
    dsimp only
    split <;> exact Nat.le_add_right _ _

/-- A broker that nobody asks, and locks that are free. -/
def quiet : SendWorld where
  broker := .ofConfig { name := "b" }
  locks := .ofConfig {}

/-- Two sends are refused quickly, and a third one slowly. -/
def tiring : TransportScript where
  sends := [⟨Time.millis 5, .refused "a"⟩, ⟨Time.millis 5, .refused "b"⟩,
    ⟨Time.millis 120, .refused "c"⟩]

def tired (c : ProducerConfig) : Producer SendWorld LockHandle where
  config := c
  transport := scripted tiring
  exclusion := .locked (site.mutex (Time.millis 5))

end Rehearsal.SendWorld

namespace Producer

open Rehearsal (SendWorld)

variable (p : Producer σ η) (m : Message) {s s₁ : σ}

/-- The slow attempt takes what is left of the budget, and its error is the one reported. -/
theorem send_course_tired :
    let p := SendWorld.tired { retryTimes := 5, sendTimeout := Time.millis 80 }
    let m : Message := ⟨"t", "", "k", [1], .immediate⟩
    let out := (p.dispatch m .quiet).1
    out = .failed "send timed out after 3 attempt(s): c" ∧
      ∃ s₁, p.exclusion.begun (p.lockKey m.key) .quiet = some s₁ ∧
        Course p m s₁ (p.calls m .quiet) out := by
  intro p m out
  have hbegun : (p.exclusion.begun (p.lockKey m.key) .quiet).isSome = true := by decide +kernel
  obtain ⟨s₁, hs₁⟩ := Option.isSome_iff_exists.mp hbegun
  exact ⟨by decide +kernel, s₁, hs₁,
    send_course p m hs₁ (by decide) (SendWorld.forward_scripted SendWorld.tiring)⟩

/-! ## The number of attempts -/

/-- **A send that has a queue makes no more attempts than it may**, and one at least exactly when
their greatest number fits in 32 bits. -/
theorem attempts_counted (hbegun : p.exclusion.begun (p.lockKey m.key) s = some s₁)
    {queues : List Queue} (hlookup : (p.transport.queues m.topic s₁).1 = .returned (.ok queues))
    (hqueues : queues ≠ []) :
    let fits := p.config.retryTimes.toNat + 1 < UInt32.size
    ((attemptLimit p.config).toNat = p.config.retryTimes.toNat + 1 ↔ fits) ∧
      ∃ q ∈ queues, ∃ n, p.calls m s = .queues m.topic :: List.replicate n (.send m q) ∧
        n ≤ p.config.retryTimes.toNat + 1 ∧ (0 < n ↔ fits) := by
  intro fits
  obtain ⟨q, hq, hqueue⟩ := selectQueue_of_ne_nil hqueues m.key
  obtain ⟨n, result, hended, hcalls, -⟩ := ended_of_begun p m hbegun hlookup hqueue
  have hsmall := p.config.retryTimes.toNat_lt_size
  have hlimit := toNat_attemptLimit p.config
  by_cases hfits : fits
  · rw [Nat.mod_eq_of_lt hfits] at hlimit
    rw [hlimit] at hended
    exact ⟨⟨fun _ => hfits, fun _ => hlimit⟩, q, hq, n, hcalls, hended.le,
      fun _ => hfits, fun _ => hended.pos (Nat.succ_pos _)⟩
  · -- the one number that does not fit becomes zero
    have hwrap : p.config.retryTimes.toNat + 1 = UInt32.size := by omega
    rw [hwrap, Nat.mod_self] at hlimit
    rw [hlimit] at hended
    have hnone := Nat.le_zero.mp hended.le
    refine ⟨⟨fun h => ?_, fun h => absurd h hfits⟩, q, hq, n, hcalls, by omega,
      fun h => absurd hnone (Nat.ne_of_gt h), fun h => absurd h hfits⟩
    rw [hlimit] at h
    cases h

/-- Two retries, for a send that has a queue. -/
theorem attempts_counted_tired :
    let p := SendWorld.tired {}
    let m : Message := ⟨"t", "", "k", [1], .immediate⟩
    ∃ q n, p.calls m .quiet = .queues "t" :: List.replicate n (.send m q) ∧ 0 < n ∧ n ≤ 3 := by
  intro p m
  have hbegun : (p.exclusion.begun (p.lockKey m.key) .quiet).isSome = true := by decide +kernel
  obtain ⟨s₁, hs₁⟩ := Option.isSome_iff_exists.mp hbegun
  have hlookup : (p.transport.queues m.topic s₁).1 =
      .returned (.ok ((List.range 4).map fun i => ⟨"t", "s", UInt32.ofNat i⟩)) := rfl
  obtain ⟨-, q, -, n, hcalls, hmost, hsome⟩ := attempts_counted p m hs₁ hlookup (by decide)
  exact ⟨q, n, hcalls, hsome.mpr (by decide), hmost⟩

/-- With the greatest number of retries, which an environment can set and which is valid, a send that
has a queue makes no attempt and fails without a reason. -/
theorem attempts_wrap :
    let c : ProducerConfig := { retryTimes := 4294967295 }
    let p := SendWorld.tired c
    let m : Message := ⟨"t", "", "k", [1], .immediate⟩
    c.validate = .ok () ∧
      ProducerConfig.fromEnvironment (.ofList [("LOCKMQ_PRODUCER_RETRY_TIMES", "4294967295")]) =
        .ok c ∧
      (∀ s, ∃ q queues, (p.transport.queues "t" s).1 = .returned (.ok (q :: queues))) ∧
      (p.exclusion.begun (p.lockKey m.key) .quiet).isSome = true ∧
      attemptLimit c = 0 ∧ p.calls m .quiet = [.queues "t"] ∧ (p.dispatch m .quiet).1 = .failed "" := by
  -- the limit is zero modulo 2^32: the send looks up its queues and stops
  refine ⟨by rfl, by rfl, fun s => ⟨_, _, rfl⟩, ?_⟩
  decide +kernel

end Producer

end KeyedDelivery
