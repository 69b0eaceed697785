import KeyedDelivery.Proofs.Lock.Kept
import KeyedDelivery.Proofs.Producer.Agreement
import KeyedDelivery.Proofs.Producer.Outcome
import KeyedDelivery.Proofs.Producer.Pooled

/-!
# Sends keep the locks

A send takes its lock and releases it. With nobody else acting, what it leaves of the locks is what
would be left if only time had passed.

* **`sendGuarded_keeps`** — a send by itself keeps what the transport keeps; so it does nothing to the
  locks but let time pass (`elapsed_sendGuarded`).
* **`Excluded`** — how something is done under a lock, with nobody else acting: the handle is refused at
  once, waits until its time has run out, or is granted the lock (`excluded_run`).
* **`kept_dispatch`**, **`kept_run`** — a send keeps the locks, and so do any number of sends between
  which time passes.
-/

namespace KeyedDelivery

variable {σ η : Type}

/-- **A send keeps what its transport keeps.** It is a send that agrees with itself. -/
theorem Producer.sendGuarded_keeps {P : σ → Prop} {p : Producer σ η}
    (queues : ∀ topic s, P s → P (p.transport.queues topic s).2)
    (send : ∀ m q s, P s → P (p.transport.send m q s).2) (m : Message) {s : σ} (hs : P s) :
    P (p.sendGuarded m s).2 := by
  have agree : SendTransport.Agree (fun s s' => s = s' ∧ P s) p.transport p.transport := {
    now := fun ⟨heq, _⟩ => by rw [heq]
    queues := fun topic {s s'} ⟨heq, hs⟩ => heq ▸ ⟨rfl, rfl, queues topic s hs⟩
    send := fun m q {s s'} ⟨heq, hs⟩ => heq ▸ ⟨rfl, rfl, send m q s hs⟩ }
  exact (agree.sendGuarded p p rfl ⟨rfl, hs⟩ m).2.2

namespace SendSite

variable (w : SendSite σ)

/-- While something is sent, nothing happens to the locks but that time passes. -/
theorem elapsed_sendGuarded (c : ProducerConfig) (patience : Option Nat) (m : Message) (s : σ) :
    ∃ d, w.locks ((w.producer c patience).sendGuarded m s).2 = (w.locks s).advance d := by
  have hasked (b : Broker) (s' : σ) (h : ∃ d, w.locks s' = (w.locks s).advance d) :
      ∃ d, w.locks (w.setBroker b s') = (w.locks s).advance d := by
    obtain ⟨d, hd⟩ := h
    obtain ⟨d', hd'⟩ := w.locks_setBroker b s'
    refine ⟨d + d', ?_⟩
    rw [hd', hd, LockRegistry.advance, LockRegistry.advance, LockRegistry.advance, Nat.add_assoc]
  exact Producer.sendGuarded_keeps (P := fun s' => ∃ d, w.locks s' = (w.locks s).advance d)
    (fun topic s' => hasked _ s') (fun m q s' => hasked _ s') m ⟨0, rfl⟩

/-! ## Under a lock -/

/-- How something is done under a lock with nobody else acting, after a new handle `h` was handed out
by the registry, which is `r` afterwards. -/
inductive Excluded {α : Type} (patience : Option Nat) (key : String) (send : σ → α × σ) (s : σ)
    (h : LockHandle) (r : LockRegistry) : Outcome (Except SkipReason α) × σ → Prop where
  /-- It is done without a lock. -/
  | unlocked (hnone : patience = none) :
      Excluded patience key send s h r (.returned (.ok (send s).1), (send s).2)
  /-- The key is empty, or there is no time to wait for the lock. -/
  | unready (skip : SkipReason) {timeout : Nat} (hsome : patience = some timeout)
      (unready : key.isEmpty = true ∨ timeout = 0) :
      Excluded patience key send s h r (.returned (.error skip), s)
  /-- The attempt is made to fail. -/
  | failed (skip : SkipReason) {timeout : Nat} (hsome : patience = some timeout)
      (ready : ¬ (key.isEmpty = true ∨ timeout = 0)) (injected : 0 < r.failNext) :
      Excluded patience key send s h r
        (.returned (.error skip),
          w.setLocks { r with failNext := r.failNext - 1 } (w.setLocks r s))
  /-- The lock is busy when the time to wait has run out. -/
  | timedOut (skip : SkipReason) {timeout : Nat} (hsome : patience = some timeout)
      (ready : ¬ (key.isEmpty = true ∨ timeout = 0)) (uninjected : r.failNext = 0) {n : Nat}
      (later : r.now ≤ n) (busy : { r with now := n }.isFree h = false) :
      Excluded patience key send s h r
        (.returned (.error skip), w.setLocks { r with now := n } (w.setLocks r s))
  /-- The lock is free at some reading of the clock, and released afterwards. -/
  | ran {timeout : Nat} (hsome : patience = some timeout)
      (ready : ¬ (key.isEmpty = true ∨ timeout = 0)) (uninjected : r.failNext = 0) {n : Nat}
      (later : r.now ≤ n) (free : { r with now := n }.isFree h = true) {s₁ : σ}
      (taken : s₁ = w.setLocks ({ r with now := n }.grant h) (w.setLocks r s)) :
      Excluded patience key send s h r
        (.returned (.ok (send s₁).1),
          w.setLocks ((w.locks (send s₁).2).unlock { h with held := true }).2.2 (send s₁).2)

/-- **What is done under a lock is done so.** -/
theorem excluded_run {α : Type} (patience : Option Nat) (key : String) (send : σ → α × σ) (s : σ) :
    w.Excluded patience key send s ((w.locks s).obtain key).1 ((w.locks s).obtain key).2
      ((w.exclusion patience).run key send s) := by
  cases patience with
  | none => exact .unlocked rfl
  | some timeout =>
    have hrun : (w.exclusion (some timeout)).run key send s = (w.mutex timeout).tryWithLock key
        timeout (fun s => (.returned (send s).1, (send s).2)) s := rfl
    rw [hrun, LockMutex.tryWithLock]
    by_cases hempty : key.isEmpty = true
    · rw [if_pos hempty]
      exact .unready _ rfl (.inl hempty)
    by_cases hzero : timeout = 0
    · rw [if_neg hempty, if_pos hzero]
      exact .unready _ rfl (.inr hzero)
    have ready : ¬ (key.isEmpty = true ∨ timeout = 0) := not_or.mpr ⟨hempty, hzero⟩
    rw [if_neg hempty, if_neg hzero, w.acquire_eq]
    -- with nobody else acting there are three courses, and each is one way of `Excluded`
    have hcourse := LockRegistry.course_of_tryLock ((w.locks s).obtain key).2
      ((w.locks s).obtain key).1 timeout
    generalize ((w.locks s).obtain key).1 = h, ((w.locks s).obtain key).2 = r at hcourse ⊢
    generalize r.tryLock h timeout = ended at hcourse
    cases hcourse with
    | failed e injected => exact .failed _ rfl ready injected
    | granted n later uninjected free => exact .ran rfl ready uninjected later free rfl
    | timedOut n later uninjected busy => exact .timedOut _ rfl ready uninjected later busy

variable {w}

/-- What is done under a lock keeps the locks, if it does nothing to them but let time pass. -/
theorem Excluded.kept {α : Type} {patience : Option Nat} {key : String} {send : σ → α × σ} {s : σ}
    {out : Outcome (Except SkipReason α) × σ} (fresh : (w.locks s).Fresh)
    (elapsed : ∀ s, ∃ d, w.locks (send s).2 = (w.locks s).advance d)
    (h : w.Excluded patience key send s ((w.locks s).obtain key).1 ((w.locks s).obtain key).2 out) :
    LockRegistry.Kept (w.locks s) (w.locks out.2) := by
  have hobtained : LockRegistry.Kept (w.locks s) ((w.locks s).obtain key).2 :=
    .of_held fresh rfl (Nat.le_refl _) rfl (Nat.le_succ _)
  have lacks : ((w.locks s).obtain key).2.Lacks ((w.locks s).obtain key).1.token := fresh.lacks
  cases h with
  | unlocked hnone =>
    obtain ⟨d, hd⟩ := elapsed s
    rw [hd]
    exact LockRegistry.kept_advance fresh d
  | unready => exact .refl fresh
  | failed =>
    rw [w.locks_setLocks]
    exact .of_held fresh rfl (Nat.le_refl _) rfl (Nat.le_succ _)
  | timedOut skip hsome ready uninjected later busy =>
    rw [w.locks_setLocks]
    exact .of_held fresh rfl later rfl (Nat.le_succ _)
  | ran hsome ready uninjected later free taken =>
    -- the record that was entered is still there when the lock is released
    obtain ⟨d, hd⟩ := elapsed _
    rw [w.locks_setLocks, hd, taken, w.locks_setLocks]
    exact hobtained.trans (LockRegistry.kept_released hobtained.fresh lacks later free d)

variable (w)

/-- **A send keeps the locks.** -/
theorem kept_dispatch (c : ProducerConfig) (patience : Option Nat) (m : Message) {s : σ}
    (fresh : (w.locks s).Fresh) :
    LockRegistry.Kept (w.locks s) (w.locks ((w.producer c patience).dispatch m s).2) :=
  (w.excluded_run patience _ _ s).kept fresh fun s => w.elapsed_sendGuarded c patience m s

/-! ## Sends between which time passes -/

/-- Nothing happens to the world but that time passes. -/
structure Idles (f : σ → σ) : Prop where
  broker : ∀ s, w.broker (f s) = w.broker s
  client : ∀ s, w.client (f s) = w.client s
  locks : ∀ s, ∃ d, w.locks (f s) = (w.locks s).advance d

theorem kept_step (c : ProducerConfig) (patience : Option Nat) {e : Producer.Event σ} {s : σ}
    (idles : ∀ f ∈ Producer.besides [e], w.Idles f) (fresh : (w.locks s).Fresh) :
    LockRegistry.Kept (w.locks s) (w.locks ((w.producer c patience).step s e)) := by
  cases e with
  | send a =>
    cases hmessage : a.message? with
    | none =>
      rw [Producer.step_of_invalid hmessage]
      exact .refl fresh
    | some m =>
      rw [Producer.step_of_valid hmessage]
      exact w.kept_dispatch c patience m fresh
  | elsewhere f =>
    obtain ⟨d, hd⟩ := (idles f (List.mem_singleton_self f)).locks s
    show LockRegistry.Kept _ (w.locks (f s))
    rw [hd]
    exact LockRegistry.kept_advance fresh d

/-- **Any number of sends keep the locks**, when nothing happens in between but that time passes;
induction on the events. -/
theorem kept_run (c : ProducerConfig) (patience : Option Nat) (ds : List (Producer.Event σ)) {s : σ}
    (idles : ∀ f ∈ Producer.besides ds, w.Idles f) (fresh : (w.locks s).Fresh) :
    LockRegistry.Kept (w.locks s) (w.locks ((w.producer c patience).run s ds)) := by
  induction ds generalizing s with
  | nil => exact .refl fresh
  | cons e ds ih =>
    have happend : Producer.besides (e :: ds) = Producer.besides [e] ++ Producer.besides ds :=
      Producer.besides_append [e] ds
    rw [happend, List.forall_mem_append] at idles
    have hfirst := w.kept_step c patience idles.1 fresh
    exact hfirst.trans (ih idles.2 hfirst.fresh)

end SendSite

end KeyedDelivery
