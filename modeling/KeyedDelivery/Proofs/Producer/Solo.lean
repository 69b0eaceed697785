import KeyedDelivery.Producer.Traffic
import KeyedDelivery.Proofs.Lock.Attempt
import KeyedDelivery.Proofs.Producer.Agreement
import KeyedDelivery.Proofs.Producer.Stage

/-!
# A send with nobody else acting

A producer that sends by itself does so in one go (`Producer.dispatch`). That is one of the runs in
which any number of sends take their steps.

* **`Leads`** — one state leads to another by the steps of one send, while time passes.
* **`leads_answered`** — the stages of a send lead to its answer.
* **`leads_tried`** — the looks of a send lead to the answer of its attempt to take the lock;
  induction on the time that is left, as for a handle by itself.
* **`dispatch_run`** — a whole send is such a run, with the outcome, the registry and the world that
  `dispatch` leaves.
-/

namespace KeyedDelivery

variable {σ : Type}

/-! ## Producers that share a world with their locks -/

/-- A transport in a world that has locks beside it. -/
def SendTransport.beside (t : SendTransport σ) : SendTransport (LockRegistry × σ) where
  start w := ((t.start w.2).1, (w.1, (t.start w.2).2))
  queues topic w := ((t.queues topic w.2).1, (w.1, (t.queues topic w.2).2))
  send m q w := ((t.send m q w.2).1, (w.1, (t.send m q w.2).2))
  shutdown w := (w.1, t.shutdown w.2)
  now w := t.now w.2

namespace Sender

/-- A producer without locks. -/
def plain (p : Sender σ) : Producer σ LockHandle := ⟨p.config, p.transport, .unlocked⟩

def locks (last : Option Nat) : LockService (LockRegistry × σ) LockHandle :=
  LockRegistry.service Prod.fst (fun r w => (r, w.2)) last

/-- A producer with its locks beside its world. `last` is the greatest reading of their clock, if there
is one. -/
def producer (p : Sender σ) (last : Option Nat) : Producer (LockRegistry × σ) LockHandle where
  config := p.config
  transport := p.transport.beside
  exclusion :=
    match p.patience with
    | none => .unlocked
    | some timeout => .locked { service := locks last, defaultTimeout := timeout }

end Sender

/-- A transport agrees with itself in a world that has locks beside it, and leaves them alone. -/
theorem SendTransport.agree_beside (t : SendTransport σ) (r : LockRegistry) :
    Agree (fun w s => w = (r, s)) t.beside t where
  now := by
    rintro _ s rfl
    rfl
  queues := by
    rintro topic _ s rfl
    exact ⟨rfl, rfl⟩
  send := by
    rintro m q _ s rfl
    exact ⟨rfl, rfl⟩

/-- The locks beside a world do not matter to a send. -/
theorem sendGuarded_producer (p : Sender σ) (last : Option Nat) (m : Message) (w : LockRegistry × σ) :
    (p.producer last).sendGuarded m w =
      ((p.plain.sendGuarded m w.2).1, (w.1, (p.plain.sendGuarded m w.2).2)) := by
  obtain ⟨hanswer, hworld⟩ := (p.transport.agree_beside w.1).sendGuarded (p.producer last) p.plain
    rfl (show w = (w.1, w.2) from rfl) m
  exact Prod.ext hanswer hworld

namespace Traffic

/-! ## One send by itself -/

/-- A step of the send `i`, or time that passes at the locks. -/
def Event.ofSend (i : Nat) (e : Event σ) : Prop := e = .proceed i ∨ ∃ d, e = .locks (.advance d)

/-- One state leads to another by the steps of one send. -/
def Leads (i : Nat) (x y : Traffic σ) : Prop := ∃ es, (∀ e ∈ es, e.ofSend i) ∧ x.run es = y

namespace Leads

variable {i : Nat} {x y z : Traffic σ}

theorem refl (i : Nat) (x : Traffic σ) : Leads i x x := ⟨[], (fun _ h => nomatch h), rfl⟩

theorem step {e : Event σ} (he : e.ofSend i) (h : Leads i (x.step e) y) : Leads i x y := by
  obtain ⟨es, hes, hrun⟩ := h
  exact ⟨e :: es, List.forall_mem_cons.mpr ⟨he, hes⟩, hrun⟩

theorem trans (h : Leads i x y) (h' : Leads i y z) : Leads i x z := by
  obtain ⟨es, hes, rfl⟩ := h
  obtain ⟨es', hes', rfl⟩ := h'
  refine ⟨es ++ es', List.forall_mem_append.mpr ⟨hes, hes'⟩, ?_⟩
  rw [run, List.foldl_append]
  rfl

end Leads

section Lone

variable (base : List (Sending σ)) (p : Sender σ) (m : Message)

/-- The last send has come to a point; those before it do nothing. -/
def lone (point : SendPoint) (locks : Contention) (w : σ) : Traffic σ :=
  { locks, world := w, sends := base ++ [⟨p, m, point⟩] }

/-- The last send ends with the outcome `out.1`, and leaves the registry and the world `out.2`. -/
def Ends (x : Traffic σ) (out : SendOutcome × LockRegistry × σ) : Prop :=
  ∃ locks, locks.registry = out.2.1 ∧
    Leads base.length x (lone base p m (.ended out.1) locks out.2.2)

/-- What becomes of a send after its attempt to take the lock. -/
def afterTry (w : σ) : LockRegistry.Ended → SendOutcome × LockRegistry × σ
  | (.returned (.ok true), h, r) =>
    let (result, w) := p.plain.sendGuarded m w
    (Producer.outcomeOf (.ok result), ((r.unlock h).2.2, w))
  | (.returned (.ok false), _, r) => (Producer.outcomeOf (.error .notAcquired), (r, w))
  | (.returned (.error e), _, r) => (Producer.outcomeOf (.error (.ofError e)), (r, w))
  | (.panicked payload, _, r) => (.panicked payload, (r, w))

variable {base p m}
variable {point : SendPoint} {locks : Contention} {w : σ}

theorem step_lone : (lone base p m point locks w).step (.proceed base.length) =
    let next := (lone base p m point locks w).advance ⟨p, m, point⟩
    lone base p m next.1 next.2.1 next.2.2 := by
  have hlast : (base ++ [(⟨p, m, point⟩ : Sending σ)])[base.length]? = some ⟨p, m, point⟩ :=
    List.getElem?_concat_length
  simp only [step, lone, hlast]
  simp

/-- The send takes its next step. -/
theorem Leads.proceed {y : Traffic σ}
    (h : let next := (lone base p m point locks w).advance ⟨p, m, point⟩
      Leads base.length (lone base p m next.1 next.2.1 next.2.2) y) :
    Leads base.length (lone base p m point locks w) y := by
  refine .step (.inl rfl) ?_
  rw [step_lone]
  exact h

theorem Ends.proceed {out : SendOutcome × LockRegistry × σ}
    (h : let next := (lone base p m point locks w).advance ⟨p, m, point⟩
      Ends base p m (lone base p m next.1 next.2.1 next.2.2) out) :
    Ends base p m (lone base p m point locks w) out := by
  obtain ⟨locks', hregistry, hleads⟩ := h
  exact ⟨locks', hregistry, .proceed hleads⟩

/-- **The stages of a send lead to its answer**; induction on the stages that are left. -/
theorem leads_answered (hold : Option Hold) (stage : SendStage) :
    Leads base.length (lone base p m (.sending hold stage) locks w)
      (lone base p m (.sending hold (.answered (stage.rest p.plain m w).1)) locks
        (stage.rest p.plain m w).2) := by
  -- each step of a send leaves fewer steps, the lookup and the attempts alike
  induction hleft : stage.remaining p.config using Nat.strongRecOn generalizing stage w with
  | ind left ih =>
    by_cases hanswered : ∃ result, stage = .answered result
    · obtain ⟨result, rfl⟩ := hanswered
      exact .refl _ _
    · have hless := SendStage.remaining_advance p.config p.transport m w
        fun result h => hanswered ⟨result, h⟩
      have hstep := ih _ (hleft ▸ hless) (stage.advance p.config p.transport m w).1
        (w := (stage.advance p.config p.transport m w).2) rfl
      -- a step does not change what the rest of the send comes to
      have hrest : SendStage.rest p.plain m (stage.advance p.config p.transport m w).1
          (stage.advance p.config p.transport m w).2 = stage.rest p.plain m w :=
        SendStage.rest_advance p.plain m stage w
      rw [hrest] at hstep
      refine .proceed ?_
      cases stage with
      | answered result => exact absurd ⟨result, rfl⟩ hanswered
      | asking => cases hold <;> exact hstep
      | trying => cases hold <;> exact hstep

/-- A send without a lock ends with its answer. -/
theorem ends_free : Ends base p m (lone base p m (.sending none .asking) locks w)
    (Producer.outcomeOf (.ok (p.plain.sendGuarded m w).1), locks.registry,
      (p.plain.sendGuarded m w).2) :=
  ⟨locks, rfl, (leads_answered none .asking).trans (.proceed (.refl _ _))⟩

/-- A send that was granted its lock ends with its answer, and releases the lock. -/
theorem ends_held {n since : Nat} {h : LockHandle}
    (hfind : locks.contenders.find? n = some (.idle h)) :
    Ends base p m (lone base p m (.sending (some ⟨n, since⟩) .asking) locks w)
      (Producer.outcomeOf (.ok (p.plain.sendGuarded m w).1), (locks.registry.unlock h).2.2,
        (p.plain.sendGuarded m w).2) := by
  refine ⟨(locks.step (.unlock n)).2, ?_, (leads_answered _ .asking).trans (.proceed (.refl _ _))⟩
  rw [Contention.step, hfind]
  rfl

/-- Once its attempt to take the lock has ended, the send goes on as the attempt says. -/
theorem ends_afterLook {n since : Nat} {answer : Option Contention.Answer}
    {ended : LockRegistry.Ended} (h : Contention.Ends n (answer, locks) ended) :
    Ends base p m (lone base p m (.afterLook n since answer) locks w) (afterTry p m w ended) := by
  obtain ⟨result, handle, r⟩ := ended
  obtain ⟨rfl, rfl, hfind⟩ : answer = some (.ofTry n result) ∧ locks.registry = r ∧
      locks.contenders.find? n = some (.idle handle) := ⟨h.answer, h.registry, h.handle⟩
  -- only a handle that was granted its lock goes on to the send
  rcases result with (e | granted) | payload
  · exact ⟨locks, rfl, .refl _ _⟩
  · cases granted with
    | false => exact ⟨locks, rfl, .refl _ _⟩
    | true => exact ends_held hfind
  · exact ⟨locks, rfl, .refl _ _⟩

/-- **The looks of a send lead to the end of its attempt**; induction on the time that is left. -/
theorem ends_waiting {n : Nat} {waiter : LockRegistry.Waiter}
    (hfind : locks.contenders.find? n = some (.waiting waiter)) :
    Ends base p m (lone base p m (.waiting n) locks w)
      (afterTry p m w (locks.registry.await waiter)) := by
  induction hleft : waiter.deadline - locks.now using Nat.strongRecOn generalizing locks with
  | ind left ih =>
    rcases Contention.lookOnce_cases locks n waiter with hends | ⟨wake, hnow, hdeadline, hawait, -⟩
    · refine .proceed ?_
      rw [advance]
      show Ends base p m (lone base p m (.afterLook n locks.now (locks.step (.look n)).1)
        (locks.step (.look n)).2 w) _
      rw [Contention.step, hfind]
      exact ends_afterLook hends
    · -- the clock moves to the reading at which the send looks again
      let later : Contention := { locks with registry := { locks.registry with now := wake } }
      have hless : waiter.deadline - later.now < left := by
        show waiter.deadline - wake < left
        omega
      have hlater : later.contenders.find? n = some (.waiting waiter) := hfind
      obtain ⟨locks', hregistry, hleads⟩ := ih _ hless hlater rfl
      have hmoved : locks.registry.advance (wake - locks.now) =
          { locks.registry with now := wake } := LockRegistry.advance_to (Nat.le_of_lt hnow)
      rw [hawait]
      refine ⟨locks', hregistry, .step (.inr ⟨wake - locks.now, rfl⟩) ?_⟩
      show Leads _ (lone base p m _ { locks with
        registry := locks.registry.advance (wake - locks.now) } w) _
      rw [hmoved]
      exact hleads

/-- A send that has come to its lock tries to take it in the time it has. -/
theorem ends_contending {n timeout : Nat} {h : LockHandle}
    (hfind : locks.contenders.find? n = some (.idle h)) :
    Ends base p m (lone base p m (.contending n (locks.now + timeout)) locks w)
      (afterTry p m w (locks.registry.tryLock h timeout locks.lastReading)) := by
  refine .proceed ?_
  have hleft : locks.now + timeout - locks.now = timeout := Nat.add_sub_cancel_left _ _
  have hstep : locks.step (.enter n timeout) = locks.enter n h timeout := by
    rw [Contention.step, hfind]
  show Ends base p m (lone base p m
    (.afterLook n locks.now (locks.step (.enter n (locks.now + timeout - locks.now))).1)
    (locks.step (.enter n (locks.now + timeout - locks.now))).2 w) _
  rw [hleft, hstep, LockRegistry.tryLock, Contention.enter]
  rcases locks.registry.beginWait h timeout locks.lastReading with ⟨(e | waiter) | payload, r⟩
  · -- the attempt is made to fail
    exact ends_afterLook ⟨rfl, rfl, hfind⟩
  · rcases Contention.lookOnce_cases { locks with registry := r } n waiter with
      hends | ⟨wake, -, -, -, hwaits⟩
    · exact ends_afterLook hends
    · simp only [hwaits]
      exact ends_waiting (Table.find?_put_self _ _ _)
  · -- the clock does not have the deadline
    exact ends_afterLook ⟨rfl, rfl, hfind⟩

end Lone

/-- What a send leaves when it is made at once. -/
theorem dispatch_producer (p : Sender σ) (last : Option Nat) (m : Message) (r : LockRegistry) (w : σ) :
    (p.producer last).dispatch m (r, w) =
      match p.patience with
      | none =>
        (Producer.outcomeOf (.ok (p.plain.sendGuarded m w).1), r, (p.plain.sendGuarded m w).2)
      | some timeout =>
        let key := (⟨p, m, .arriving⟩ : Sending σ).lockKey
        if key.isEmpty then
          (Producer.outcomeOf (.error (.invalidArgument (.empty "lock_key"))), r, w)
        else if timeout = 0 then
          (Producer.outcomeOf (.error (.invalidArgument (.notPositive "acquire_timeout"))), r, w)
        else afterTry p m w ((r.obtain key).2.tryLock (r.obtain key).1 timeout last) := by
  have hkey : (p.producer last).lockKey m.key = (⟨p, m, .arriving⟩ : Sending σ).lockKey := rfl
  cases hpatience : p.patience with
  | none =>
    have hfree : (p.producer last).exclusion = .unlocked := by rw [Sender.producer, hpatience]
    rw [Producer.dispatch, hfree, Exclusion.run, sendGuarded_producer]
    rfl
  | some timeout =>
    have hlocked : (p.producer last).exclusion =
        .locked { service := Sender.locks last, defaultTimeout := timeout } := by
      rw [Sender.producer, hpatience]
    rw [Producer.dispatch, hlocked, Exclusion.run, LockMutex.tryWithLock, hkey]
    dsimp only
    split
    · rfl
    split
    · rfl
    simp only [LockMutex.acquire, Sender.locks, LockRegistry.service]
    -- the handle and the attempt are named, so that only the answer is left to split
    generalize r.obtain _ = obtained
    obtain ⟨h, r⟩ := obtained
    dsimp only
    generalize r.tryLock h timeout last = ended
    rcases ended with ⟨(e | granted) | payload, h, r⟩
    · rfl
    · cases granted with
      | false => rfl
      | true =>
        dsimp only
        rw [sendGuarded_producer]
        rfl
    · rfl

/-- **A send by itself is made at once.** When nobody else acts, the steps of a send lead to the
outcome, the registry and the world that `Producer.dispatch` gives. -/
theorem dispatch_run (x : Traffic σ) (p : Sender σ) (m : Message) :
    Ends x.sends p m (x.step (.begin p m))
      ((p.producer x.locks.lastReading).dispatch m (x.locks.registry, x.world)) := by
  have hbegin : x.step (.begin p m) = lone x.sends p m .arriving x.locks x.world := rfl
  rw [hbegin, dispatch_producer]
  -- the first step decides whether there is a lock to take at all
  refine .proceed ?_
  cases hpatience : p.patience with
  | none =>
    simp only [advance, hpatience]
    exact ends_free
  | some timeout =>
    simp only [advance, hpatience]
    split
    · exact ⟨_, rfl, .refl _ _⟩
    split
    · exact ⟨_, rfl, .refl _ _⟩
    · exact ends_contending (Table.find?_put_self _ _ _)

end Traffic

end KeyedDelivery
