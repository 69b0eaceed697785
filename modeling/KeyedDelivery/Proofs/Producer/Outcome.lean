import KeyedDelivery.Producer.Site
import KeyedDelivery.Proofs.Broker.Acceptance
import KeyedDelivery.Proofs.Lock.Tokens
import KeyedDelivery.Rehearsal.Sends

/-!
# The outcome of a send tells what was stored

A send goes through the message's checks, the lock of its key, the queues of the topic, and attempts
that are repeated until one is accepted, none is left or the time has run out. Whichever way it ends,
the outcome is what the broker has done.

* **`Ended`** — how the part of a send that runs under the lock ends: with a true answer, and with the
  records of the locks as they were.
* **`attempts_ended`** — the loop ends so; induction on the attempts that are left.
* **`run_cases`** — what is done under a lock is done once, between the grant and the release; or not
  at all, and then what it would have been does not matter.
* **`sendSync_truthful`** — the whole.
-/

namespace KeyedDelivery

namespace SendSite

open Broker (Stored Unstored)

variable {σ : Type} (w : SendSite σ)

/-! ## Under the lock -/

/-- A part of a send ends with a true answer about the message, and the locks are recorded as they
were. -/
structure Ended (m : Message) (s : σ) (out : Except String Receipt × σ) : Prop where
  answered : Broker.Answered m (w.broker s) (w.broker out.2) out.1
  held : (w.locks out.2).held = (w.locks s).held

/-- What comes before may store nothing. -/
theorem Ended.after {m : Message} {s s' : σ} {out : Except String Receipt × σ}
    (hbroker : Unstored m.topic (w.broker s) (w.broker s'))
    (hheld : (w.locks s').held = (w.locks s).held) (h : w.Ended m s' out) : w.Ended m s out where
  answered := h.answered.after hbroker
  held := h.held.trans hheld

theorem held_setBroker (b : Broker) (s : σ) : (w.locks (w.setBroker b s)).held = (w.locks s).held := by
  obtain ⟨d, hd⟩ := w.locks_setBroker b s
  rw [hd]
  rfl

/-- Asking for the queues of a topic stores nothing. -/
theorem queues_unstored (topic : String) (s : σ) :
    ∃ answer b, w.transport.queues topic s = (.returned answer, w.setBroker b s) ∧
      Unstored topic (w.broker s) b :=
  ⟨_, ((w.client s).queues (w.broker s) topic).2, rfl, Broker.unstored_queues _ _ topic⟩

/-- One attempt is answered truly. -/
theorem send_ended (m : Message) (q : Queue) (s : σ) :
    ∃ out, w.transport.send m q s = (.returned out.1, out.2) ∧ w.Ended m s out := by
  let reply := (w.client s).send (w.broker s) (w.brokerNow s) m q
  refine ⟨(reply.1.mapError (·.message), w.setBroker reply.2 s), rfl, ?_, w.held_setBroker _ s⟩
  simp only [w.broker_setBroker]
  exact Broker.answered_send _ _ _ m q

/-- **The attempts end with a true answer.** All but the last have stored nothing. -/
theorem attempts_ended (m : Message) (q : Queue) (deadline left made : Nat) (last : String) (s : σ) :
    ∃ out, Producer.attempts w.transport m q deadline left made last s = (.returned out.1, out.2) ∧
      w.Ended m s out := by
  have stopped (e : String) : w.Ended m s (.error e, s) := ⟨.refused e (.refl m.topic _), rfl⟩
  induction left generalizing made last s with
  | zero => exact ⟨(.error last, s), rfl, stopped last⟩
  | succ left ih =>
    rw [Producer.attempts]
    split
    · exact ⟨(.error _, s), rfl, stopped _⟩
    · obtain ⟨⟨answer, s'⟩, hsend, hended⟩ := w.send_ended m q s
      rw [hsend]
      cases answer with
      | ok r => exact ⟨(.ok r, s'), rfl, hended⟩
      | error e =>
        -- the attempt was refused, so that the next one starts with nothing stored
        obtain ⟨out, hout, hrest⟩ := ih (made + 1) e s'
          fun e => ⟨.refused e (.refl m.topic _), rfl⟩
        obtain ⟨_ | ⟨_, hunstored⟩, hheld⟩ := hended
        exact ⟨out, hout, hrest.after w hunstored hheld⟩

/-- What runs under the lock ends with a true answer. -/
theorem sendGuarded_ended (c : ProducerConfig) (timeout : Option Nat) (m : Message) (s : σ) :
    w.Ended m s ((w.producer c timeout).sendGuarded m s) := by
  obtain ⟨answer, b, hqueues, hunstored⟩ := w.queues_unstored m.topic s
  have hbroker : Unstored m.topic (w.broker s) (w.broker (w.setBroker b s)) := by
    rwa [w.broker_setBroker]
  -- a send that ends before its first attempt has stored nothing
  have stopped (e : String) : w.Ended m s (.error e, w.setBroker b s) :=
    ⟨.refused e hbroker, w.held_setBroker b s⟩
  have htransport : (w.producer c timeout).transport = w.transport := rfl
  rw [Producer.sendGuarded, Producer.sendRouted, htransport, hqueues]
  cases answer with
  | error e => exact stopped e
  | ok queues =>
    simp only
    cases selectQueue queues m.key with
    | none => exact stopped _
    | some q =>
      obtain ⟨out, hout, hended⟩ := w.attempts_ended m q
        (w.transport.now s + c.sendTimeout) (Producer.attemptLimit c).toNat 0 "" (w.setBroker b s)
      have hconfig : (w.producer c timeout).config = c := rfl
      simp only [hconfig, hout]
      exact hended.after w hbroker (w.held_setBroker b s)

/-! ## The lock -/

/-- Taking a lock asks the registry for a new handle, which tries to take the lock. -/
theorem acquire_eq (key : String) (timeout : Nat) (s : σ) :
    let h := ((w.locks s).obtain key).1
    let r := ((w.locks s).obtain key).2
    let ended := r.tryLock h timeout
    (w.mutex timeout).acquire key timeout s =
      (match ended.1 with
        | .returned (.ok true) => .returned (.ok ended.2.1)
        | .returned (.ok false) => .returned (.error .notAcquired)
        | .returned (.error e) => .returned (.error (.ofError e))
        | .panicked p => .panicked p, w.setLocks ended.2.2 (w.setLocks r s)) := by
  intro h r
  have hobtain : (w.mutex timeout).service.obtain key s = (.ok h, w.setLocks r s) := rfl
  have htry : (w.mutex timeout).service.tryLock timeout h (w.setLocks r s) =
      ((r.tryLock h timeout).1, (r.tryLock h timeout).2.1,
        w.setLocks (r.tryLock h timeout).2.2 (w.setLocks r s)) := by
    simp only [mutex, lockService, LockRegistry.service, w.locks_setLocks]
  rw [LockMutex.acquire, hobtain]
  simp only [htry]
  rcases r.tryLock h timeout with ⟨(e | granted) | p, h, r⟩
  · rfl
  · cases granted <;> rfl
  · rfl

/-- **Taking a lock** enters a new handle for its key, or changes no record and says why not. The
broker is not asked. -/
theorem acquire_cases (key : String) (timeout : Nat) (s : σ) :
    let h := ((w.locks s).obtain key).1
    (∃ s' expiresAt,
      (w.mutex timeout).acquire key timeout s = (.returned (.ok { h with held := true }), s') ∧
      w.broker s' = w.broker s ∧
      (w.locks s').held = (w.locks s).held.put h.key ⟨h.token, expiresAt⟩) ∨
    ∃ s' skip, (w.mutex timeout).acquire key timeout s = (.returned (.error skip), s') ∧
      w.broker s' = w.broker s ∧ (w.locks s').held = (w.locks s).held ∧
      ∀ text, skip ≠ .actionPanicked text := by
  intro h
  let r := ((w.locks s).obtain key).2
  have hbroker (r' : LockRegistry) : w.broker (w.setLocks r' (w.setLocks r s)) = w.broker s := by
    rw [w.broker_setLocks, w.broker_setLocks]
  have htried := r.tryLock_cases h timeout none
  rw [w.acquire_eq]
  change LockRegistry.Tried none r h (r.tryLock h timeout) at htried
  generalize r.tryLock h timeout = ended at htried
  -- only the granted attempt writes a record, and an endless clock does not panic
  cases htried with
  | granted expiresAt held =>
    refine .inl ⟨_, expiresAt, rfl, hbroker _, ?_⟩
    rw [w.locks_setLocks]
    exact held
  | timedOut held =>
    refine .inr ⟨_, .notAcquired, rfl, hbroker _, ?_, nofun⟩
    rw [w.locks_setLocks]
    exact held
  | failed e held =>
    refine .inr ⟨_, .ofError e, rfl, hbroker _, ?_, ?_⟩
    · rw [w.locks_setLocks]
      exact held
    · cases e <;> nofun
  | panicked limited held => exact absurd rfl limited

/-- How something that leaves the records of the locks alone is done under a lock. -/
inductive Alone {α : Type} (timeout : Option Nat) (key : String) (send : σ → α × σ) (s : σ) :
    Outcome (Except SkipReason α) × σ → Prop where
  /-- It is done once, with the broker as it is. -/
  | ran {s₁ s' : σ} (before : w.broker s₁ = w.broker s)
      (after : w.broker s' = w.broker (send s₁).2) :
      Alone timeout key send s (.returned (.ok (send s₁).1), s')
  /-- It is not done, and anything else would not have been done either. -/
  | skipped {s' : σ} (skip : SkipReason) (reason : ∀ text, skip ≠ .actionPanicked text)
      (kept : w.broker s' = w.broker s)
      (blind : ∀ other : σ → α × σ,
        (w.exclusion timeout).run key other s = (.returned (.error skip), s')) :
      Alone timeout key send s (.returned (.error skip), s')

/-- **What is done under a lock is done once or not at all**, and leaves no record of the token that
was handed out for it if it was not handed out before. -/
theorem run_alone {α : Type} (timeout : Option Nat) (key : String) (send : σ → α × σ) (s : σ)
    (hkeeps : ∀ s, (w.locks (send s).2).held = (w.locks s).held) :
    w.Alone timeout key send s ((w.exclusion timeout).run key send s) ∧
      ((w.locks s).Fresh →
        (w.locks ((w.exclusion timeout).run key send s).2).Lacks (w.locks s).nextToken) := by
  cases timeout with
  | none => exact ⟨.ran rfl rfl, fun hfresh => hfresh.lacks.congr (hkeeps s)⟩
  | some timeout =>
    have hrun (other : σ → α × σ) : (w.exclusion (some timeout)).run key other s =
        (w.mutex timeout).tryWithLock key timeout (fun s => (.returned (other s).1, (other s).2)) s :=
      rfl
    by_cases hempty : key.isEmpty
    · have hskip (other : σ → α × σ) : (w.exclusion (some timeout)).run key other s =
          (.returned (.error (.invalidArgument (.empty "lock_key"))), s) := by
        rw [hrun, LockMutex.tryWithLock, if_pos hempty]
      rw [hskip]
      exact ⟨.skipped _ nofun rfl hskip, LockRegistry.Fresh.lacks⟩
    by_cases hzero : timeout = 0
    · have hskip (other : σ → α × σ) : (w.exclusion (some timeout)).run key other s =
          (.returned (.error (.invalidArgument (.notPositive "acquire_timeout"))), s) := by
        rw [hrun, LockMutex.tryWithLock, if_neg hempty, if_pos hzero]
      rw [hskip]
      exact ⟨.skipped _ nofun rfl hskip, LockRegistry.Fresh.lacks⟩
    rcases w.acquire_cases key timeout s with
      ⟨s₁, expiresAt, hacquire, hbroker, hheld⟩ | ⟨s', skip, hacquire, hbroker, hheld, hreason⟩
    · -- the lock is granted, and its record is as it was entered when it is released
      let handle : LockHandle := { ((w.locks s).obtain key).1 with held := true }
      have hran : (w.exclusion (some timeout)).run key send s =
          (.returned (.ok (send s₁).1),
            w.setLocks ((w.locks (send s₁).2).unlock handle).2.2 (send s₁).2) := by
        rw [hrun, LockMutex.tryWithLock, if_neg hempty, if_neg hzero, hacquire]
        rfl
      rw [hran]
      refine ⟨.ran hbroker (w.broker_setLocks _ _), fun hfresh => ?_⟩
      rw [w.locks_setLocks]
      exact LockRegistry.lacks_unlock hfresh.lacks ((hkeeps s₁).trans hheld)
    · have hskip (other : σ → α × σ) : (w.exclusion (some timeout)).run key other s =
          (.returned (.error skip), s') := by
        rw [hrun, LockMutex.tryWithLock, if_neg hempty, if_neg hzero, hacquire]
      rw [hskip]
      exact ⟨.skipped skip hreason hbroker hskip, fun hfresh => hfresh.lacks.congr hheld⟩

/-! ## The whole -/

/-- An outcome tells what the broker has done with a message, and the locks have no record of the
send. -/
structure Truthful (m : Message) (s : σ) (out : SendOutcome × σ) : Prop where
  sent : ∀ r, out.1 = .sent r →
    Stored (w.broker s) (w.broker out.2) ⟨r.id, m, r.queue, r.offset, 0⟩
  unsent : out.1.isSent = false → Unstored m.topic (w.broker s) (w.broker out.2)
  skipped : ∀ skip, out.1 = .skipped skip → w.broker out.2 = w.broker s
  released : (w.locks out.2).Lacks (w.locks s).nextToken

/-- What is sent under a lock has the outcome that the broker's answer gives; when it is skipped, the
transport does not matter. -/
theorem dispatch_truthful (c : ProducerConfig) (timeout : Option Nat) (m : Message) (s : σ)
    (hfresh : (w.locks s).Fresh) :
    let p := w.producer c timeout
    let out := p.dispatch m s
    w.Truthful m s out ∧
      ∀ skip, out.1 = .skipped skip →
        ∀ t : SendTransport σ, { p with transport := t }.dispatch m s = out := by
  intro p out
  obtain ⟨halone, hlacks⟩ := w.run_alone timeout (p.lockKey m.key) (p.sendGuarded m) s
    (fun s => (w.sendGuarded_ended c timeout m s).held)
  have hlacks := hlacks hfresh
  have hout : out = (Producer.outcome
      ((w.exclusion timeout).run (p.lockKey m.key) (p.sendGuarded m) s).1,
      ((w.exclusion timeout).run (p.lockKey m.key) (p.sendGuarded m) s).2) := rfl
  generalize hrun : (w.exclusion timeout).run (p.lockKey m.key) (p.sendGuarded m) s = result
    at halone hlacks hout
  rw [hout]
  cases halone with
  | @ran s₁ s' before after =>
    have hanswered := (w.sendGuarded_ended c timeout m s₁).answered
    rw [before, ← after] at hanswered
    generalize (p.sendGuarded m s₁).1 = answer at hanswered
    cases hanswered with
    | accepted r stored =>
      exact ⟨⟨fun r' hr' => by cases hr'; exact stored, nofun, nofun, hlacks⟩, nofun⟩
    | refused e unstored => exact ⟨⟨nofun, fun _ => unstored, nofun, hlacks⟩, nofun⟩
  | @skipped s' skip reason kept blind =>
    have houtcome : Producer.outcome (.returned (.error skip)) = .skipped skip := by
      cases skip with
      | actionPanicked text => exact absurd rfl (reason text)
      | _ => rfl
    rw [houtcome]
    refine ⟨⟨nofun, fun _ => ?_, fun _ _ => kept, hlacks⟩, fun _ _ t => ?_⟩
    · rw [kept]
      exact .refl m.topic _
    · -- whatever the transport, what would be done under the lock is not done
      let p' : Producer σ LockHandle := { p with transport := t }
      have hdispatch : p'.dispatch m s =
          (Producer.outcome ((w.exclusion timeout).run (p.lockKey m.key) (p'.sendGuarded m) s).1,
            ((w.exclusion timeout).run (p.lockKey m.key) (p'.sendGuarded m) s).2) := rfl
      rw [hdispatch, blind, houtcome]

/-- A message that is reported as sent was stored, as its receipt tells it. -/
theorem stored_of_dispatch (c : ProducerConfig) (timeout : Option Nat) (m : Message) (s : σ)
    {r : Receipt} (hsent : ((w.producer c timeout).dispatch m s).1 = .sent r) :
    Stored (w.broker s) (w.broker ((w.producer c timeout).dispatch m s).2)
      ⟨r.id, m, r.queue, r.offset, 0⟩ := by
  let p := w.producer c timeout
  have hout : p.dispatch m s = (Producer.outcome
      ((w.exclusion timeout).run (p.lockKey m.key) (p.sendGuarded m) s).1,
      ((w.exclusion timeout).run (p.lockKey m.key) (p.sendGuarded m) s).2) := rfl
  have halone := (w.run_alone timeout (p.lockKey m.key) (p.sendGuarded m) s
    fun s => (w.sendGuarded_ended c timeout m s).held).1
  rw [hout] at hsent ⊢
  -- the send was made under the lock, or skipped, and then nothing was sent
  generalize (w.exclusion timeout).run (p.lockKey m.key) (p.sendGuarded m) s = result
    at halone hsent
  cases halone with
  | @ran s₁ s' before after =>
    have hanswered := (w.sendGuarded_ended c timeout m s₁).answered
    rw [before, ← after] at hanswered
    generalize (p.sendGuarded m s₁).1 = answer at hanswered hsent
    cases hanswered with
    | accepted r' stored =>
      cases hsent
      exact stored
    | refused e unstored => cases hsent
  | skipped skip reason kept blind => cases skip <;> cases hsent

/-- A message that is built has the fields that were given. -/
theorem eq_of_createMessage {topic tag key : String} {body : List UInt8} {delay : DelayLevel}
    {m : Message} (h : Producer.createMessage topic tag key body delay = .ok m) :
    m = ⟨topic, tag, key, body, delay⟩ := by
  have hdelay : (⟨topic, tag, key, body, .immediate⟩ : Message).withDelay delay =
      ⟨topic, tag, key, body, delay⟩ := by
    unfold Message.withDelay
    split
    · next himmediate =>
      -- level 0 is the level that a message has at first
      have hlevel : delay.level = 0 := by simpa [DelayLevel.isImmediate] using himmediate
      rw [DelayLevel.immediate, ← hlevel]
    · rfl
  unfold Producer.createMessage Message.create at h
  cases hkey : requireNonEmpty "key" key with
  | error e => rw [hkey] at h; cases h
  | ok _ =>
    cases htopic : requireNonEmpty "topic" topic with
    | error e => rw [hkey, htopic] at h; cases h
    | ok _ =>
      cases htag : validateTag tag with
      | error e => rw [hkey, htopic, htag] at h; cases h
      | ok _ =>
        rw [hkey, htopic, htag] at h
        rw [← hdelay]
        exact (Except.ok.inj h).symm

/-- What was built and is reported as sent was stored. -/
theorem stored_of_sendSync (c : ProducerConfig) (timeout : Option Nat) {topic tag key : String}
    {body : List UInt8} {delay : DelayLevel} {s : σ} {r : Receipt}
    (hsent : ((w.producer c timeout).sendSync topic tag key body delay s).1 = .sent r) :
    Stored (w.broker s) (w.broker ((w.producer c timeout).sendSync topic tag key body delay s).2)
      ⟨r.id, ⟨topic, tag, key, body, delay⟩, r.queue, r.offset, 0⟩ := by
  unfold Producer.sendSync at hsent ⊢
  cases hcreate : Producer.createMessage topic tag key body delay with
  | error e =>
    rw [hcreate] at hsent
    cases hsent
  | ok m =>
    rw [hcreate] at hsent
    -- the checks let the message through as it was asked for
    rw [← eq_of_createMessage hcreate]
    exact w.stored_of_dispatch c timeout m s hsent

/-- **The outcome of a send tells what was stored.** For every producer on the client of an in-memory
broker, with locks or without, in every state of the broker, the client and the locks, and for every
message:

* the outcome is that the message was sent exactly when the broker has stored one message more, and
  it is the message that was given, in the queue and at the offset that the receipt names;
* in any other case the broker has stored nothing;
* a send that is skipped leaves the broker as it is, and would have gone the same way with any other
  transport: the transport is not called;
* no record of the locks has the token that was handed out for the send.

The tokens in the records of the locks are such that were handed out before, which holds in every
registry that is reached. -/
theorem sendSync_truthful (c : ProducerConfig) (timeout : Option Nat) (topic tag key : String)
    (body : List UInt8) (delay : DelayLevel) (s : σ) (hfresh : (w.locks s).Fresh) :
    let p := w.producer c timeout
    let out := p.sendSync topic tag key body delay s
    (out.1.isSent ↔ ∃ d, Stored (w.broker s) (w.broker out.2) d) ∧
    (∀ r, out.1 = .sent r → Stored (w.broker s) (w.broker out.2)
      ⟨r.id, ⟨topic, tag, key, body, delay⟩, r.queue, r.offset, 0⟩) ∧
    (out.1.isSent = false → Unstored topic (w.broker s) (w.broker out.2)) ∧
    (∀ skip, out.1 = .skipped skip → w.broker out.2 = w.broker s ∧
      ∀ t : SendTransport σ, { p with transport := t }.sendSync topic tag key body delay s = out) ∧
    (w.locks out.2).Lacks (w.locks s).nextToken := by
  intro p out
  have htold : w.Truthful ⟨topic, tag, key, body, delay⟩ s out ∧
      ∀ skip, out.1 = .skipped skip → ∀ t : SendTransport σ,
        { p with transport := t }.sendSync topic tag key body delay s = out := by
    cases hcreate : Producer.createMessage topic tag key body delay with
    | error e =>
      have hout : out = (.failed e.message, s) := by
        simp only [out, Producer.sendSync, hcreate]
      rw [hout]
      exact ⟨⟨nofun, fun _ => .refl topic _, nofun, hfresh.lacks⟩, nofun⟩
    | ok m =>
      have hsend (p' : Producer σ LockHandle) :
          p'.sendSync topic tag key body delay s = p'.dispatch m s := by
        rw [Producer.sendSync, hcreate]
      simp only [out, hsend, ← eq_of_createMessage hcreate]
      exact w.dispatch_truthful c timeout m s hfresh
  obtain ⟨⟨hsent, hunsent, hskipped, hreleased⟩, hblind⟩ := htold
  refine ⟨⟨fun h => ?_, fun ⟨d, hd⟩ => ?_⟩, hsent, hunsent,
    fun skip h => ⟨hskipped skip h, hblind skip h⟩, hreleased⟩
  · cases hout : out.1 with
    | sent r => exact ⟨_, hsent r hout⟩
    | skipped skip => rw [hout] at h; cases h
    | failed e => rw [hout] at h; cases h
    | panicked p => rw [hout] at h; cases h
  · -- the count of the messages tells one from none
    by_contra h
    have hcount := (hunsent (Bool.eq_false_iff.mpr h)).sent
    rw [hd.sent] at hcount
    exact Nat.succ_ne_self _ hcount

/-- A broker that refuses the next send, an open client, and locks that are free. -/
def refusingOnce : Rehearsal.SendWorld where
  broker := (Broker.ofConfig { name := "b" }).failingSends 1
  client := { started := true }
  locks := .ofConfig {}

/-- A send under a lock whose first attempt is refused: the second one stores the message, once, and
the lock is released. -/
theorem sendSync_truthful_repeated :
    let p := Rehearsal.SendWorld.site.producer {} (some (Time.millis 5))
    let out := p.sendSync "t" "a" "k" [1] .immediate refusingOnce
    refusingOnce.locks.Fresh ∧ out.1.isSent = true ∧ out.2.broker.failNext = 0 ∧
      (∃ d, Stored refusingOnce.broker out.2.broker d) ∧ out.2.locks.Lacks 0 := by
  intro p out
  have hfresh : refusingOnce.locks.Fresh := fun _ _ h => nomatch h
  have hsent : out.1.isSent = true := by decide +kernel
  obtain ⟨hiff, -, -, -, hlacks⟩ := sendSync_truthful Rehearsal.SendWorld.site {}
    (some (Time.millis 5)) "t" "a" "k" [1] .immediate refusingOnce hfresh
  exact ⟨hfresh, hsent, by decide +kernel, hiff.mp hsent, hlacks⟩

end SendSite

end KeyedDelivery
