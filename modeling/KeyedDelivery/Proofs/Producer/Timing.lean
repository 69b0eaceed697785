import KeyedDelivery.Proofs.Broker.Unstamped
import KeyedDelivery.Proofs.Producer.Kept

/-!
# The time of a send

When sends are made at other times, the broker gives other identifiers and other due times. The rest
is as before, as long as the times make no difference to the locks of others and the budgets do not
run out.

* **`SendTransport.blunt`** — a transport without a clock, whose receipts are without identifiers; a
  send leaves the same through it when its budget does not run out (`sendGuarded_blunt`).
* **`Alike`** — two worlds whose brokers look alike, whose clients are the same, and whose registries
  have as many attempts to fail.
* **`Hindered`** — what keeps a send from its lock, in terms that do not depend on the time; a send is
  skipped exactly when it is hindered (`told_of_excluded`).
* **`alike_dispatch`**, **`alike_run`** — the same sends, made at other times, leave worlds that are
  alike.
-/

namespace KeyedDelivery

variable {σ η : Type}

/-! ## Without a clock -/

/-- An answer may be looked at before or after its error is put into words. -/
theorem map_mapError {ε ε' α β : Type} (f : ε → ε') (g : α → β) (answer : Except ε α) :
    (answer.mapError f).map g = (answer.map g).mapError f := by
  cases answer <;> rfl

/-- A transport without a clock, whose receipts are without identifiers. -/
def SendTransport.blunt (t : SendTransport σ) : SendTransport σ where
  start := t.start
  queues := t.queues
  send m q s := ((t.send m q s).1.map (·.map Receipt.unstamped), (t.send m q s).2)
  shutdown := t.shutdown
  now _ := 0

/-- The attempts leave the same without a clock, as long as the deadline is not reached; induction on
the attempts that are left. -/
theorem attempts_blunt {t : SendTransport σ} {pace : Nat}
    (swift : ∀ m q s, t.now (t.send m q s).2 ≤ t.now s + pace) (m : Message) (q : Queue)
    {deadline deadline' : Nat} (hdeadline' : 0 < deadline') (left made : Nat) (last : String) {s : σ}
    (hleft : t.now s + left * pace < deadline) :
    (Producer.attempts t.blunt m q deadline' left made last s).2 =
      (Producer.attempts t m q deadline left made last s).2 := by
  induction left generalizing made last s with
  | zero => rfl
  | succ left ih =>
    rw [Nat.succ_mul] at hleft
    -- in neither world does the time run out, so both loops go the same way
    have hearly : ¬ (0 < made ∧ deadline ≤ t.now s) := by omega
    have hearly' : ¬ (0 < made ∧ deadline' ≤ t.blunt.now s) := fun h =>
      absurd h.2 (Nat.not_le_of_lt hdeadline')
    have hsend : t.blunt.send m q s =
        ((t.send m q s).1.map (·.map Receipt.unstamped), (t.send m q s).2) := rfl
    have hnext := swift m q s
    rw [Producer.attempts, Producer.attempts, if_neg hearly, if_neg hearly', hsend]
    rcases hanswer : t.send m q s with ⟨(e | r) | payload, s'⟩
    · rw [hanswer] at hnext
      -- each attempt takes one pace at most, which the bound leaves room for
      have htime : t.now s' + left * pace < deadline := by
        dsimp only at hnext
        omega
      exact ih (made + 1) e htime
    · rfl
    · rfl

/-- **A send leaves the same without a clock**, when its budget does not run out. -/
theorem sendGuarded_blunt {p : Producer σ η} {pace : Nat}
    (swiftQueues : ∀ topic s, p.transport.now (p.transport.queues topic s).2 ≤ p.transport.now s + pace)
    (swiftSend : ∀ m q s, p.transport.now (p.transport.send m q s).2 ≤ p.transport.now s + pace)
    (hbudget : ((Producer.attemptLimit p.config).toNat + 1) * pace < p.config.sendTimeout)
    (m : Message) (s : σ) :
    ({ p with transport := p.transport.blunt }.sendGuarded m s).2 = (p.sendGuarded m s).2 := by
  have hguarded (out : Outcome (Except String Receipt) × σ) :
      (SendStage.guarded out).2 = out.2 := by
    rcases out with ⟨_ | _, _⟩ <;> rfl
  rw [SendStage.sendGuarded_eq, SendStage.sendGuarded_eq, hguarded, hguarded, Producer.sendRouted,
    Producer.sendRouted]
  have hqueues : p.transport.blunt.queues m.topic s = p.transport.queues m.topic s := rfl
  have hnext := swiftQueues m.topic s
  dsimp only
  rw [hqueues]
  rcases hanswer : p.transport.queues m.topic s with ⟨(e | queues) | payload, s'⟩
  · rfl
  · dsimp only
    cases selectQueue queues m.key with
    | none => rfl
    | some q =>
      -- the lookup took one pace, the attempts have the rest
      refine attempts_blunt swiftSend m q ?_ _ 0 "" ?_
      · exact Nat.lt_of_lt_of_le (Nat.zero_lt_of_lt hbudget) (Nat.le_add_left _ _)
      · rw [hanswer] at hnext
        rw [Nat.succ_mul] at hbudget
        dsimp only at hnext
        omega
  · rfl

namespace SendSite

variable (w : SendSite σ)

/-- The broker and the locks do not touch the client, and the broker is quick to answer: all that a
send can ask it takes less than the budget. -/
structure Steady (c : ProducerConfig) : Prop where
  client_setBroker : ∀ b s, w.client (w.setBroker b s) = w.client s
  client_setLocks : ∀ r s, w.client (w.setLocks r s) = w.client s
  swift : ∃ pace, ((Producer.attemptLimit c).toNat + 1) * pace < c.sendTimeout ∧
    ∀ b s, w.now (w.setBroker b s) ≤ w.now s + pace

/-! ## Worlds that are alike -/

/-- Two worlds in which sends go the same way: the brokers look alike without identifiers and times,
the clients are the same, and as many attempts to take a lock are to fail. -/
structure Alike (s s' : σ) : Prop where
  broker : (w.broker s).unstamped = (w.broker s').unstamped
  client : w.client s = w.client s'
  failNext : (w.locks s).failNext = (w.locks s').failNext

variable {w} {c : ProducerConfig}

/-- What is sent under a lock leaves the brokers looking alike, and the clients the same. -/
theorem Steady.sendGuarded (steady : w.Steady c) (patience : Option Nat) (m : Message) {s s' : σ}
    (hbroker : (w.broker s).unstamped = (w.broker s').unstamped) (hclient : w.client s = w.client s') :
    let out := ((w.producer c patience).sendGuarded m s).2
    let out' := ((w.producer c patience).sendGuarded m s').2
    (w.broker out).unstamped = (w.broker out').unstamped ∧ w.client out = w.client out' := by
  obtain ⟨pace, hbudget, hswift⟩ := steady.swift
  let p : Producer σ LockHandle := { w.producer c patience with transport := w.transport.blunt }
  have hblunt (s : σ) : (p.sendGuarded m s).2 = ((w.producer c patience).sendGuarded m s).2 :=
    sendGuarded_blunt (p := w.producer c patience) (fun _ s => hswift _ s) (fun _ _ s => hswift _ s)
      hbudget m s
  -- without a clock, a send sees of the world only what is the same in both
  have agree : SendTransport.Agree
      (fun s s' => (w.broker s).unstamped = (w.broker s').unstamped ∧ w.client s = w.client s')
      w.transport.blunt w.transport.blunt := {
    now := fun _ => rfl
    queues := by
      rintro topic s s' ⟨hbroker, hclient⟩
      obtain ⟨hanswer, hnext⟩ := Broker.queues_alike hbroker (w.client s) topic
      refine ⟨?_, ?_, ?_⟩
      · simp only [SendTransport.blunt, transport, SendTransport.inMemory, ← hclient, hanswer]
      · simpa only [SendTransport.blunt, transport, SendTransport.inMemory, w.broker_setBroker,
          ← hclient] using hnext
      · simpa only [SendTransport.blunt, transport, SendTransport.inMemory,
          steady.client_setBroker] using hclient
    send := by
      rintro m q s s' ⟨hbroker, hclient⟩
      obtain ⟨hanswer, hnext⟩ := Broker.send_alike hbroker (w.client s) (w.brokerNow s)
        (w.brokerNow s') m q
      refine ⟨?_, ?_, ?_⟩
      · simp only [SendTransport.blunt, transport, SendTransport.inMemory, ← hclient, Outcome.map,
          map_mapError, hanswer]
      · simpa only [SendTransport.blunt, transport, SendTransport.inMemory, w.broker_setBroker,
          ← hclient] using hnext
      · simpa only [SendTransport.blunt, transport, SendTransport.inMemory,
          steady.client_setBroker] using hclient }
  have hsent := (agree.sendGuarded p p rfl ⟨hbroker, hclient⟩ m).2
  rw [hblunt, hblunt] at hsent
  exact hsent

/-! ## What keeps a send from its lock -/

/-- What keeps a send from its lock: the key is empty, there is no time to wait, the attempt is to
fail, or the lock is held. -/
def Hindered (patience : Option Nat) (key : String) (failNext : Nat) (r : LockRegistry) : Prop :=
  ∃ timeout, patience = some timeout ∧
    ((key.isEmpty = true ∨ timeout = 0) ∨ 0 < failNext ∨ r.isLocked key = true)

variable (w) in
/-- Nothing was done under a lock. -/
structure Skipped (patience : Option Nat) (key : String) (s s' : σ) : Prop where
  broker : w.broker s' = w.broker s
  client : w.client s' = w.client s
  failNext : (w.locks s').failNext =
    if key.isEmpty = true ∨ patience = some 0 then (w.locks s).failNext
    else (w.locks s).failNext - 1

variable (w) in
/-- Something was done once under a lock. -/
structure Made {α : Type} (send : σ → α × σ) (s s₁ s' : σ) : Prop where
  broker : w.broker s₁ = w.broker s
  client : w.client s₁ = w.client s
  broker_after : w.broker s' = w.broker (send s₁).2
  client_after : w.client s' = w.client (send s₁).2
  failNext : (w.locks s').failNext = (w.locks s).failNext

variable {patience : Option Nat} {key : String} {r₀ : LockRegistry} {s s' : σ}

/-- As long as no lock expires that was held at the start, a new handle finds its lock held exactly
when it was held then. -/
theorem isFree_eq (kept : LockRegistry.Kept r₀ (w.locks s)) {n : Nat} (later : (w.locks s).now ≤ n)
    (unexpired : r₀.Unexpired n) (key : String) :
    { ((w.locks s).obtain key).2 with now := n }.isFree ((w.locks s).obtain key).1 =
      !r₀.isLocked key := by
  let r : LockRegistry := { ((w.locks s).obtain key).2 with now := n }
  -- the registry in which the new handle looks, at the later reading
  have keptThen : LockRegistry.Kept r₀ r :=
    kept.trans (.of_held kept.fresh rfl later rfl (Nat.le_succ _))
  -- its holder is the holder at the start, unless that has expired in between
  have hheld : r.holderAt n ((w.locks s).obtain key).1.key =
      r₀.holderAt r₀.now (r₀.fullKey key) := by
    have hkey : ((w.locks s).obtain key).1.key = r₀.fullKey key := by
      show (w.locks s).fullKey key = _
      rw [LockRegistry.fullKey, kept.registryKey]
      rfl
    rw [hkey, ← unexpired.holderAt (Nat.le_trans kept.later later)]
    exact keptThen.holders _
  have lacks : r.Lacks ((w.locks s).obtain key).1.token := kept.fresh.lacks
  rw [LockRegistry.isLocked_eq, ← hheld]
  cases hfree : r.isFree ((w.locks s).obtain key).1 with
  | true =>
    have hnone := LockRegistry.holderAt_of_isFree lacks hfree
    change r.holderAt n _ = none at hnone
    rw [hnone]
    rfl
  | false =>
    have hsome := LockRegistry.holderAt_of_busy hfree
    change (r.holderAt n _).isSome = true at hsome
    rw [hsome]
    rfl

/-- **A send is skipped exactly when it is hindered**, as long as no lock expires that was held at the
start. -/
theorem told_of_excluded (steady : w.Steady c) {α : Type} {send : σ → α × σ}
    {out : Outcome (Except SkipReason α) × σ} (kept : LockRegistry.Kept r₀ (w.locks s))
    (elapsed : ∀ s, ∃ d, w.locks (send s).2 = (w.locks s).advance d)
    (h : w.Excluded patience key send s ((w.locks s).obtain key).1 ((w.locks s).obtain key).2 out)
    (unexpired : r₀.Unexpired (w.locks out.2).now) :
    (Hindered patience key (w.locks s).failNext r₀ ∧ w.Skipped patience key s out.2) ∨
      ¬ Hindered patience key (w.locks s).failNext r₀ ∧ ∃ s₁, w.Made send s s₁ out.2 := by
  -- handing out and releasing a lock touches neither the broker nor the client
  have hsame (r : LockRegistry) : w.broker (w.setLocks r (w.setLocks ((w.locks s).obtain key).2 s)) =
      w.broker s ∧ w.client (w.setLocks r (w.setLocks ((w.locks s).obtain key).2 s)) = w.client s := by
    rw [w.broker_setLocks, w.broker_setLocks, steady.client_setLocks, steady.client_setLocks]
    exact ⟨rfl, rfl⟩
  have hready {timeout : Nat} (hsome : patience = some timeout)
      (ready : ¬ (key.isEmpty = true ∨ timeout = 0)) :
      ¬ (key.isEmpty = true ∨ patience = some 0) := by
    rintro (hempty | hzero)
    · exact ready (.inl hempty)
    · rw [hsome] at hzero
      exact ready (.inr (Option.some.inj hzero))
  cases h with
  | unlocked hnone =>
    refine .inr ⟨?_, s, ⟨rfl, rfl, rfl, rfl, ?_⟩⟩
    · rintro ⟨timeout, hsome, -⟩
      rw [hnone] at hsome
      cases hsome
    · obtain ⟨d, hd⟩ := elapsed s
      rw [hd]
      rfl
  | unready skip hsome unready =>
    refine .inl ⟨⟨_, hsome, .inl unready⟩, ⟨rfl, rfl, ?_⟩⟩
    rw [if_pos (unready.imp_right fun hzero => hzero ▸ hsome)]
  | failed skip hsome ready injected =>
    refine .inl ⟨⟨_, hsome, .inr (.inl injected)⟩, ⟨(hsame _).1, (hsame _).2, ?_⟩⟩
    rw [if_neg (hready hsome ready), w.locks_setLocks]
    rfl
  | @timedOut skip timeout hsome ready uninjected n later busy =>
    rw [w.locks_setLocks] at unexpired
    -- it was busy to the end, so it was locked at the start
    have hlocked : r₀.isLocked key = true := by
      have hfree := isFree_eq kept later unexpired key
      rw [busy] at hfree
      simpa using hfree
    refine .inl ⟨⟨_, hsome, .inr (.inr hlocked)⟩, ⟨(hsame _).1, (hsame _).2, ?_⟩⟩
    rw [if_neg (hready hsome ready), w.locks_setLocks]
    change (w.locks s).failNext = 0 at uninjected
    show (w.locks s).failNext = _
    omega
  | @ran timeout hsome ready uninjected n later free s₁ taken =>
    obtain ⟨d, hd⟩ := elapsed s₁
    have hreleased : ((w.locks (send s₁).2).unlock
        { ((w.locks s).obtain key).1 with held := true }).2.2 =
          ((w.locks s).obtain key).2.released ((w.locks s).obtain key).1 n d := by
      rw [hd, taken, w.locks_setLocks]
      rfl
    rw [w.locks_setLocks, hreleased, LockRegistry.released_eq] at unexpired
    -- it was free at some reading, so it was free at the start
    have hunlocked : r₀.isLocked key = false := by
      have hfree := isFree_eq kept later (unexpired.mono (Nat.le_add_right n d)) key
      rw [free] at hfree
      simpa using hfree.symm
    change (w.locks s).failNext = 0 at uninjected
    refine .inr ⟨?_, s₁, ⟨?_, ?_, w.broker_setLocks _ _, steady.client_setLocks _ _, ?_⟩⟩
    · rintro ⟨timeout', hsome', hunready | hinjected | hlocked⟩
      · rw [hsome] at hsome'
        cases hsome'
        exact ready hunready
      · rw [uninjected] at hinjected
        exact Nat.lt_irrefl 0 hinjected
      · rw [hunlocked] at hlocked
        cases hlocked
    · rw [taken]
      exact (hsame _).1
    · rw [taken]
      exact (hsame _).2
    · rw [w.locks_setLocks, hreleased, LockRegistry.released_eq]
      rfl

/-! ## Sends at other times -/

/-- **A send goes the same way at another time**, as long as no lock expires that was held at the
start. -/
theorem alike_dispatch (steady : w.Steady c) (patience : Option Nat) (m : Message)
    (kept : LockRegistry.Kept r₀ (w.locks s)) (kept' : LockRegistry.Kept r₀ (w.locks s'))
    (unexpired : r₀.Unexpired (w.locks ((w.producer c patience).dispatch m s).2).now)
    (unexpired' : r₀.Unexpired (w.locks ((w.producer c patience).dispatch m s').2).now)
    (alike : w.Alike s s') :
    w.Alike ((w.producer c patience).dispatch m s).2 ((w.producer c patience).dispatch m s').2 := by
  have elapsed (s : σ) := w.elapsed_sendGuarded c patience m s
  have htold := told_of_excluded steady kept elapsed (w.excluded_run patience _ _ s) unexpired
  have htold' := told_of_excluded steady kept' elapsed (w.excluded_run patience _ _ s') unexpired'
  rw [← alike.failNext] at htold'
  rcases htold with ⟨hhindered, hskipped⟩ | ⟨hfree, s₁, hmade⟩
  · rcases htold' with ⟨-, hskipped'⟩ | ⟨hfree', -⟩
    · refine ⟨?_, ?_, ?_⟩
      · exact (congrArg Broker.unstamped hskipped.broker).trans
          (alike.broker.trans (congrArg Broker.unstamped hskipped'.broker).symm)
      · exact hskipped.client.trans (alike.client.trans hskipped'.client.symm)
      · exact hskipped.failNext.trans (alike.failNext ▸ hskipped'.failNext.symm)
    · exact absurd hhindered hfree'
  · rcases htold' with ⟨hhindered', -⟩ | ⟨-, s₁', hmade'⟩
    · exact absurd hhindered' hfree
    · -- both sends are made, in worlds that differ in times only
      have hbefore : (w.broker s₁).unstamped = (w.broker s₁').unstamped := by
        rw [hmade.broker, hmade'.broker, alike.broker]
      have hclient : w.client s₁ = w.client s₁' := by
        rw [hmade.client, hmade'.client, alike.client]
      obtain ⟨hbroker, hclient⟩ := steady.sendGuarded patience m hbefore hclient
      refine ⟨?_, ?_, ?_⟩
      · exact (congrArg Broker.unstamped hmade.broker_after).trans
          (hbroker.trans (congrArg Broker.unstamped hmade'.broker_after).symm)
      · exact hmade.client_after.trans (hclient.trans hmade'.client_after.symm)
      · exact hmade.failNext.trans (alike.failNext.trans hmade'.failNext.symm)

theorem Alike.symm (h : w.Alike s s') : w.Alike s' s :=
  ⟨h.broker.symm, h.client.symm, h.failNext.symm⟩

/-- Time that passes on one side makes no difference. -/
theorem Alike.idles (h : w.Alike s s') {f : σ → σ} (idles : w.Idles f) : w.Alike s (f s') := by
  obtain ⟨d, hd⟩ := idles.locks s'
  refine ⟨?_, ?_, ?_⟩
  · rw [idles.broker, h.broker]
  · rw [idles.client, h.client]
  · rw [hd, h.failNext]
    rfl

/-- Events without a request make no difference when nothing happens in them but that time passes. -/
theorem Alike.run_of_idle (h : w.Alike s s') (patience : Option Nat)
    {ds : List (Producer.Event σ)} (silent : Producer.requests ds = [])
    (idles : ∀ f ∈ Producer.besides ds, w.Idles f) :
    w.Alike s ((w.producer c patience).run s' ds) := by
  induction ds generalizing s' with
  | nil => exact h
  | cons e ds ih =>
    cases e with
    | send a => cases silent
    | elsewhere f =>
      obtain ⟨hfirst, hrest⟩ := List.forall_mem_cons.mp idles
      exact ih (h.idles hfirst) silent hrest

/-- Before the first request there are events without one. -/
theorem split_requests {ds : List (Producer.Event σ)} {a : SendRequest} {later : List SendRequest}
    (h : Producer.requests ds = a :: later) :
    ∃ before after, ds = before ++ .send a :: after ∧ Producer.requests before = [] ∧
      Producer.requests after = later := by
  obtain ⟨before, e, after, rfl, hbefore, he, hafter⟩ := List.filterMap_eq_cons_iff.mp h
  cases e with
  | send a' =>
    cases he
    exact ⟨before, after, rfl, List.filterMap_eq_nil_iff.mpr hbefore, hafter⟩
  | elsewhere f => cases he

/-- A request is met the same way at another time. -/
theorem alike_send (steady : w.Steady c) (patience : Option Nat) (a : SendRequest)
    (kept : LockRegistry.Kept r₀ (w.locks s)) (kept' : LockRegistry.Kept r₀ (w.locks s'))
    (unexpired : r₀.Unexpired (w.locks ((w.producer c patience).step s (.send a))).now)
    (unexpired' : r₀.Unexpired (w.locks ((w.producer c patience).step s' (.send a))).now)
    (alike : w.Alike s s') :
    w.Alike ((w.producer c patience).step s (.send a))
      ((w.producer c patience).step s' (.send a)) := by
  cases hmessage : a.message? with
  | none =>
    rw [Producer.step_of_invalid hmessage, Producer.step_of_invalid hmessage]
    exact alike
  | some m =>
    have hstep (s : σ) : (w.producer c patience).step s (.send a) =
        ((w.producer c patience).dispatch m s).2 := Producer.step_of_valid hmessage
    rw [hstep] at unexpired unexpired'
    rw [hstep, hstep]
    exact alike_dispatch steady patience m kept kept' unexpired unexpired' alike

/-- **The same sends leave worlds that are alike**, whenever they are made, as long as no lock expires
that was held at the start. Induction on the events of one side, in whose steps the other one follows
to the same request. -/
theorem alike_run (steady : w.Steady c) (patience : Option Nat)
    {ds ds' : List (Producer.Event σ)} (same : Producer.requests ds = Producer.requests ds')
    (idles : ∀ f ∈ Producer.besides ds, w.Idles f) (idles' : ∀ f ∈ Producer.besides ds', w.Idles f)
    (kept : LockRegistry.Kept r₀ (w.locks s)) (kept' : LockRegistry.Kept r₀ (w.locks s'))
    (unexpired : r₀.Unexpired (w.locks ((w.producer c patience).run s ds)).now)
    (unexpired' : r₀.Unexpired (w.locks ((w.producer c patience).run s' ds')).now)
    (alike : w.Alike s s') :
    w.Alike ((w.producer c patience).run s ds) ((w.producer c patience).run s' ds') := by
  induction ds generalizing s s' ds' with
  | nil => exact alike.run_of_idle patience same.symm idles'
  | cons e ds ih =>
    cases e with
    | elsewhere f =>
      obtain ⟨hfirst, hrest⟩ := List.forall_mem_cons.mp idles
      have keptNext : LockRegistry.Kept r₀ (w.locks (f s)) :=
        kept.trans (w.kept_step c patience (e := .elsewhere f)
          (List.forall_mem_singleton.mpr hfirst) kept.fresh)
      exact ih same hrest idles' keptNext kept' unexpired unexpired'
        (alike.symm.idles hfirst).symm
    | send a =>
      -- the other side comes to the same request, meets it, and goes on
      obtain ⟨before, after, rfl, hsilent, hlater⟩ := split_requests same.symm
      let p := w.producer c patience
      have hrun' : p.run s' (before ++ .send a :: after) =
          p.run (p.step (p.run s' before) (.send a)) after := Producer.run_append p s' _ _
      rw [Producer.besides_append, List.forall_mem_append] at idles'
      obtain ⟨idlesBefore, idlesAfter⟩ := idles'
      have keptBefore := w.kept_run c patience before idlesBefore kept'.fresh
      have keptSent := w.kept_step c patience (e := .send a) (fun _ h => nomatch h) kept.fresh
      have keptSent' :=
        w.kept_step c patience (e := .send a) (fun _ h => nomatch h) keptBefore.fresh
      have keptRest := w.kept_run c patience ds idles keptSent.fresh
      have keptRest' := w.kept_run c patience after idlesAfter keptSent'.fresh
      have hsent := alike_send steady patience a kept (kept'.trans keptBefore)
        (unexpired.mono keptRest.later) ((hrun' ▸ unexpired').mono keptRest'.later)
        (alike.run_of_idle patience hsilent idlesBefore)
      rw [hrun'] at unexpired'
      exact hrun' ▸ ih hlater.symm idles idlesAfter (kept.trans keptSent)
        ((kept'.trans keptBefore).trans keptSent') unexpired unexpired' hsent

end SendSite

end KeyedDelivery
