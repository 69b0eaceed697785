import KeyedDelivery.Proofs.Producer.Timing

/-!
# Sending later is sending in order

A producer that hands its sends to a pool with one worker leaves the broker and the locks as a
producer that sends at once does.

* **`sendAsync_inline`** — without a pool there is no difference at all.
* **`sendAsync_as_sendSync`** — with a pool, for every run: the sends in between which the same happens
  to the world lead to the same world; made at other times, they lead to the same up to identifiers and
  times.
-/

namespace KeyedDelivery

open ProducerRun (requests besides)

/-- **Without a pool, a send is made at once.** -/
theorem sendAsync_inline {σ η : Type} {r : ProducerRun σ η} (hpool : r.pool = none)
    (context : LogContext) (a : SendRequest) :
    r.sendAsync context a.topic a.tag a.key a.body a.delay =
      (r.sendSync a.topic a.tag a.key a.body a.delay).2 := by
  cases hmessage : a.message? with
  | none =>
    obtain ⟨e, hcreate⟩ := SendRequest.create_of_invalid hmessage
    rw [ProducerRun.sendAsync_of_invalid hmessage]
    simp only [ProducerRun.sendSync, Producer.sendSync, hcreate]
  | some m =>
    rw [ProducerRun.sendAsync_of_valid hmessage]
    simp only [ProducerRun.sendMessageAsync, hpool, ProducerRun.sendMessage, ProducerRun.sendSync,
      Producer.sendSync, SendRequest.create_of_valid hmessage]

namespace SendSite

variable {σ : Type} (w : SendSite σ)

/-- A producer on the client, with a pool, if it has one, for the sends that are made later. -/
def pooled (c : ProducerConfig) (patience : Option Nat) (pool : Option (WorkerPool Message Unit))
    (s : σ) : ProducerRun σ LockHandle :=
  ⟨w.producer c patience, pool, false, s⟩

/-- A run of a producer whose pool has a core size and a maximal size of one. The pool is open, as it
stays, and has nothing to do at first; no valid request finds it saturated. -/
structure RunOfOne (c : ProducerConfig) (patience : Option Nat) (s : σ)
    (es : List (ProducerRun.Event σ)) (r : ProducerRun σ LockHandle) (pc : PoolConfig)
    (pool : WorkerPool Message Unit) : Prop where
  valid : pc.validate = .ok ()
  coreSize : pc.coreSize = 1
  maxSize : pc.maxSize = 1
  reached : WorkerPool.Reachable pc pool
  isOpen : pool.isShutDown = false
  isIdle : pool.isIdle = true
  run : (w.pooled c patience pool s).run es = some r
  neverSaturated : (w.pooled c patience pool s).neverSaturated es = true

/-- **Sending later is sending in order.** For every producer on the client of an in-memory broker,
with locks or without, in every state of the broker, the client and the locks, and for every run in
which sends are asked for, valid or not, and made by the one worker of a pool, while anything happens
to the world in between:

* letting the pool rest is a run of its worker, after which it is idle;
* once the pool is idle, the world is that to which a producer comes that sends at once, asked for the
  same in the same order, with the same happening in between;
* if nothing happens in between but that time passes, the locks that are held are those that were held
  before, but for those that have expired in the meantime;
* a producer that is asked for the same at any other times leaves a broker that looks the same without
  identifiers and times, and both leave held just what was held before, provided that no lock that was
  held expires in the meantime, and that the broker answers within the budget.

Without a pool, asking for a send does what sending at once does. -/
theorem sendAsync_as_sendSync (c : ProducerConfig) (patience : Option Nat) (s : σ)
    (fresh : (w.locks s).Fresh) :
    (∀ {es : List (ProducerRun.Event σ)} {r : ProducerRun σ LockHandle} {pc : PoolConfig}
      {pool : WorkerPool Message Unit}, w.RunOfOne c patience s es r pc pool →
      (r.rest.isIdle = true ∧
        ∃ es', requests es' = [] ∧ besides es' = [] ∧ r.run es' = some r.rest) ∧
      (r.isIdle = true →
        (∃ ds, Producer.requests ds = requests es ∧ Producer.besides ds = besides es ∧
          (w.producer c patience).run s ds = r.world) ∧
        ((∀ f ∈ besides es, w.Idles f) →
          (∀ key, (w.locks r.world).isLocked key =
            { w.locks s with now := (w.locks r.world).now }.isLocked key) ∧
          ∀ ds, Producer.requests ds = requests es → (∀ f ∈ Producer.besides ds, w.Idles f) →
            w.Steady c →
            let world := (w.producer c patience).run s ds
            (w.locks s).Unexpired (w.locks r.world).now → (w.locks s).Unexpired (w.locks world).now →
            (w.broker r.world).unstamped = (w.broker world).unstamped ∧
            ∀ key, (w.locks r.world).isLocked key = (w.locks s).isLocked key ∧
              (w.locks world).isLocked key = (w.locks s).isLocked key))) ∧
    ∀ context (a : SendRequest),
      (w.pooled c patience none s).sendAsync context a.topic a.tag a.key a.body a.delay =
        ((w.pooled c patience none s).sendSync a.topic a.tag a.key a.body a.delay).2 := by
  refine ⟨?_, fun context a => sendAsync_inline rfl context a⟩
  intro es r pc pool h
  have started := ProducerRun.Matches.start (r := w.pooled c patience pool s) h.valid rfl h.reached
    h.isOpen h.isIdle
  -- the producer that sends at once is followed along the run
  obtain ⟨pool', ds, waiting, hmatches⟩ :=
    started.run h.valid h.coreSize h.maxSize h.run h.neverSaturated
  rw [List.nil_append] at hmatches
  refine ⟨ProducerRun.run_rest h.valid (h.coreSize ▸ Nat.one_pos) hmatches.hasPool hmatches.reached
    hmatches.isOpen, fun hidle => ?_⟩
  obtain ⟨ds, hrequests, hbesides, hworld⟩ := hmatches.all h.valid hidle
  change (w.producer c patience).run s ds = r.world at hworld
  refine ⟨⟨ds, hrequests, hbesides, hworld⟩, fun idles => ?_⟩
  rw [← hworld]
  rw [← hbesides] at idles
  have kept := w.kept_run c patience _ idles fresh
  refine ⟨kept.isLocked, ?_⟩
  intro ds' hrequests' idles' steady world unexpired unexpired'
  have kept' := w.kept_run c patience _ idles' fresh
  have start : LockRegistry.Kept (w.locks s) (w.locks s) := .refl fresh
  -- the same sends at other times: both runs keep the locks of the start, so they are alike
  have alike := alike_run steady patience (hrequests.trans hrequests'.symm) idles idles' start start
    unexpired unexpired' ⟨rfl, rfl, rfl⟩
  exact ⟨alike.broker, fun key => ⟨kept.isLocked_of_unexpired unexpired key,
    kept'.isLocked_of_unexpired unexpired' key⟩⟩

/-! ## One run -/

open Rehearsal (SendWorld)

/-- A broker that refuses the next two sends, and locks of which one is held by somebody else. -/
def contested : SendWorld where
  broker := (Broker.ofConfig { name := "b" }).failingSends 2
  client := { started := true }
  locks :=
    { registryKey := "r", expireAfter := 10, held := [("r:lb", ⟨0, 1000⟩)], nextToken := 1 }

/-- Time passes. -/
def pass (d : Nat) (s : SendWorld) : SendWorld := { s with locks := s.locks.advance d }

theorem idles_pass (d : Nat) : SendWorld.site.Idles (pass d) where
  broker _ := rfl
  client _ := rfl
  locks _ := ⟨d, rfl⟩

def asked (key : String) (level : UInt32) : SendRequest := ⟨"t", "a", key, [1], ⟨level⟩⟩

/-- The sends are asked for while the worker makes those before: one for a key that is free, one
without a key, one for the key that is held, and one that is delayed. -/
def overlapping : List (ProducerRun.Event SendWorld) :=
  [.send {} (asked "k" 0), .send {} (asked "" 0), .elsewhere (pass 3), .send {} (asked "b" 0),
    .work 1, .pick 1, .send {} (asked "k" 1), .work 1, .pick 1, .work 1]

/-- The same sends are made at once, and time passes afterwards. -/
def consecutive : List (Producer.Event SendWorld) :=
  [.send (asked "k" 0), .send (asked "" 0), .send (asked "b" 0), .send (asked "k" 1),
    .elsewhere (pass 100)]

/-- The broker refuses the first send twice, and the third one is skipped as its lock is held; either
way two messages are left with the broker, and the lock that was held. -/
theorem sendAsync_as_sendSync_overlapping :
    let w := SendWorld.site
    let c : ProducerConfig := { lockKeyPrefix := "l" }
    let world := (w.producer c (some 5)).run contested consecutive
    contested.locks.Fresh ∧ w.Steady c ∧
      ∃ r, w.RunOfOne c (some 5) contested overlapping r .producer { config := .producer } ∧
        r.isIdle = true ∧ r.world.broker.sent = 2 ∧
        contested.locks.Unexpired (w.locks r.world).now ∧
        contested.locks.Unexpired (w.locks world).now ∧
        (w.broker r.world).unstamped = (w.broker world).unstamped ∧
        (w.locks r.world).isLocked "lb" = true := by
  intro w c world
  have hholder {key : String} {x : LockHolder} (hx : contested.locks.held.find? key = some x) :
      x = ⟨0, 1000⟩ := by
    simp only [contested, Table.find?] at hx
    split at hx
    · exact (Option.some.inj hx).symm
    · cases hx
  have fresh : contested.locks.Fresh := fun key x hx => by
    rw [hholder hx]
    exact Nat.one_pos
  have hunexpired {n : Nat} (hn : n < 1000) : contested.locks.Unexpired n := fun key x hx _ => by
    rw [hholder hx]
    exact hn
  have steady : w.Steady c := ⟨fun _ _ => rfl, fun _ _ => rfl, 0, by decide, fun _ _ => Nat.le_refl _⟩
  obtain ⟨r, hrun⟩ : ∃ r, (w.pooled c (some 5) (some { config := .producer }) contested).run
      overlapping = some r := Option.isSome_iff_exists.mp (by decide +kernel)
  have hseen : ((w.pooled c (some 5) (some { config := .producer }) contested).run overlapping).map
      (fun r => (r.isIdle, r.world.broker.sent, r.world.locks.now)) = some (true, 2, 8) := by
    decide +kernel
  rw [hrun, Option.map_some, Option.some_inj, Prod.mk.injEq, Prod.mk.injEq] at hseen
  obtain ⟨hidle, hsent, hnow⟩ := hseen
  have hone : w.RunOfOne c (some 5) contested overlapping r .producer { config := .producer } :=
    ⟨rfl, rfl, rfl, .start, rfl, rfl, hrun, by decide +kernel⟩
  have hnow : (w.locks r.world).now = 8 := hnow
  have hnow' : (w.locks world).now = 105 := by decide +kernel
  have hbefore : contested.locks.Unexpired (w.locks r.world).now := hunexpired (by rw [hnow]; decide)
  have hbefore' : contested.locks.Unexpired (w.locks world).now :=
    hunexpired (by rw [hnow']; decide)
  obtain ⟨-, hlater⟩ := (w.sendAsync_as_sendSync c (some 5) contested fresh).1 hone
  obtain ⟨-, htimes⟩ := hlater hidle
  obtain ⟨hbroker, hlocked⟩ := (htimes (by simpa [overlapping, besides] using idles_pass 3)).2
    consecutive rfl (by simpa [consecutive, Producer.besides] using idles_pass 100) steady hbefore
    hbefore'
  have hheld : contested.locks.isLocked "lb" = true := by decide
  exact ⟨fresh, steady, r, hone, hidle, hsent, hbefore, hbefore', hbroker,
    (hlocked "lb").1.trans hheld⟩

end SendSite

end KeyedDelivery
