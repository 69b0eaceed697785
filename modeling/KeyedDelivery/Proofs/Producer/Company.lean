import KeyedDelivery.Producer.Company
import KeyedDelivery.Proofs.Lock.Company
import KeyedDelivery.Proofs.Producer.Agreement

/-!
# With a lock or without

A producer with locks sends as one without locks does, when its lock is free: the transport is asked
for the same, and the outcome is the same, whatever the transport answers. What others do to the
locks meanwhile does not matter. By a clock that has a greatest reading the producer with locks may
panic instead: before it asks the transport, when it would wait, or its lock would be held, beyond that
reading.

* **`agree_inCompany`** — a transport agrees with itself in company, and leaves the handles on this
  side alone.
* **`locked_as_unlocked`** — the two producers, and what is left of the lock.
* **`locked_longest_panics`** — with the longest time to wait there is, they differ.
-/

namespace KeyedDelivery

variable {τ : Type}

/-- **A transport in company** answers as it does by itself, and what happens to the locks meanwhile
is a passage for the handles on this side. -/
theorem agree_inCompany (t : SendTransport τ) (during : SendCall → τ → List Contention.Event)
    (s₁ : Company τ) :
    SendTransport.Agree (fun s x => s.world = x ∧ Company.Passed s₁.own s₁ s) (t.inCompany during)
      t where
  now h := congrArg t.now h.1
  queues topic s x h := by
    obtain ⟨rfl, hpassed⟩ := h
    refine ⟨rfl, rfl, hpassed.trans ?_⟩
    exact Company.passed_run _ (fun n hn => Company.others_filter s (hpassed.own hn) _) rfl rfl
  send m q s x h := by
    obtain ⟨rfl, hpassed⟩ := h
    refine ⟨rfl, rfl, hpassed.trans ?_⟩
    exact Company.passed_run _ (fun n hn => Company.others_filter s (hpassed.own hn) _) rfl rfl

/-- A send under a lock comes to what its call of the mutex comes to. -/
theorem dispatch_of_locked {p : Producer (Company τ) LockHandle} {patience : Nat}
    (hlocked : p.exclusion = .locked (Company.mutex patience)) (m : Message) (s : Company τ) :
    let ended := (Company.mutex patience).tryWithLock (p.lockKey m.key) patience
      (fun s => (.returned (p.sendGuarded m s).1, (p.sendGuarded m s).2)) s
    p.dispatch m s = (Producer.outcome ended.1, ended.2) := by
  rw [Producer.dispatch, hlocked]
  rfl

/-- Without a lock, a send is the guarded send. -/
theorem dispatch_of_unlocked {σ η : Type} {p : Producer σ η} (hunlocked : p.exclusion = .unlocked)
    (m : Message) (s : σ) :
    p.dispatch m s = (Producer.outcomeOf (.ok (p.sendGuarded m s).1), (p.sendGuarded m s).2) := by
  rw [Producer.dispatch, hunlocked]
  rfl

/-- **A producer with locks panics**, when its lock is free and the clock does not have the readings that
it takes. The transport is not asked. -/
theorem dispatch_of_beyond {p : Producer (Company τ) LockHandle} {patience : Nat}
    (hlocked : p.exclusion = .locked (Company.mutex patience)) {m : Message} {s : Company τ}
    (hsound : s.Sound) (hkey : p.lockKey m.key ≠ "")
    (hfree : s.locks.registry.isLocked (p.lockKey m.key) = false)
    (hpatience : 0 < patience) (hfail : s.locks.registry.failNext = 0)
    (hunfit : ¬s.Fits patience) :
    ∃ s', s'.locks.registry = (s.obtained (p.lockKey m.key)).locks.registry ∧ s'.world = s.world ∧
      p.dispatch m s = (.panicked LockRegistry.overflow, s') := by
  obtain ⟨s', hregistry, hworld, hrun⟩ :=
    Company.tryWithLock_of_beyond hsound hkey hfree hfail hpatience hunfit patience
  refine ⟨s', hregistry, hworld, ?_⟩
  rw [dispatch_of_locked hlocked, hrun]
  rfl

/-- **A producer with locks does as one without**, when its lock is free. For every transport, which
may answer, fail or panic at any call, whatever others do to the locks while it is asked and however
much time passes, for all settings and every message: if the key of the lock is not empty and nobody
holds it, the producer waits for a positive time, and no attempt to take a lock is made to fail, then
the two producers

* come to the same outcome,
* make the same calls, one after the other, and leave the same world;
* if the time in between is less than that after which locks expire, the lock is not held afterwards.

This is so exactly if the clock has the reading up to which the producer would wait for its lock and
the one at which the lock expires. If it has not, the producer with locks panics, calls nothing, and
leaves the lock free. -/
theorem locked_as_unlocked (c : ProducerConfig) (t : SendTransport τ)
    (during : SendCall → τ × List SendCall → List Contention.Event) (m : Message) (patience : Nat)
    {s : Company τ} (hsound : s.Sound) (hkey : c.lockKeyPrefix ++ m.key ≠ "")
    (hfree : s.locks.registry.isLocked (c.lockKeyPrefix ++ m.key) = false)
    (hpatience : 0 < patience) (hfail : s.locks.registry.failNext = 0) :
    let locked : Producer (Company (τ × List SendCall)) LockHandle :=
      ⟨c, t.recorded.inCompany during, .locked (Company.mutex patience)⟩
    let unlocked : Producer (τ × List SendCall) LockHandle := ⟨c, t.recorded, .unlocked⟩
    let out := locked.dispatch m (s.withWorld (s.world, []))
    let out' := unlocked.dispatch m (s.world, [])
    (s.Fits patience →
      out.1 = out'.1 ∧ out.2.world = out'.2 ∧
        (out.2.locks.now < s.locks.now + s.locks.registry.expireAfter →
          out.2.locks.registry.isLocked (c.lockKeyPrefix ++ m.key) = false)) ∧
    (¬s.Fits patience →
      out.1 = .panicked LockRegistry.overflow ∧ out.1 ≠ out'.1 ∧ out.2.world = (s.world, []) ∧
        out.2.locks.registry.isLocked (c.lockKeyPrefix ++ m.key) = false) := by
  intro locked unlocked out out'
  let key := c.lockKeyPrefix ++ m.key
  let s₀ : Company (τ × List SendCall) := s.withWorld (s.world, [])
  have hsound₀ : s₀.Sound := ⟨hsound.orderly, hsound.obtained⟩
  let action (s : Company (τ × List SendCall)) :
      Outcome (Except String Receipt) × Company (τ × List SendCall) :=
    (.returned (locked.sendGuarded m s).1, (locked.sendGuarded m s).2)
  have hout : out = (Producer.outcome ((Company.mutex patience).tryWithLock key patience action s₀).1,
      ((Company.mutex patience).tryWithLock key patience action s₀).2) :=
    dispatch_of_locked rfl m s₀
  have hout' : out' = (Producer.outcomeOf (.ok (unlocked.sendGuarded m (s.world, [])).1),
      (unlocked.sendGuarded m (s.world, [])).2) := dispatch_of_unlocked rfl m _
  -- the guard turns every panic of the transport into a failure
  have hunlocked : ∀ p, out'.1 ≠ .panicked p := by
    rw [hout']
    cases (unlocked.sendGuarded m (s.world, [])).1 <;> nofun
  refine ⟨fun hfits => ?_, fun hunfit => ?_⟩
  · obtain ⟨s₁, hgranted, hpassed, hhandle, hrun⟩ :=
      Company.tryWithLock_of_free hsound₀ hkey hfree hfail hpatience hfits patience
    rw [hout, hout', hrun action]
    have hsound₁ := hpassed.sound hsound₀
    -- under the lock the same is sent, from a world that the wait has left alone
    obtain ⟨hanswer, hworld, hsend⟩ := (agree_inCompany t.recorded during s₁).sendGuarded
      locked unlocked rfl ⟨rfl, Company.passed_refl _ s₁⟩ m
    rw [hgranted.world] at hanswer hworld
    exact ⟨congrArg (Producer.outcomeOf ∘ Except.ok) hanswer, hworld,
      Company.isLocked_release hsound₀ hgranted hpassed hhandle hsend patience⟩
  · obtain ⟨s', hregistry, hworld, hpanicked⟩ :=
      dispatch_of_beyond (p := locked) rfl hsound₀ hkey hfree hpatience hfail hunfit
    have hpanicked : out = (.panicked LockRegistry.overflow, s') := hpanicked
    rw [hpanicked]
    refine ⟨rfl, (hunlocked _).symm, hworld, ?_⟩
    rw [hregistry]
    exact hfree

/-- A transport with one queue, which fails once and then panics. The world counts the attempts. -/
def explosive : SendTransport Nat where
  start n := (.ok (), n)
  queues topic n := (.returned (.ok [⟨topic, "b", 0⟩]), n)
  send _ _ n := (if n = 0 then .returned (.error "busy") else .panicked .other, n + 1)
  shutdown n := n
  now _ := 0

/-- One queue is the queue of every key. -/
theorem selectQueue_singleton (q : Queue) (key : String) : selectQueue [q] key = some q := by
  rw [selectQueue, selectIndex, if_neg (by simp), List.length_singleton, Nat.mod_one]
  rfl

/-- The first attempt of a send fails, and the second one panics. -/
theorem dispatch_explosive (lockKeyPrefix : String) :
    let m : Message := ⟨"t", "a", "k", [], .immediate⟩
    let unlocked : Producer (Nat × List SendCall) LockHandle :=
      ⟨{ lockKeyPrefix }, explosive.recorded, .unlocked⟩
    unlocked.dispatch m (0, []) = (.failed "send panicked: non-string panic payload",
      (2, [.queues "t", .send m ⟨"t", "b", 0⟩, .send m ⟨"t", "b", 0⟩])) := by
  intro m unlocked
  have hrouted : unlocked.sendRouted m (0, []) = (.panicked .other,
      (2, [.queues "t", .send m ⟨"t", "b", 0⟩, .send m ⟨"t", "b", 0⟩])) := by
    rw [Producer.sendRouted]
    simp only [unlocked, m, SendTransport.recorded, explosive, selectQueue_singleton]
    rfl
  -- the panic of the second attempt is caught, and its payload is no text
  have hguarded : unlocked.sendGuarded m (0, []) =
      (.error "send panicked: non-string panic payload",
        (2, [.queues "t", .send m ⟨"t", "b", 0⟩, .send m ⟨"t", "b", 0⟩])) := by
    rw [Producer.sendGuarded, hrouted]
    rfl
  rw [dispatch_of_unlocked rfl, hguarded]
  rfl

/-- Nobody holds a lock, and the clock has a greatest reading. -/
def clocked (c : LockConfig) : Company Nat :=
  { locks := { Contention.start c with lastReading := some Time.lastReading }, world := 0 }

theorem sound_clocked (c : LockConfig) : (clocked c).Sound :=
  ⟨⟨⟨nofun, nofun⟩, nofun⟩, nofun⟩

/-- An attempt fails, the next one panics, and each of the three calls takes a while. -/
theorem locked_as_unlocked_explosive :
    let c : ProducerConfig := { lockKeyPrefix := "p" }
    let m : Message := ⟨"t", "a", "k", [], .immediate⟩
    let during (_ : SendCall) (_ : Nat × List SendCall) : List Contention.Event := [.advance 3]
    let s : Company Nat := clocked { registryKey := "r", expireAfter := 10 }
    s.Sound ∧ c.lockKeyPrefix ++ m.key ≠ "" ∧
      s.locks.registry.isLocked (c.lockKeyPrefix ++ m.key) = false ∧ 0 < 5 ∧
      s.locks.registry.failNext = 0 ∧ s.Fits 5 ∧
      let locked : Producer (Company (Nat × List SendCall)) LockHandle :=
        ⟨c, explosive.recorded.inCompany during, .locked (Company.mutex 5)⟩
      let out := locked.dispatch m (s.withWorld (0, []))
      out.1 = .failed "send panicked: non-string panic payload" ∧
        out.2.world = (2, [.queues "t", .send m ⟨"t", "b", 0⟩, .send m ⟨"t", "b", 0⟩]) ∧
        out.2.locks.registry.isLocked (c.lockKeyPrefix ++ m.key) = false := by
  intro c m during s
  have hsound : s.Sound := sound_clocked _
  have hfits : s.Fits 5 := by decide
  obtain ⟨houtcome, hworld, hfree⟩ := (locked_as_unlocked c explosive during m 5 hsound (by decide)
    (by decide) (by decide) (by decide)).1 hfits
  refine ⟨hsound, by decide, by decide, by decide, by decide, hfits, ?_, ?_, hfree ?_⟩
  · exact houtcome.trans (congrArg Prod.fst (dispatch_explosive "p"))
  · exact hworld.trans (congrArg Prod.snd (dispatch_explosive "p"))
  · -- the lock was free, and the three calls of the transport took 9
    let locked : Producer (Company (Nat × List SendCall)) LockHandle :=
      ⟨c, explosive.recorded.inCompany during, .locked (Company.mutex 5)⟩
    let s₀ : Company (Nat × List SendCall) := s.withWorld (s.world, [])
    let key := locked.lockKey m.key
    let w : LockRegistry.Waiter := ⟨s₀.newHandle key, 0, 5, some Time.lastReading⟩
    let s₁ := ((s₀.obtained key).awaiting w).looked w
    have hwait : Company.wait w ((s₀.obtained key).awaiting w) = (.returned (.ok true), s₁) := by
      rw [Company.wait_eq]
      rfl
    have hnow : (locked.dispatch m s₀).2.locks.now = (locked.sendGuarded m s₁).2.locks.now := by
      rw [dispatch_of_locked rfl, Company.tryWithLock_of_acquire (by decide) (by decide),
        Company.acquire_of_wait rfl rfl hwait]
      dsimp only
      generalize locked.sendGuarded m s₁ = sent
      exact Company.now_release _ 5 sent.2
    have hsend (locks : Contention) :
        (locked.sendGuarded m ⟨locks, [0], [], (0, [])⟩).2.locks.now = locks.now + 9 := by
      rw [Producer.sendGuarded, Producer.sendRouted]
      simp only [locked, m, SendTransport.inCompany, SendTransport.recorded, explosive,
        selectQueue_singleton]
      rfl
    have hstate : s₁ = ⟨s₁.locks, [0], [], (0, [])⟩ := rfl
    rw [hstate, hsend] at hnow
    dsimp only [locked, s₀] at hnow
    have hsoon : s₁.locks.now + 9 < 10 := by decide
    exact lt_of_eq_of_lt hnow hsoon

/-- **The two producers differ** when the one with locks waits for the longest time there is, which the
settings of locks allow: it panics and asks the transport for nothing, although nobody holds its lock. -/
theorem locked_longest_panics :
    let settings : LockConfig := { acquireTimeout := Time.longest }
    let c : ProducerConfig := {}
    let m : Message := ⟨"t", "a", "k", [], .immediate⟩
    let s := clocked settings
    let locked : Producer (Company (Nat × List SendCall)) LockHandle :=
      ⟨c, explosive.recorded.inCompany fun _ _ => [], .locked (Company.mutex settings.acquireTimeout)⟩
    let unlocked : Producer (Nat × List SendCall) LockHandle := ⟨c, explosive.recorded, .unlocked⟩
    let out := locked.dispatch m (s.withWorld (0, []))
    let out' := unlocked.dispatch m (0, [])
    settings.validate = .ok () ∧ s.Sound ∧ c.lockKeyPrefix ++ m.key ≠ "" ∧
      s.locks.registry.isLocked (c.lockKeyPrefix ++ m.key) = false ∧ 0 < settings.acquireTimeout ∧
      s.locks.registry.failNext = 0 ∧
      out.1 = .panicked LockRegistry.overflow ∧ out.2.world = (0, []) ∧
      out'.1 = .failed "send panicked: non-string panic payload" ∧
      out'.2 = (2, [.queues "t", .send m ⟨"t", "b", 0⟩, .send m ⟨"t", "b", 0⟩]) := by
  intro settings c m s locked unlocked out out'
  have hbeyond : Time.reaches (some Time.lastReading)
      (s.locks.now + settings.acquireTimeout) = false := by decide
  obtain ⟨s', -, hworld, hout⟩ := dispatch_of_beyond (p := locked) (m := m)
    (s := s.withWorld (0, [])) rfl ⟨(sound_clocked _).orderly, nofun⟩ (by decide) (by decide)
    (by decide) rfl fun hfits => nomatch hbeyond.symm.trans hfits.1
  have hout : out = (.panicked LockRegistry.overflow, s') := hout
  have hunlocked : unlocked.dispatch m (0, []) = _ := dispatch_explosive c.lockKeyPrefix
  refine ⟨by cbv, sound_clocked _, by decide, by decide, by decide, rfl, ?_, ?_,
    congrArg Prod.fst hunlocked, congrArg Prod.snd hunlocked⟩
  · rw [hout]
  · rw [hout]
    exact hworld

end KeyedDelivery
