import KeyedDelivery.Proofs.Lock.Passage

/-!
# An action under a lock, in company

A mutex takes a lock, runs an action and releases the lock, while others act on the same registry:
as long as it waits, and as long as the action runs. What is left of the lock when the action ends
follows from the handles that acted in between.

* **`acquire_cases`** — the lock was free for the handle, which is entered for it; or no record was
  changed but by the others, and a `Refusal` says why.
* **`tryWithLock_cases`** — a call runs its action between these two, or does not run any.
* **`polite_tryWithLock`** — code under a lock is itself an action that keeps to its own handles.
* **`tryWithLock_every_exit`** — the whole, for every way in which a call can end.
-/

namespace KeyedDelivery.Company

open Contention (Orderly Others)

variable {τ α : Type} {s : Company τ} {kept : List Nat}

/-! ## Taking a lock -/

/-- The handle that is obtained for a key. -/
def newHandle (s : Company τ) (key : String) : LockHandle := (s.locks.registry.obtain key).1

/-- The others have acted some times since a handle was obtained. -/
def since (s : Company τ) (key : String) (used : List (List Contention.Event)) : Contention :=
  ((s.obtained key).meanwhile used.flatten).locks

/-- A new handle was granted the lock of a key: what the others did meanwhile left no record of the
key that had not expired, and the handle is entered. -/
structure Granted (s : Company τ) (key : String) (s₁ : Company τ) : Prop where
  records : ∃ used, s.others = used ++ s₁.others ∧
    (∀ x, (s.since key used).holder (s.newHandle key).key = some x → x.expiresAt ≤ s₁.locks.now) ∧
    ∀ k, s₁.locks.holder k =
      if (s.newHandle key).key = k then
        some ⟨(s.newHandle key).token, s₁.locks.now + s.locks.registry.expireAfter⟩
      else (s.since key used).holder k
  own : s₁.own = (s.newHandle key).token :: s.own
  world : s₁.world = s.world

/-- No lock was granted: the records are as the others have left them. -/
structure Refused (s : Company τ) (key : String) (s' : Company τ) : Prop where
  records : ∃ used, s.others = used ++ s'.others ∧
    ∀ k, s'.locks.holder k = (s.since key used).holder k
  world : s'.world = s.world

/-- Why a call under a lock does not run its action: for a reason that it gives, or because it panics
by a clock that has a greatest reading. -/
inductive Refusal (last : Option Nat) : Outcome SkipReason → Prop where
  | skipped {skip : SkipReason} (reason : ∀ text, skip ≠ .actionPanicked text) :
      Refusal last (.returned skip)
  | panicked (limited : last ≠ none) : Refusal last (.panicked LockRegistry.overflow)

theorem passed_obtained (s : Company τ) (key : String) : Passed kept s (s.obtained key) := by
  refine ⟨⟨[.obtain key], fun _ _ e he => ?_, rfl⟩, fun n hn => List.mem_cons_of_mem _ hn,
    fun hsound => ⟨hsound.orderly.step _, fun n hn => ?_⟩⟩
  · cases List.mem_singleton.mp he
    nofun
  · rcases List.mem_cons.mp hn with rfl | hn
    · exact ⟨_, Contention.keyOf_of_find? (Table.find?_put_self _ _ _)⟩
    · obtain ⟨key', hkey⟩ := hsound.obtained n hn
      exact ⟨key', (Contention.effect_step hsound.orderly.issued (.obtain key)).keyOf hkey⟩

/-- The token of a new handle is not that of a handle there is. -/
theorem token_newHandle (hsound : s.Sound) (key : String) : (s.newHandle key).token ∉ s.own := by
  intro hn
  obtain ⟨key', hkey⟩ := hsound.obtained _ hn
  obtain ⟨c, hfind, -⟩ := Option.map_eq_some_iff.mp hkey
  exact Nat.lt_irrefl _ (hsound.orderly.issued.below _ c hfind)

/-- No record has the token of a new handle, whatever the others do. -/
theorem lacks_since (hsound : s.Sound) (key : String) (used : List (List Contention.Event)) :
    (s.since key used).registry.Lacks (s.newHandle key).token := by
  have hlacks : s.locks.registry.Lacks (s.newHandle key).token := hsound.orderly.fresh.lacks
  refine Contention.lacks_run (hsound.orderly.step (.obtain key)).issued (hlacks.congr rfl) ?_
  exact others_filter (s.obtained key) List.mem_cons_self used.flatten

/-- What a waiting handle finds is what the others have left. -/
theorem registry_later (s : Company τ) (key : String) (w : LockRegistry.Waiter)
    (hw : w.handle = s.newHandle key) (used others : List (List Contention.Event)) (d : Nat) :
    (((s.obtained key).awaiting w).later used others d).locks.registry =
      (s.since key used).registry.advance d := by
  have hbefore : Contention.AlikeBut w.handle.token (s.obtained key).locks
      ((s.obtained key).awaiting w).locks :=
    ⟨rfl, rfl, fun m hm => Contention.find?_set_of_ne _ _ (Ne.symm hm)⟩
  have hothers : Others w.handle.token (used.flatten.filter (s.obtained key).Foreign) := by
    rw [hw]
    exact others_filter (s.obtained key) List.mem_cons_self _
  exact congrArg (·.advance d) (Contention.alikeBut_run hbefore hothers).registry

/-- **An attempt of a new handle** is granted the lock, and the handle is known to hold it; or it is
refused, or panics. -/
theorem tryLock_cases (hsound : s.Sound) (key : String) (timeout : Nat) :
    (∃ s₁, tryLock timeout (s.newHandle key) (s.obtained key) =
        (.returned (.ok true), { s.newHandle key with held := true }, s₁) ∧ s.Granted key s₁ ∧
      s₁.locks.contenders.find? (s.newHandle key).token =
        some (.idle { s.newHandle key with held := true })) ∨
    ∃ answer s', answer ≠ .returned (.ok true) ∧ PanicsBy s.locks.lastReading answer ∧
      tryLock timeout (s.newHandle key) (s.obtained key) = (answer, s.newHandle key, s') ∧
      s.Refused key s' := by
  have hexpire (used : List (List Contention.Event)) :
      (s.since key used).registry.expireAfter = s.locks.registry.expireAfter :=
    congrArg Prod.snd (Contention.settings_run _ _)
  rcases tryLock_eq timeout (s.newHandle key) (s.obtained key) with
    ⟨answer, failNext, hunbegun⟩ | ⟨w, hw, hlast, -, htry⟩
  · exact .inr ⟨answer, _, hunbegun.notGranted, hunbegun.panics, hunbegun.tried,
      ⟨[], rfl, fun _ => rfl⟩, rfl⟩
  · obtain ⟨used, others, d, t, hused, ht, hends⟩ := wait_cases w ((s.obtained key).awaiting w)
    have hregistry := registry_later s key w hw used others d
    rw [← ht] at hregistry
    have hheld (k : String) : t.locks.holder k = (s.since key used).holder k := by
      rw [Contention.holder, hregistry]
      rfl
    have hused : s.others = used ++ t.others := by
      rw [ht]
      exact hused
    have hown : t.own = (s.newHandle key).token :: s.own := by
      rw [ht]
      rfl
    have hworld : t.world = s.world := by
      rw [ht]
      rfl
    rw [htry, ← hw]
    rcases hends with ⟨hwait, hfree, hlocks⟩ | ⟨answer, hanswer, hpanics, hwait, hlocks⟩
    · rw [hwait]
      have hnow : (t.looked w).locks.now = t.locks.now := by
        rw [hlocks]
        rfl
      refine .inl ⟨_, rfl, ⟨⟨used, hused, fun x hx => ?_, fun k => ?_⟩, hown, hworld⟩, ?_⟩
      · -- the lock was free for the handle, which was not entered yet
        rw [← hheld, ← hw] at hx
        rw [hnow]
        rcases LockRegistry.of_isFree hfree hx with hexpired | hsame
        · exact hexpired
        · rw [hheld] at hx
          exact absurd (hw ▸ hsame) (lacks_since hsound key used _ x hx)
      · rw [hnow, hlocks, Contention.holder_grant, hheld, ← hexpire used, hw, hregistry]
        rfl
      · rw [hlocks]
        exact Table.find?_put_self _ _ _
    · rw [hwait]
      refine .inr ⟨answer, t.looked w, hanswer, hlast ▸ hpanics, ?_, ⟨used, hused, fun k => ?_⟩,
        hworld⟩
      · rcases answer with (e | granted) | p
        · rfl
        · cases granted with
          | false => rfl
          | true => exact absurd rfl hanswer
        · rfl
      · rw [hlocks, ← hheld]
        rfl

theorem acquire_eq (key : String) (timeout patience : Nat) (s : Company τ) :
    (mutex patience).acquire key timeout s =
      match tryLock timeout (s.newHandle key) (s.obtained key) with
      | (.returned (.ok true), h, s) => (.returned (.ok h), s)
      | (.returned (.ok false), _, s) => (.returned (.error .notAcquired), s)
      | (.returned (.error e), _, s) => (.returned (.error (.ofError e)), s)
      | (.panicked p, _, s) => (.panicked p, s) := by
  have hobtain : (mutex patience).service.obtain key s =
      (.ok (s.newHandle key), s.obtained key) := rfl
  have htryLock : (mutex patience).service.tryLock timeout (s.newHandle key) (s.obtained key) =
      tryLock timeout (s.newHandle key) (s.obtained key) := rfl
  rw [LockMutex.acquire, hobtain]
  simp only [htryLock]
  rcases tryLock timeout (s.newHandle key) (s.obtained key) with ⟨(e | (_ | _)) | p, h, s'⟩ <;> rfl

/-- **Taking a lock in company.** -/
theorem acquire_cases (hsound : s.Sound) (key : String) (timeout patience : Nat) :
    (∃ s₁, (mutex patience).acquire key timeout s =
        (.returned (.ok { s.newHandle key with held := true }), s₁) ∧ s.Granted key s₁ ∧
      s₁.locks.contenders.find? (s.newHandle key).token =
        some (.idle { s.newHandle key with held := true }) ∧ Passed s.own s s₁) ∨
    ∃ refusal s', (mutex patience).acquire key timeout s = (refusal.map .error, s') ∧
      Refusal s.locks.lastReading refusal ∧ s.Refused key s' ∧ Passed s.own s s' := by
  have hobtained : Passed s.own s (s.obtained key) := passed_obtained s key
  have hpassed : Passed s.own s (tryLock timeout (s.newHandle key) (s.obtained key)).2.2 :=
    hobtained.trans (tryLock_passed (hobtained.sound hsound) (Table.find?_put_self _ _ _)
      List.mem_cons_self (fun n hn => List.mem_cons_of_mem _ hn) (token_newHandle hsound key))
  rw [acquire_eq]
  rcases tryLock_cases hsound key timeout with
    ⟨s₁, htry, hgranted, hhandle⟩ | ⟨answer, s', hanswer, hpanics, htry, hrefused⟩
  · rw [htry] at hpassed ⊢
    exact .inl ⟨s₁, rfl, hgranted, hhandle, hpassed⟩
  · rw [htry] at hpassed ⊢
    -- the reasons why it is not taken: a failure, the time that ran out, a panic
    rcases answer with (e | granted) | p
    · refine .inr ⟨.returned (.ofError e), s', rfl, .skipped ?_, hrefused, hpassed⟩
      cases e <;> nofun
    · cases granted with
      | false =>
        exact .inr ⟨.returned .notAcquired, s', rfl, .skipped nofun, hrefused, hpassed⟩
      | true => exact absurd rfl hanswer
    · obtain ⟨rfl, hlimited⟩ := hpanics p rfl
      exact .inr ⟨.panicked _, s', rfl, .panicked hlimited, hrefused, hpassed⟩

/-- A wait that is granted the lock takes it. -/
theorem acquire_of_wait {key : String} {timeout : Nat} {w : LockRegistry.Waiter} {s₁ : Company τ}
    (hw : w.handle = s.newHandle key)
    (hbegin : (s.obtained key).locks.registry.beginWait (s.newHandle key) timeout
      (s.obtained key).locks.lastReading = (.returned (.ok w), (s.obtained key).locks.registry))
    (hwait : wait w ((s.obtained key).awaiting w) = (.returned (.ok true), s₁)) (patience : Nat) :
    (mutex patience).acquire key timeout s =
      (.returned (.ok { s.newHandle key with held := true }), s₁) := by
  rw [acquire_eq, tryLock_of_begun hw hbegin, hwait]
  rfl

/-- What is recorded of a key that nobody holds has expired, if anything is. -/
theorem isFree_obtained {key : String} (hfree : s.locks.registry.isLocked key = false) :
    (s.obtained key).locks.registry.isFree (s.newHandle key) = true := by
  -- handing out a handle changes neither the records nor the clock
  have hheld : (s.obtained key).locks.registry.held.find? (s.newHandle key).key =
      s.locks.registry.held.find? (s.locks.registry.fullKey key) := rfl
  have hnow : (s.obtained key).locks.registry.now = s.locks.registry.now := rfl
  rw [LockRegistry.isFree, hheld, hnow]
  rw [LockRegistry.isLocked] at hfree
  cases hx : s.locks.registry.held.find? (s.locks.registry.fullKey key) with
  | none => rfl
  | some x =>
    have hexpired : x.expiresAt ≤ s.locks.registry.now := by simpa [hx] using hfree
    simp [hexpired]

/-- Whether the clock has the readings of a call for a lock that is free: the deadline of the call, and
the reading at which the lock expires. -/
def Fits (s : Company τ) (timeout : Nat) : Prop :=
  Time.reaches s.locks.lastReading (s.locks.now + timeout) = true ∧
    Time.reaches s.locks.lastReading (s.locks.now + s.locks.registry.expireAfter) = true

instance (s : Company τ) (timeout : Nat) : Decidable (s.Fits timeout) :=
  inferInstanceAs (Decidable (_ ∧ _))

/-- An attempt for a lock that is free is granted it at once, or panics and leaves the registry as it
is. -/
theorem tryLock_of_free {h : LockHandle} (hfree : s.locks.registry.isFree h = true)
    (hfail : s.locks.registry.failNext = 0) (timeout : Nat) :
    if s.Fits timeout then
      ∃ s₁, tryLock timeout h s = (.returned (.ok true), { h with held := true }, s₁)
    else
      ∃ s', tryLock timeout h s = (.panicked LockRegistry.overflow, h, s') ∧
        s'.locks.registry = s.locks.registry := by
  cases hdeadline : Time.reaches s.locks.lastReading (s.locks.now + timeout) with
  | false =>
    have hunfit : ¬s.Fits timeout := fun hfits => nomatch hdeadline.symm.trans hfits.1
    rw [if_neg hunfit, tryLock, LockRegistry.beginWait_of_beyond hdeadline]
    exact ⟨_, rfl, rfl⟩
  | true =>
    -- the attempt has begun, and its first look ends it: the lock is free
    let w : LockRegistry.Waiter :=
      ⟨h, s.locks.registry.epoch, s.locks.now + timeout, s.locks.lastReading⟩
    have hwait : tryLock timeout h s = _ :=
      tryLock_of_begun (w := w) rfl (LockRegistry.beginWait_eq hdeadline hfail h)
    cases hexpiry : Time.reaches s.locks.lastReading
        (s.locks.now + s.locks.registry.expireAfter) with
    | false =>
      have hlook : (s.awaiting w).locks.registry.look w = .overflowed :=
        LockRegistry.look_eq_overflowed_iff.mpr ⟨hfree, hexpiry⟩
      have hunfit : ¬s.Fits timeout := fun hfits => nomatch hexpiry.symm.trans hfits.2
      rw [if_neg hunfit, hwait, wait_eq, hlook, looked, Contention.lookOnce, hlook]
      exact ⟨_, rfl, rfl⟩
    | true =>
      have hlook : (s.awaiting w).locks.registry.look w = .granted :=
        LockRegistry.look_eq_granted_iff.mpr ⟨hfree, hexpiry⟩
      rw [if_pos ⟨hdeadline, hexpiry⟩, hwait, wait_eq, hlook]
      exact ⟨_, rfl⟩

/-- **A lock that nobody holds is taken at once**, if the clock has the readings that are needed; if
not, the call panics, and leaves the registry as it is. -/
theorem acquire_of_free {key : String} (hfree : s.locks.registry.isLocked key = false)
    (hfail : s.locks.registry.failNext = 0) (timeout patience : Nat) :
    if s.Fits timeout then
      ∃ h s₁, (mutex patience).acquire key timeout s = (.returned (.ok h), s₁)
    else
      ∃ s', (mutex patience).acquire key timeout s = (.panicked LockRegistry.overflow, s') ∧
        s'.locks.registry = (s.obtained key).locks.registry := by
  have htry := tryLock_of_free (s := s.obtained key) (isFree_obtained hfree) hfail timeout
  have hsame : (s.obtained key).Fits timeout ↔ s.Fits timeout := Iff.rfl
  simp only [hsame] at htry
  rw [acquire_eq]
  by_cases hfits : s.Fits timeout
  · rw [if_pos hfits] at htry ⊢
    obtain ⟨s₁, htry⟩ := htry
    rw [htry]
    exact ⟨_, _, rfl⟩
  · rw [if_neg hfits] at htry ⊢
    obtain ⟨s', htry, hregistry⟩ := htry
    rw [htry]
    exact ⟨s', rfl, hregistry⟩

/-- The world beside the locks plays no part in taking a lock. -/
theorem acquire_withWorld (key : String) (timeout patience : Nat) (s : Company τ) (x : υ) :
    (mutex patience).acquire key timeout (s.withWorld x) =
      (((mutex patience).acquire key timeout s).1,
        ((mutex patience).acquire key timeout s).2.withWorld x) := by
  -- an attempt neither reads nor changes the world it is beside
  have htry (h : LockHandle) (s : Company τ) : tryLock timeout h (s.withWorld x) =
      ((tryLock timeout h s).1, (tryLock timeout h s).2.1, (tryLock timeout h s).2.2.withWorld x) := by
    have hlocks : (s.withWorld x).locks = s.locks := rfl
    unfold tryLock
    rw [hlocks]
    rcases s.locks.registry.beginWait_cases h timeout s.locks.lastReading with
      ⟨-, hbegin⟩ | ⟨e, failNext, hbegin⟩ | hbegin
    · rw [hbegin]
      rfl
    · rw [hbegin]
      rfl
    · rw [hbegin]
      dsimp only
      generalize (⟨h, _, _, _⟩ : LockRegistry.Waiter) = w
      have hwait := wait_withWorld w { s with locks := s.locks.set h.token (.waiting w) } x
      exact congrArg (fun out => (out.1, h.after out.1, out.2)) hwait
  have hobtained : (s.withWorld x).obtained key = (s.obtained key).withWorld x := rfl
  have hhandle : (s.withWorld x).newHandle key = s.newHandle key := rfl
  rw [acquire_eq, acquire_eq, hobtained, hhandle, htry]
  rcases tryLock timeout (s.newHandle key) (s.obtained key) with ⟨(e | (_ | _)) | p, h, s'⟩ <;> rfl

/-! ## Running an action -/

/-- What a call under a lock answers when its action has ended. -/
def answerOf : Outcome α → Outcome (Except SkipReason α)
  | .returned a => .returned (.ok a)
  | .panicked p => .returned (.error (.actionPanicked p.message))

/-- **With nobody else there**, a call under a lock is the call on the registry by itself, for an
action that does on the registry what the other does. -/
theorem tryWithLock_alone {action : Company τ → Outcome α × Company τ}
    {f : LockRegistry → Outcome α × LockRegistry}
    (hf : ∀ s, (action s).1 = (f s.locks.registry).1 ∧
      (action s).2.locks.registry = (f s.locks.registry).2)
    (key : String) (timeout patience : Nat) (s : Company τ) (halone : s.others = []) :
    let m : LockMutex LockRegistry LockHandle :=
      { service := LockRegistry.service id (fun r _ => r) s.locks.lastReading
        defaultTimeout := patience }
    ((mutex patience).tryWithLock key timeout action s).1 =
        (m.tryWithLock key timeout f s.locks.registry).1 ∧
      ((mutex patience).tryWithLock key timeout action s).2.locks.registry =
        (m.tryWithLock key timeout f s.locks.registry).2 := by
  intro m
  rw [LockMutex.tryWithLock, LockMutex.tryWithLock]
  split
  · exact ⟨rfl, rfl⟩
  split
  · exact ⟨rfl, rfl⟩
  obtain ⟨hanswer, hhandle, hregistry⟩ := tryLock_alone timeout (s.newHandle key)
    (s.obtained key) halone
  have hobtain : m.service.obtain key s.locks.registry =
      (.ok (s.newHandle key), (s.obtained key).locks.registry) := rfl
  have htry : m.service.tryLock timeout (s.newHandle key) (s.obtained key).locks.registry =
      (s.obtained key).locks.registry.tryLock (s.newHandle key) timeout s.locks.lastReading := rfl
  rw [acquire_eq, LockMutex.acquire, hobtain]
  simp only [htry]
  have hlast : (s.obtained key).locks.lastReading = s.locks.lastReading := rfl
  rw [hlast] at hanswer hhandle hregistry
  generalize tryLock timeout (s.newHandle key) (s.obtained key) = ended at *
  generalize (s.obtained key).locks.registry.tryLock (s.newHandle key) timeout
    s.locks.lastReading = ended' at *
  obtain ⟨answer, h, s'⟩ := ended
  obtain ⟨answer', h', r⟩ := ended'
  cases hanswer
  cases hhandle
  cases hregistry
  rcases answer with (e | (_ | _)) | p
  · exact ⟨rfl, rfl⟩
  · exact ⟨rfl, rfl⟩
  · -- the action does the same on both, and so does the release
    obtain ⟨houtcome, hafter⟩ := hf s'
    dsimp only
    rcases haction : action s' with ⟨outcome, s''⟩
    rcases hf' : f s'.locks.registry with ⟨outcome', r⟩
    rw [haction, hf'] at houtcome hafter
    cases houtcome
    cases hafter
    cases outcome <;> exact ⟨rfl, rfl⟩
  · exact ⟨rfl, rfl⟩

/-- A handle that was granted its lock gives it back: a passage for every other handle. -/
theorem release_passed {h : LockHandle} (patience : Nat)
    (hfind : s.locks.contenders.find? h.token = some (.idle h)) (hn : h.token ∉ kept) :
    Passed kept s ((mutex patience).release h s) := by
  refine passed_run [.unlock h.token] (fun n hk e he => ?_) ?_ rfl
  · cases List.mem_singleton.mp he
    exact fun h => hn (Option.some.inj h ▸ hk)
  · show (s.locks.unlock h.token h).2 = (s.locks.step _).2
    rw [Contention.step, hfind]

/-- Giving a lock back takes out the records with the token of the handle, and no other. -/
theorem holder_release {h : LockHandle} (patience : Nat) (orderly : Orderly s.locks)
    (hheld : h.held = true) (hfind : s.locks.contenders.find? h.token = some (.idle h))
    (k : String) : ((mutex patience).release h s).locks.holder k =
      (s.locks.holder k).filter (·.token ≠ h.token) := by
  have hstep : s.locks.step (.unlock h.token) = s.locks.unlock h.token h := by
    rw [Contention.step, hfind]
  rw [← Contention.holder_unlock orderly hheld hfind, hstep]
  rfl

/-- Giving a lock back takes no time. -/
theorem now_release (h : LockHandle) (patience : Nat) (s : Company τ) :
    ((mutex patience).release h s).locks.now = s.locks.now := by
  show (s.locks.registry.unlock h).2.2.now = s.locks.registry.now
  rcases s.locks.registry.unlock_cases h with ⟨_, -, -, hunlock⟩ | ⟨_, hunlock⟩ <;> rw [hunlock]

/-- **A lock that is given back in time** is not held afterwards. -/
theorem isLocked_release {key : String} {s₁ s₂ : Company τ} (hsound : s.Sound)
    (hgranted : s.Granted key s₁) (hpassed : Passed s.own s s₁)
    (hhandle : s₁.locks.contenders.find? (s.newHandle key).token =
      some (.idle { s.newHandle key with held := true }))
    (hafter : Passed s₁.own s₁ s₂) (patience : Nat) :
    let h : LockHandle := { s.newHandle key with held := true }
    ((mutex patience).release h s₂).locks.now < s.locks.now + s.locks.registry.expireAfter →
      ((mutex patience).release h s₂).locks.registry.isLocked key = false := by
  intro h hlive
  have hsound₁ := hpassed.sound hsound
  have hsound₂ := hafter.sound hsound₁
  have hown : h.token ∈ s₁.own := hgranted.own ▸ List.mem_cons_self
  have hstill : s₂.locks.contenders.find? h.token = some (.idle h) :=
    hafter.find? hsound₁ hown hhandle
  have hrelease : Passed [] s₂ ((mutex patience).release h s₂) :=
    release_passed patience hstill List.not_mem_nil
  -- the record is still there when the lock is released
  obtain ⟨used, -, -, hrecords⟩ := hgranted.records
  have hentered : s₁.locks.holder h.key =
      some ⟨h.token, s₁.locks.now + s.locks.registry.expireAfter⟩ := by
    rw [hrecords]
    exact if_pos rfl
  have hfound : s₂.locks.holder h.key =
      some ⟨h.token, s₁.locks.now + s.locks.registry.expireAfter⟩ := by
    obtain ⟨es, hothers, hlocks⟩ := hafter.run
    have hsooner := hpassed.now hsound
    have hlater := hrelease.now hsound₂
    rw [hlocks] at hlater ⊢
    refine Contention.holder_run_of_live hsound₁.orderly hentered (hothers _ hown) ?_
    show (s₁.locks.run es).now < s₁.locks.now + s.locks.registry.expireAfter
    omega
  have hnone : ((mutex patience).release h s₂).locks.registry.held.find? h.key = none := by
    have hfilter := holder_release patience hsound₂.orderly rfl hstill h.key
    rw [hfound, Option.filter_some, if_neg (by simp)] at hfilter
    exact hfilter
  have hfull : ((mutex patience).release h s₂).locks.registry.fullKey key = h.key := by
    rw [hrelease.fullKey, hafter.fullKey, hpassed.fullKey]
    rfl
  rw [LockRegistry.isLocked, hfull, hnone]

/-- A call with a key and a time takes the lock, runs its action and gives the lock back, or it is
over with the acquire. -/
theorem tryWithLock_of_acquire {key : String} (hkey : key ≠ "") {timeout : Nat}
    (htimeout : 0 < timeout) (patience : Nat) (action : Company τ → Outcome α × Company τ) :
    (mutex patience).tryWithLock key timeout action s =
      match (mutex patience).acquire key timeout s with
      | (.panicked p, s) => (.panicked p, s)
      | (.returned (.error skip), s) => (.returned (.error skip), s)
      | (.returned (.ok h), s) =>
        (answerOf (action s).1, (mutex patience).release h (action s).2) := by
  have hempty : ¬key.isEmpty = true := by simpa using hkey
  rw [LockMutex.tryWithLock, if_neg hempty, if_neg (Nat.ne_of_gt htimeout)]
  rcases (mutex patience).acquire key timeout s with ⟨(_ | h) | _, s₁⟩
  · rfl
  · rcases haction : action s₁ with ⟨_ | _, s₂⟩ <;> simp only [haction, answerOf]
  · rfl

/-- **A call under a lock** takes the lock, runs its action, and gives the lock back; or it does not
run its action, and would not have run any other. -/
theorem tryWithLock_cases (hsound : s.Sound) (key : String) (timeout patience : Nat) :
    (∃ s₁, s.Granted key s₁ ∧ Passed s.own s s₁ ∧
      s₁.locks.contenders.find? (s.newHandle key).token =
        some (.idle { s.newHandle key with held := true }) ∧
      ∀ {α : Type} (action : Company τ → Outcome α × Company τ),
        let after :=
          (mutex patience).release { s.newHandle key with held := true } (action s₁).2
        (mutex patience).tryWithLock key timeout action s = (answerOf (action s₁).1, after) ∧
        (mutex patience).tryWithLock key timeout (noting action) (s.withNotes []) =
          (answerOf (action s₁).1, after.withNotes [s₁])) ∨
    ∃ refusal s', Refusal s.locks.lastReading refusal ∧ s.Refused key s' ∧ Passed s.own s s' ∧
      ∀ {α : Type} (action : Company τ → Outcome α × Company τ),
        (mutex patience).tryWithLock key timeout action s = (refusal.map .error, s') ∧
        (mutex patience).tryWithLock key timeout (noting action) (s.withNotes []) =
          (refusal.map .error, s'.withNotes []) := by
  have hnothing : s.Refused key s := ⟨⟨[], rfl, fun _ => rfl⟩, rfl⟩
  by_cases hempty : key.isEmpty
  · refine .inr ⟨.returned (.invalidArgument (.empty "lock_key")), s, .skipped nofun, hnothing,
      passed_refl _ s, ?_⟩
    intro α action
    rw [LockMutex.tryWithLock, LockMutex.tryWithLock, if_pos hempty, if_pos hempty]
    exact ⟨rfl, rfl⟩
  by_cases hzero : timeout = 0
  · refine .inr ⟨.returned (.invalidArgument (.notPositive "acquire_timeout")), s, .skipped nofun,
      hnothing, passed_refl _ s, ?_⟩
    intro α action
    rw [LockMutex.tryWithLock, LockMutex.tryWithLock, if_neg hempty, if_neg hempty, if_pos hzero,
      if_pos hzero]
    exact ⟨rfl, rfl⟩
  have hkey : key ≠ "" := fun h => hempty (by simp [h])
  have htimeout : 0 < timeout := Nat.pos_of_ne_zero hzero
  -- the call that notes its states takes the lock in the same way
  have hbeside := acquire_withWorld key timeout patience s (s.world, ([] : List (Company τ)))
  rcases acquire_cases hsound key timeout patience with
    ⟨s₁, hacquire, hgranted, hhandle, hpassed⟩ |
      ⟨refusal, s', hacquire, hreason, hrefused, hpassed⟩
  · refine .inl ⟨s₁, hgranted, hpassed, hhandle, fun {α} action => ?_⟩
    rw [hacquire, ← hgranted.world] at hbeside
    rw [tryWithLock_of_acquire hkey htimeout, tryWithLock_of_acquire hkey htimeout, hacquire,
      withNotes, ← hgranted.world, hbeside]
    exact ⟨rfl, rfl⟩
  · refine .inr ⟨refusal, s', hreason, hrefused, hpassed, fun {α} action => ?_⟩
    rw [hacquire, ← hrefused.world] at hbeside
    rw [tryWithLock_of_acquire hkey htimeout, tryWithLock_of_acquire hkey htimeout, hacquire,
      withNotes, ← hrefused.world, hbeside]
    cases refusal <;> exact ⟨rfl, rfl⟩

/-- A call for a lock that nobody holds runs its action, if the clock has the readings that are
needed. -/
theorem tryWithLock_of_free (hsound : s.Sound) {key : String} (hkey : key ≠ "")
    (hfree : s.locks.registry.isLocked key = false) (hfail : s.locks.registry.failNext = 0)
    {timeout : Nat} (htimeout : 0 < timeout) (hfits : s.Fits timeout) (patience : Nat) :
    ∃ s₁, s.Granted key s₁ ∧ Passed s.own s s₁ ∧
      s₁.locks.contenders.find? (s.newHandle key).token =
        some (.idle { s.newHandle key with held := true }) ∧
      ∀ {α : Type} (action : Company τ → Outcome α × Company τ),
        (mutex patience).tryWithLock key timeout action s = (answerOf (action s₁).1,
          (mutex patience).release { s.newHandle key with held := true } (action s₁).2) := by
  have htaken := acquire_of_free hfree hfail timeout patience
  rw [if_pos hfits] at htaken
  obtain ⟨h, s₁, htaken⟩ := htaken
  rcases acquire_cases hsound key timeout patience with
    ⟨s₂, hacquire, hgranted, hhandle, hpassed⟩ | ⟨refusal, s₂, hacquire, -, -, -⟩
  · refine ⟨s₂, hgranted, hpassed, hhandle, fun action => ?_⟩
    rw [tryWithLock_of_acquire hkey htimeout, hacquire]
  · -- the lock is taken, so that it was not refused
    have hanswer := congrArg Prod.fst (htaken.symm.trans hacquire)
    cases refusal <;> cases hanswer

/-- If it has not, the call panics, and nothing has happened but that a handle was obtained. -/
theorem tryWithLock_of_beyond (hsound : s.Sound) {key : String} (hkey : key ≠ "")
    (hfree : s.locks.registry.isLocked key = false) (hfail : s.locks.registry.failNext = 0)
    {timeout : Nat} (htimeout : 0 < timeout) (hunfit : ¬s.Fits timeout) (patience : Nat) :
    ∃ s', s'.locks.registry = (s.obtained key).locks.registry ∧ s'.world = s.world ∧
      ∀ {α : Type} (action : Company τ → Outcome α × Company τ),
        (mutex patience).tryWithLock key timeout action s =
          (.panicked LockRegistry.overflow, s') := by
  have hpanics := acquire_of_free hfree hfail timeout patience
  rw [if_neg hunfit] at hpanics
  obtain ⟨s', hpanics, hregistry⟩ := hpanics
  have hworld : s'.world = s.world := by
    -- this call panics, so it is no grant, and a refusal leaves the world
    rcases acquire_cases hsound key timeout patience with
      ⟨s₂, hacquire, -⟩ | ⟨refusal, s₂, hacquire, -, hrefused, -⟩
    · cases congrArg Prod.fst (hpanics.symm.trans hacquire)
    · have hafter : s' = s₂ := congrArg Prod.snd (hpanics.symm.trans hacquire)
      exact hafter ▸ hrefused.world
  refine ⟨s', hregistry, hworld, fun action => ?_⟩
  rw [tryWithLock_of_acquire hkey htimeout, hpanics]

/-! ### Code that takes locks itself -/

/-- Code that lets others act, and time pass. -/
theorem polite_meanwhile (outcome : Outcome α) (es : List Contention.Event) :
    Polite fun s : Company τ => (outcome, s.meanwhile es) := fun s _ =>
  passed_run _ (fun _ hn => others_filter s hn es) rfl rfl

/-- **Code under a lock**, of whatever key, is such code again. -/
theorem polite_tryWithLock {action : Company τ → Outcome α × Company τ} (hpolite : Polite action)
    (key : String) (timeout patience : Nat) :
    Polite fun s => (mutex patience).tryWithLock key timeout action s := by
  intro s hsound
  have hn := token_newHandle hsound key
  rcases tryWithLock_cases hsound key timeout patience with
    ⟨s₁, hgranted, hpassed, hhandle, hrun⟩ | ⟨refusal, s', -, -, hpassed, hrun⟩
  · have hsound₁ := hpassed.sound hsound
    have haction := hpolite s₁ hsound₁
    have hown : (s.newHandle key).token ∈ s₁.own := hgranted.own ▸ List.mem_cons_self
    -- the action is itself polite, so the handle of this call is as it was
    have hstill := haction.find? hsound₁ hown hhandle
    show Passed s.own s ((mutex patience).tryWithLock key timeout action s).2
    rw [(hrun action).1]
    exact (hpassed.trans (haction.mono hpassed.own)).trans (release_passed patience hstill hn)
  · show Passed s.own s ((mutex patience).tryWithLock key timeout action s).2
    rw [(hrun action).1]
    exact hpassed

/-! ### The whole -/

/-- A call ran its action once, in the state `s₁`: its handle had been granted the lock then, what it
answers is how the action ended, and of the records that the action left, those of the handle are
taken out, and no other. -/
structure Ran (key : String) (action : Company τ → Outcome α × Company τ) (s s₁ : Company τ)
    (out : Outcome (Except SkipReason α) × Company τ) : Prop where
  granted : s.Granted key s₁
  answer : out.1 = answerOf (action s₁).1
  released : ∀ k, out.2.locks.holder k =
    ((action s₁).2.locks.holder k).filter (·.token ≠ (s.newHandle key).token)

/-- A call did not run its action, says why or panics, and has changed no record. -/
structure Skipped (key : String) (s : Company τ) (out : Outcome (Except SkipReason α) × Company τ) :
    Prop where
  reason : ∃ refusal, Refusal s.locks.lastReading refusal ∧ out.1 = refusal.map .error
  refused : s.Refused key out.2

/-- **Every exit of a call under a lock.** For every state of a registry, whatever others do while the
call waits, for every key, every timeout, and every action, which may return or panic, let any time
pass, and use the registry on any keys:

* the action is run once, after the call's own handle was granted the lock of the key, which nobody
  held any more; or it is not run at all. What notes the states in which it is run changes nothing;
* if it is run and returns, the call answers what it returned; if it panics, the call answers that it
  panicked. When the call returns, the records are those that the action left, without those of the
  call's own handle: the record of an owner that took the lock over stays;
* if it is not run, the call gives another reason, or panics by a clock that has a greatest reading,
  and the records are as the others left them;
* no record has the token of the call's handle in the end;
* the forms without a reason give a value, and true, exactly when the call does. -/
theorem tryWithLock_every_exit (hsound : s.Sound) (key : String) (timeout patience : Nat)
    (action : Company τ → Outcome α × Company τ) (hpolite : Polite action) :
    let m : LockMutex (Company τ) LockHandle := mutex patience
    let out := m.tryWithLock key timeout action s
    (∃ runs, (mutex patience).tryWithLock key timeout (noting action) (s.withNotes []) =
        (out.1, out.2.withNotes runs) ∧
      ((∃ s₁, runs = [s₁] ∧ Ran key action s s₁ out) ∨ (runs = [] ∧ Skipped key s out))) ∧
    out.2.locks.registry.Lacks (s.newHandle key).token ∧
    (∀ v, (m.withLock key timeout action s).1 = .returned (some v) ↔ out.1 = .returned (.ok v)) ∧
    ∀ test : Company τ → Outcome Bool × Company τ,
      (m.testWithLock key timeout test s).1 = .returned true ↔
        (m.tryWithLock key timeout test s).1 = .returned (.ok true) := by
  intro m out
  have hvalue (v : α) :
      (m.withLock key timeout action s).1 = .returned (some v) ↔ out.1 = .returned (.ok v) := by
    show out.1.map (·.toOption) = .returned (some v) ↔ _
    rcases out.1 with (_ | _) | _ <;> simp [Outcome.map, Except.toOption]
  have htest (test : Company τ → Outcome Bool × Company τ) :
      (m.testWithLock key timeout test s).1 = .returned true ↔
        (m.tryWithLock key timeout test s).1 = .returned (.ok true) := by
    show ((m.tryWithLock key timeout test s).1.map (·.toOption)).map (·.getD false) =
      .returned true ↔ _
    rcases (m.tryWithLock key timeout test s).1 with (_ | _) | _ <;>
      simp [Outcome.map, Except.toOption]
  suffices hexit : (∃ runs, (mutex patience).tryWithLock key timeout (noting action)
        (s.withNotes []) = (out.1, out.2.withNotes runs) ∧
      ((∃ s₁, runs = [s₁] ∧ Ran key action s s₁ out) ∨ (runs = [] ∧ Skipped key s out))) ∧
      out.2.locks.registry.Lacks (s.newHandle key).token from
    ⟨hexit.1, hexit.2, hvalue, htest⟩
  rcases tryWithLock_cases hsound key timeout patience with
    ⟨s₁, hgranted, hpassed, hhandle, hrun⟩ | ⟨refusal, s', hreason, hrefused, -, hrun⟩
  · obtain ⟨hout, hnoted⟩ := hrun action
    have hsound₁ := hpassed.sound hsound
    have haction := hpolite s₁ hsound₁
    have hown : (s.newHandle key).token ∈ s₁.own := hgranted.own ▸ List.mem_cons_self
    -- the handle is as it was when the lock was granted
    have hstill := haction.find? hsound₁ hown hhandle
    have horderly : Orderly (action s₁).2.locks := (haction.sound hsound₁).orderly
    have hreleased (k : String) : out.2.locks.holder k =
        ((action s₁).2.locks.holder k).filter (·.token ≠ (s.newHandle key).token) := by
      show (m.tryWithLock key timeout action s).2.locks.holder k = _
      rw [hout]
      exact holder_release patience horderly rfl hstill k
    refine ⟨⟨[s₁], ?_, .inl ⟨s₁, rfl, hgranted, ?_, hreleased⟩⟩, fun k x hx => ?_⟩
    · rw [hnoted]
      exact congrArg (fun out => (out.1, out.2.withNotes [s₁])) hout.symm
    · exact congrArg (·.1) hout
    · have hx : out.2.locks.holder k = some x := hx
      rw [hreleased] at hx
      simpa using (Option.filter_eq_some_iff.mp hx).2
  · obtain ⟨hout, hnoted⟩ := hrun action
    have hout : out = (refusal.map .error, s') := hout
    rw [hout]
    refine ⟨⟨[], hnoted, .inr ⟨rfl, ⟨refusal, hreason, rfl⟩, hrefused⟩⟩, fun k x hx => ?_⟩
    obtain ⟨used, -, hrecords⟩ := hrefused.records
    exact lacks_since hsound key used k x ((hrecords k).symm.trans hx)

/-- A registry of which locks expire after 5, with nobody waiting. -/
def unvisited : Company Unit :=
  { locks := .start { registryKey := "r", expireAfter := 5 }, world := () }

/-- Takes the lock once more, for which the first one has to expire, and outlives this one, too:
another handle takes the lock over. Then it panics. -/
def overtaken (s : Company Unit) : Outcome (Except SkipReason Nat) × Company Unit :=
  (mutex 0).tryWithLock "k" 10
    (fun s => (.panicked .other, s.meanwhile [.advance 6, .obtain "k", .enter 2 0])) s

/-- The call returns what its action returned, and of three records of one key the one of the owner
that took the lock over is left. -/
theorem tryWithLock_every_exit_overtaken :
    unvisited.Sound ∧ Polite overtaken ∧
      let out := (mutex 0).tryWithLock "k" 1 overtaken unvisited
      out.1 = .returned (.ok (.error (.actionPanicked "non-string panic payload"))) ∧
        out.2.locks.registry.Lacks 0 ∧ out.2.locks.holder "r:k" = some ⟨2, 16⟩ := by
  have hsound : unvisited.Sound := ⟨Contention.orderly_start _, nofun⟩
  have hpolite : Polite overtaken := polite_tryWithLock (polite_meanwhile _ _) "k" 10 0
  obtain ⟨-, hlacks, -⟩ := tryWithLock_every_exit hsound "k" 1 0 overtaken hpolite
  let outer : LockRegistry.Waiter := ⟨⟨"r:k", 0, false⟩, 0, 1, none⟩
  let inner : LockRegistry.Waiter := ⟨⟨"r:k", 1, false⟩, 0, 10, none⟩
  -- the first lock is free, and the second one as soon as the first has expired
  let s₁ := ((unvisited.obtained "k").awaiting outer).looked outer
  let s₂ := (((s₁.obtained "k").awaiting inner).later [] [] 5).looked inner
  have houter : wait outer ((unvisited.obtained "k").awaiting outer) =
      (.returned (.ok true), s₁) := by
    rw [wait_eq]
    rfl
  have hbusy : ((s₁.obtained "k").awaiting inner).locks.registry.look inner = .waits 5 := by decide
  have hinner : wait inner ((s₁.obtained "k").awaiting inner) = (.returned (.ok true), s₂) := by
    rw [wait_nobody hbusy rfl, wait_eq]
    rfl
  have hout : (mutex 0).tryWithLock "k" 1 overtaken unvisited =
      (answerOf (overtaken s₁).1, (mutex 0).release ⟨"r:k", 0, true⟩ (overtaken s₁).2) := by
    rw [tryWithLock_of_acquire (by decide) (by decide), acquire_of_wait rfl rfl houter]
    rfl
  have hovertaken : overtaken s₁ = (.returned (.error (.actionPanicked "non-string panic payload")),
      (mutex 0).release ⟨"r:k", 1, true⟩ (s₂.meanwhile [.advance 6, .obtain "k", .enter 2 0])) := by
    rw [overtaken, tryWithLock_of_acquire (by decide) (by decide), acquire_of_wait rfl rfl hinner]
    rfl
  refine ⟨hsound, hpolite, ?_, hlacks, ?_⟩
  · rw [hout, hovertaken]
    rfl
  · rw [hout, hovertaken]
    decide

end KeyedDelivery.Company
