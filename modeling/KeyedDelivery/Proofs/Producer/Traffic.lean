import KeyedDelivery.Producer.Traffic
import KeyedDelivery.Proofs.Lock.Interference

/-!
# One send per key

Producers with locks share a registry, and their sends take their steps in any order. What keeps two
sends of one key apart are the leases of their handles: a send that may call its transport was
granted its lock, and the grant is still entered unless it has expired.

* **`Advanced`** — what one step of a send can be; **`advanced_of_advance`** proves it for each.
* **`Standing`** — how far a send has come is what the registry knows of its handle: the handle is
  on the key of the send, and a lock that was granted is leased.
* **`Guarded`** — all sends stand so, and no two have one handle. Every event keeps it
  (`Guarded.step`).
* **`Guarded.eq_of_sending`** — so of the sends of one key at most one is under way, unless a lock
  has expired.
-/

namespace KeyedDelivery

/-! ## Whose answer it is -/

namespace Contention

variable {s : Contention} {n : Nat}

/-- The handle that an answer is for. -/
def Answer.token : Answer → Nat
  | .tried token _ => token
  | .unlocked token _ => token
  | .panicked token _ => token

theorem token_of_lookOnce {w : LockRegistry.Waiter} {a : Answer} (h : (s.lookOnce n w).1 = some a) :
    a.token = n := by
  unfold lookOnce at h
  split at h
  · cases h; rfl
  · cases h; rfl
  · cases h; rfl
  · cases h; rfl
  · cases h

/-- An answer goes to the handle that acts. -/
theorem actor_of_answer {e : Event} {a : Answer} (h : (s.step e).1 = some a) :
    e.actor = some a.token := by
  cases e with
  | enter token timeout =>
    rw [step] at h
    split at h
    · unfold enter at h
      split at h
      · cases h; rfl
      · cases h; rfl
      · -- an attempt that has begun answers by its first look
        exact congrArg some (token_of_lookOnce h).symm
    · cases h
  | look token =>
    rw [step] at h
    split at h
    · exact congrArg some (token_of_lookOnce h).symm
    · cases h
  | unlock token =>
    rw [step] at h
    split at h
    · cases h; rfl
    · cases h
  | _ => cases h

end Contention

namespace SendPoint

/-- What a look leads to: the send begins, or its call ends without it, or it looks again. -/
theorem afterLook_cases (token now : Nat) (answer : Option Contention.Answer) :
    (∃ n, answer = some (.tried n (.ok true)) ∧
      afterLook token now answer = .sending (some ⟨token, now⟩) .asking) ∨
    (∃ outcome, afterLook token now answer = .ended outcome) ∨
      afterLook token now answer = .waiting token := by
  unfold afterLook
  split
  · exact .inl ⟨_, rfl, rfl⟩
  · exact .inr (.inl ⟨_, rfl⟩)
  · exact .inr (.inl ⟨_, rfl⟩)
  · exact .inr (.inl ⟨_, rfl⟩)
  · exact .inr (.inr rfl)

/-- The lock that is held is that of the handle. -/
theorem token?_of_hold? {p : SendPoint} {h : Hold} (hhold : p.hold? = some h) :
    p.token? = some h.token := by
  cases p with
  | sending hold stage =>
    obtain rfl : hold = some h := hhold
    rfl
  | _ => cases hhold

end SendPoint

namespace Traffic

open Contention (Leased Orderly)

variable {σ : Type} {x : Traffic σ} {s : Sending σ} {c : LockConfig}

/-! ## One step of a send -/

/-- What one step of a send can be. -/
inductive Advanced (x : Traffic σ) (s : Sending σ) : SendPoint → Contention → σ → Prop where
  /-- It takes no lock. -/
  | began (arriving : s.point = .arriving) (free : s.isLocked = false) :
      Advanced x s (.sending none .asking) x.locks x.world
  | refused (r : SkipReason) (arriving : s.point = .arriving) :
      Advanced x s (.ended (.skipped r)) x.locks x.world
  | came (deadline : Nat) (arriving : s.point = .arriving) (locked : s.isLocked = true) :
      Advanced x s (.contending x.locks.registry.nextToken deadline)
        (x.locks.step (.obtain s.lockKey)).2 x.world
  | looked {token : Nat} (e : Contention.Event) (acts : e.actor = some token)
      (owns : s.point.token? = some token) (before : s.point.isSending = false) :
      Advanced x s (.afterLook token x.locks.now (x.locks.step e).1) (x.locks.step e).2 x.world
  | called {hold : Option Hold} {stage : SendStage} (point : s.point = .sending hold stage) :
      Advanced x s
        (.sending hold (stage.advance s.sender.config s.sender.transport s.message x.world).1)
        x.locks (stage.advance s.sender.config s.sender.transport s.message x.world).2
  | released {hold : Hold} {result : Except String Receipt}
      (point : s.point = .sending (some hold) (.answered result)) :
      Advanced x s (.ended (Producer.outcomeOf (.ok result)))
        (x.locks.step (.unlock hold.token)).2 x.world
  | ended {result : Except String Receipt} (point : s.point = .sending none (.answered result)) :
      Advanced x s (.ended (Producer.outcomeOf (.ok result))) x.locks x.world
  | rested {outcome : SendOutcome} (point : s.point = .ended outcome) :
      Advanced x s (.ended outcome) x.locks x.world

/-- **Every step of a send** is one of these. -/
theorem advanced_of_advance (x : Traffic σ) (s : Sending σ) :
    Advanced x s (x.advance s).1 (x.advance s).2.1 (x.advance s).2.2 := by
  unfold advance
  split
  · next arriving =>
    split
    · next hpatience => exact .began arriving (by simp [Sending.isLocked, hpatience])
    · next timeout hpatience =>
      split
      · exact .refused _ arriving
      split
      · exact .refused _ arriving
      · exact .came _ arriving (by simp [Sending.isLocked, hpatience])
  · next token deadline point =>
    exact .looked (.enter token _) rfl (by rw [point]; rfl) (by rw [point]; rfl)
  · next token point => exact .looked (.look token) rfl (by rw [point]; rfl) (by rw [point]; rfl)
  · next point => exact .ended point
  · next point => exact .released point
  · next point => exact .called point
  · next point => exact .rested point

/-- What a send is after an event: what it was, or one step further, or new. -/
theorem sends_step {e : Event σ} {i : Nat} {s' : Sending σ} (h : (x.step e).sends[i]? = some s') :
    x.sends[i]? = some s' ∨
    (∃ s, x.sends[i]? = some s ∧ e = .proceed i ∧ s' = { s with point := (x.advance s).1 }) ∨
    ∃ sender m, e = .begin sender m ∧ s' = { sender, message := m } := by
  cases e with
  | begin sender m =>
    rw [step, List.getElem?_append] at h
    split at h
    · exact .inl h
    · exact .inr (.inr ⟨sender, m, rfl, List.mem_singleton.mp (List.mem_of_getElem? h)⟩)
  | proceed j =>
    rw [step] at h
    split at h
    · exact .inl h
    · next s hs =>
      rw [List.getElem?_set] at h
      split at h
      · next hij =>
        subst hij
        -- only the send that proceeds is set
        refine .inr (.inl ⟨s, hs, rfl, ?_⟩)
        simpa [(List.getElem?_eq_some_iff.mp hs).1] using h.symm
      · exact .inl h
  | locks e =>
    rw [step] at h
    split at h <;> exact .inl h
  | elsewhere f => exact .inl h

/-! ## What the registry knows of a send -/

/-- How far a send has come is what the registry knows of its handle. -/
structure Standing (locks : Contention) (s : Sending σ) : Prop where
  onKey : ∀ n, s.point.token? = some n →
    s.isLocked = true ∧ locks.keyOf n = some (locks.registry.fullKey s.lockKey)
  leased : ∀ h, s.point.hold? = some h →
    Leased locks h.token (locks.registry.fullKey s.lockKey) h.since
  free : ∀ stage, s.point = .sending none stage → s.isLocked = false

/-- A send without a handle stands in whatever way. -/
theorem Standing.of_token?_eq_none {locks : Contention} (h : s.point.token? = none)
    (free : ∀ stage, s.point = .sending none stage → s.isLocked = false) : Standing locks s where
  onKey n hn := by rw [h] at hn; cases hn
  leased hold hhold := by
    rw [SendPoint.token?_of_hold? hhold] at h
    cases h
  free := free

theorem fullKey_step (locks : Contention) (e : Contention.Event) (key : String) :
    (locks.step e).2.registry.fullKey key = locks.registry.fullKey key := by
  have hkey : (locks.step e).2.registry.registryKey = locks.registry.registryKey :=
    congrArg Prod.fst (locks.settings_step e)
  rw [LockRegistry.fullKey, hkey, LockRegistry.fullKey]

/-- An event of another handle leaves what the registry knows of a send. -/
theorem Standing.step {locks : Contention} (standing : Standing locks s) (orderly : Orderly locks)
    (e : Contention.Event) (other : ∀ h, s.point.hold? = some h → e.actor ≠ some h.token) :
    Standing (locks.step e).2 s := by
  have heffect := Contention.effect_step orderly.issued e
  refine ⟨fun n hn => ?_, fun h hh => ?_, standing.free⟩
  · obtain ⟨hlocked, hkey⟩ := standing.onKey n hn
    rw [fullKey_step]
    exact ⟨hlocked, heffect.keyOf hkey⟩
  · rw [fullKey_step]
    refine (standing.leased h hh).effect heffect fun result hanswer => ?_
    exact other h hh (Contention.actor_of_answer hanswer)

/-- All sends stand so, and no two have one handle. -/
structure Guarded (c : LockConfig) (x : Traffic σ) : Prop where
  orderly : Orderly x.locks
  settings : x.locks.settings = (c.registryKey, c.expireAfter)
  standing : ∀ {i : Nat} {s}, x.sends[i]? = some s → Standing x.locks s
  apart : ∀ {i j : Nat} {s t n}, x.sends[i]? = some s → x.sends[j]? = some t →
    s.point.token? = some n → t.point.token? = some n → i = j

theorem guarded_start (c : LockConfig) (w : σ) : Guarded c (start c w) where
  orderly := Contention.orderly_start c
  settings := rfl
  standing := fun h => nomatch h
  apart := fun h => nomatch h

namespace Advanced

variable {i : Nat} {point : SendPoint} {locks : Contention} {world : σ}

/-- A step of a send leaves the registry as it is, or is an event of its own handle or of a new
one. -/
theorem locks_cases (h : Advanced x s point locks world) :
    locks = x.locks ∨ ∃ e, locks = (x.locks.step e).2 ∧
      ∀ n, e.actor = some n → s.point.token? = some n := by
  cases h with
  | began | refused | called | ended | rested => exact .inl rfl
  -- handing out a handle is an event of no handle
  | came deadline => exact .inr ⟨_, rfl, fun n hn => nomatch hn⟩
  | looked e acts owns => exact .inr ⟨e, rfl, fun n hn => owns.trans (acts.symm.trans hn)⟩
  | @released hold result before =>
    refine .inr ⟨_, rfl, fun n hn => ?_⟩
    cases hn
    rw [before]
    rfl

/-- A send keeps its handle or gets a new one. -/
theorem token?_cases (h : Advanced x s point locks world) {n : Nat} (hn : point.token? = some n) :
    s.point.token? = some n ∨ n = x.locks.registry.nextToken := by
  cases h with
  | came => exact .inr (Option.some.inj hn).symm
  | @called hold stage before => exact .inl (by rw [before]; exact hn)
  | @looked token e acts owns =>
    -- a look leaves the token with the send, or ends it
    rcases SendPoint.afterLook_cases token x.locks.now (x.locks.step e).1 with
      ⟨m, -, hpoint⟩ | ⟨r, hpoint⟩ | hpoint
    · rw [hpoint] at hn
      exact .inl (owns.trans hn)
    · rw [hpoint] at hn
      cases hn
    · rw [hpoint] at hn
      exact .inl (owns.trans hn)
  | _ => cases hn

/-- A send stands as the registry knows after its own step. -/
theorem standing (h : Advanced x s point locks world) (orderly : Orderly x.locks)
    (before : Standing x.locks s) : Standing locks { s with point } := by
  cases h with
  | began arriving free => exact .of_token?_eq_none rfl fun _ _ => free
  | refused | released | ended | rested => exact .of_token?_eq_none rfl (by simp)
  | came deadline arriving locked =>
    refine ⟨fun n hn => ⟨locked, ?_⟩, fun hold hhold => (nomatch hhold), by simp⟩
    cases hn
    rw [fullKey_step]
    -- the handle that is obtained is on the key of the send
    show (Contention.set _ _ _).keyOf _ = _
    rw [Contention.keyOf_set, if_pos rfl]
    rfl
  | @called hold stage hpoint =>
    refine ⟨fun n hn => before.onKey n (by rw [hpoint]; exact hn),
      fun h hh => before.leased h (by rw [hpoint]; exact hh), fun stage'' heq => ?_⟩
    cases heq
    exact before.free stage hpoint
  | @looked token e acts owns hnot =>
    obtain ⟨hlocked, hkey⟩ := before.onKey token owns
    have heffect := Contention.effect_step orderly.issued e
    have hkey' : (x.locks.step e).2.keyOf token =
        some ((x.locks.step e).2.registry.fullKey s.lockKey) := by
      rw [fullKey_step]
      exact heffect.keyOf hkey
    rcases SendPoint.afterLook_cases token x.locks.now (x.locks.step e).1 with
      ⟨m, hanswer, hpoint⟩ | ⟨r, hpoint⟩ | hpoint
    · -- the send is granted its lock
      rw [hpoint]
      refine ⟨fun n hn => ?_, fun h hh => ?_, by simp⟩
      · cases hn
        exact ⟨hlocked, hkey'⟩
      · cases hh
        obtain rfl : token = m :=
          Option.some.inj (acts.symm.trans (Contention.actor_of_answer hanswer))
        obtain ⟨key, hleased⟩ := Contention.leased_of_granted heffect hanswer
        obtain rfl := Option.some.inj (hleased.onKey.symm.trans hkey')
        exact hleased
    · rw [hpoint]
      exact .of_token?_eq_none rfl (by simp)
    · rw [hpoint]
      refine ⟨fun n hn => ?_, fun h hh => (nomatch hh), by simp⟩
      cases hn
      exact ⟨hlocked, hkey'⟩

end Advanced

namespace Guarded

/-- A handle of a send is one that was handed out. -/
theorem token_lt (guarded : Guarded c x) {i n : Nat} (hs : x.sends[i]? = some s)
    (hn : s.point.token? = some n) : n < x.locks.registry.nextToken := by
  obtain ⟨contender, hfind, -⟩ :=
    Option.map_eq_some_iff.mp ((guarded.standing hs).onKey n hn).2
  exact guarded.orderly.issued.below n contender hfind

/-- A handle that belongs to no send acts on the registry, or time passes there. -/
theorem locks (guarded : Guarded c x) (e : Contention.Event)
    (other : ∀ n, e.actor = some n → x.ownsToken n = false) :
    Guarded c { x with locks := (x.locks.step e).2 } where
  orderly := guarded.orderly.step e
  settings := (x.locks.settings_step e).trans guarded.settings
  standing {i s} hs := by
    refine (guarded.standing hs).step guarded.orderly e fun h hh hactor => ?_
    -- no send of this traffic has the handle that acts
    have hnot := other h.token hactor
    rw [ownsToken, List.any_eq_false] at hnot
    refine hnot s (List.mem_of_getElem? hs) ?_
    rw [SendPoint.token?_of_hold? hh, beq_self_eq_true]
  apart := guarded.apart

/-- A send takes its next step. -/
theorem proceed (guarded : Guarded c x) {i : Nat} (hs : x.sends[i]? = some s) {point : SendPoint}
    {locks : Contention} {world : σ} (h : Advanced x s point locks world) :
    Guarded c { locks, world, sends := x.sends.set i { s with point } } := by
  have hi : i < x.sends.length := (List.getElem?_eq_some_iff.mp hs).1
  have hset {j : Nat} {t : Sending σ} (ht : (x.sends.set i { s with point })[j]? = some t) :
      j = i ∧ t = { s with point } ∨ j ≠ i ∧ x.sends[j]? = some t := by
    rw [List.getElem?_set] at ht
    split at ht
    · next hj => exact .inl ⟨hj.symm, by simpa [hi] using ht.symm⟩
    · next hj => exact .inr ⟨Ne.symm hj, ht⟩
  -- the handle after the step is that of no other send
  have hother {j : Nat} {t : Sending σ} {n : Nat} (hj : j ≠ i) (ht : x.sends[j]? = some t)
      (hn : t.point.token? = some n) : point.token? ≠ some n := by
    intro hpoint
    rcases h.token?_cases hpoint with hsame | hnew
    · exact hj (guarded.apart ht hs hn hsame)
    · exact absurd (guarded.token_lt ht hn) (by rw [hnew]; exact Nat.lt_irrefl _)
  have hlocks : Orderly locks ∧ locks.settings = (c.registryKey, c.expireAfter) ∧
      ∀ {j : Nat} {t : Sending σ}, j ≠ i → x.sends[j]? = some t → Standing locks t := by
    rcases h.locks_cases with rfl | ⟨e, rfl, hactor⟩
    · exact ⟨guarded.orderly, guarded.settings, fun _ ht => guarded.standing ht⟩
    · refine ⟨guarded.orderly.step e, (x.locks.settings_step e).trans guarded.settings,
        fun hj ht => ?_⟩
      refine (guarded.standing ht).step guarded.orderly e fun hold hh hacts => ?_
      exact hj (guarded.apart ht hs (SendPoint.token?_of_hold? hh) (hactor _ hacts))
  obtain ⟨orderly, settings, hstanding⟩ := hlocks
  refine ⟨orderly, settings, fun ht => ?_, fun hj hk hn hm => ?_⟩
  · rcases hset ht with ⟨-, rfl⟩ | ⟨hj, hold⟩
    · exact h.standing guarded.orderly (guarded.standing hs)
    · exact hstanding hj hold
  · rcases hset hj with ⟨hji, rfl⟩ | ⟨hji, hjold⟩ <;> rcases hset hk with ⟨hki, rfl⟩ | ⟨hki, hkold⟩
    · exact hji.trans hki.symm
    · exact absurd hn (hother hki hkold hm)
    · exact absurd hm (hother hji hjold hn)
    · exact guarded.apart hjold hkold hn hm

/-- A send begins, without a handle. -/
theorem begin (guarded : Guarded c x) (sender : Sender σ) (m : Message) :
    Guarded c { x with sends := x.sends ++ [{ sender, message := m }] } := by
  -- a new send has no handle yet, so it cannot share one
  have happend {j : Nat} {t : Sending σ}
      (ht : (x.sends ++ [{ sender, message := m }])[j]? = some t) :
      x.sends[j]? = some t ∨ t.point = .arriving := by
    rw [List.getElem?_append] at ht
    split at ht
    · exact .inl ht
    · exact .inr (by rw [List.mem_singleton.mp (List.mem_of_getElem? ht)])
  refine ⟨guarded.orderly, guarded.settings, fun ht => ?_, fun hj hk hn hm => ?_⟩
  · rcases happend ht with ht | harriving
    · exact guarded.standing ht
    · exact .of_token?_eq_none (by rw [harriving]; rfl) (by simp [harriving])
  · rcases happend hj with hj | harriving
    · rcases happend hk with hk | harriving
      · exact guarded.apart hj hk hn hm
      · rw [harriving] at hm
        cases hm
    · rw [harriving] at hn
      cases hn

/-- **Every event keeps the sends of one key apart.** -/
theorem step (guarded : Guarded c x) (e : Event σ) : Guarded c (x.step e) := by
  cases e with
  | begin sender m => exact guarded.begin sender m
  | proceed i =>
    rw [Traffic.step]
    split
    · exact guarded
    · next s hs => exact guarded.proceed hs (advanced_of_advance x s)
  | locks e =>
    rw [Traffic.step]
    split
    · exact guarded
    · next hforeign =>
      refine guarded.locks e fun n hn => ?_
      rw [hn, Option.any_some] at hforeign
      simpa using hforeign
  | elsewhere f => exact ⟨guarded.orderly, guarded.settings, guarded.standing, guarded.apart⟩

end Guarded

theorem guarded_run (c : LockConfig) (w : σ) (es : List (Event σ)) :
    Guarded c ((start c w).run es) :=
  List.foldlRecOn (motive := Guarded c) es _ (guarded_start c w)
    fun _ guarded e _ => guarded.step e

/-- **At most one send of a key is under way**, unless a lock has expired: both are entered as the
holder of the key's lock. -/
theorem Guarded.eq_of_sending (guarded : Guarded c x)
    (live : ∀ s ∈ x.sends, ∀ h, s.point.hold? = some h → x.locks.now < h.since + c.expireAfter)
    {i j : Nat} {s t : Sending σ} (hs : x.sends[i]? = some s) (ht : x.sends[j]? = some t)
    (hslocked : s.isLocked = true) (htlocked : t.isLocked = true)
    (hssending : s.point.isSending = true) (htsending : t.point.isSending = true)
    (hkey : s.lockKey = t.lockKey) : i = j := by
  have hexpire : x.locks.registry.expireAfter = c.expireAfter := congrArg Prod.snd guarded.settings
  -- a send that is under way with its lock is entered for it
  have hentered {k : Nat} {u : Sending σ} (hu : x.sends[k]? = some u) (hlocked : u.isLocked = true)
      (hsending : u.point.isSending = true) : ∃ n expiresAt, u.point.token? = some n ∧
        x.locks.holder (x.locks.registry.fullKey u.lockKey) = some ⟨n, expiresAt⟩ := by
    have standing := guarded.standing hu
    cases hpoint : u.point with
    | sending hold stage =>
      cases hold with
      | none =>
        have hfree := standing.free stage hpoint
        rw [hlocked] at hfree
        cases hfree
      | some h =>
        have hhold : u.point.hold? = some h := by rw [hpoint]; rfl
        have hlive := live u (List.mem_of_getElem? hu) h hhold
        rw [← hexpire] at hlive
        rcases (standing.leased h hhold).entered with ⟨expiresAt, hholder, -⟩ | hexpired
        · exact ⟨h.token, expiresAt, rfl, hholder⟩
        · exact absurd hlive (Nat.not_lt_of_le hexpired)
    | _ => rw [hpoint] at hsending; cases hsending
  obtain ⟨n, a, hn, hholder⟩ := hentered hs hslocked hssending
  obtain ⟨m, b, hm, hholder'⟩ := hentered ht htlocked htsending
  rw [hkey, hholder'] at hholder
  cases hholder
  exact guarded.apart hs ht hn hm

end Traffic

end KeyedDelivery
