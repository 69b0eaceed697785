import KeyedDelivery.Lock.Event

/-!
# A lock has one owner until it expires

Any number of handles act on the locks of a registry, in any order and at any readings of the clock.
A handle believes that it holds its lock (`held`), the registry has a holder with a token and an
expiry entered for the key, and the two may disagree: after the expiry another handle takes the lock
over, and the first one finds out when it unlocks.

* **`Orderly`** — the invariant of every run: a holder that is entered for a key has the token of a
  handle on that key, so no token is entered twice.
* **`Effect`** — what an event can do to the holders: nothing, grant a lock that was free, or
  release a lock of the handle that acts (`effect_step`).
* **`Leased`** — what is left of a grant as long as the handle does not unlock: it is entered as the
  holder until the grant expires at least, or the grant has expired.
* **`lock_exclusive`** — until then no other handle is granted the lock, and an unlock touches
  nothing but the holder with the handle's own token.
-/

namespace KeyedDelivery

/-! ## What the registry does -/

namespace LockRegistry

/-- A look of a free lock is granted when the clock has the reading at which the lock expires. -/
theorem look_eq_granted_iff {r : LockRegistry} {w : Waiter} : r.look w = .granted ↔
    r.isFree w.handle = true ∧ Time.reaches w.last (r.now + r.expireAfter) = true := by
  unfold look
  repeat' split
  all_goals simp [*]

/-- When it does not, the look panics. -/
theorem look_eq_overflowed_iff {r : LockRegistry} {w : Waiter} : r.look w = .overflowed ↔
    r.isFree w.handle = true ∧ Time.reaches w.last (r.now + r.expireAfter) = false := by
  unfold look
  repeat' split
  all_goals simp [*]

theorem isFree_of_look {r : LockRegistry} {w : Waiter} (h : r.look w = .granted) :
    r.isFree w.handle = true :=
  (look_eq_granted_iff.mp h).1

/-- On a clock without end no look panics. -/
theorem last_ne_none_of_look {r : LockRegistry} {w : Waiter} (h : r.look w = .overflowed) :
    w.last ≠ none :=
  Time.ne_none_of_reaches_eq_false (look_eq_overflowed_iff.mp h).2

/-- A lock that is free for a handle has no live holder but the handle itself. -/
theorem of_isFree {r : LockRegistry} {h : LockHandle} (hfree : r.isFree h = true) {x : LockHolder}
    (hx : r.held.find? h.key = some x) : x.expiresAt ≤ r.now ∨ x.token = h.token := by
  rw [isFree, hx] at hfree
  simpa using hfree

/-- An attempt whose deadline is no reading of the clock panics before anything else. -/
theorem beginWait_of_beyond {r : LockRegistry} {timeout : Nat} {last : Option Nat}
    (beyond : Time.reaches last (r.now + timeout) = false) (h : LockHandle) :
    r.beginWait h timeout last = (.panicked overflow, r) := by
  rw [beginWait, beyond]
  rfl

/-- An attempt that is not made to fail begins to wait until its deadline. -/
theorem beginWait_eq {r : LockRegistry} {timeout : Nat} {last : Option Nat}
    (reaches : Time.reaches last (r.now + timeout) = true) (uninjected : r.failNext = 0)
    (h : LockHandle) :
    r.beginWait h timeout last = (.returned (.ok ⟨h, r.epoch, r.now + timeout, last⟩), r) := by
  rw [beginWait, reaches, uninjected]
  rfl

/-- An attempt panics as its deadline is no reading of the clock, or fails by injection, or begins to
wait; the holders stay. -/
theorem beginWait_cases (r : LockRegistry) (h : LockHandle) (timeout : Nat) (last : Option Nat) :
    (last ≠ none ∧ r.beginWait h timeout last = (.panicked overflow, r)) ∨
    (∃ e failNext, r.beginWait h timeout last = (.returned (.error e), { r with failNext })) ∨
      r.beginWait h timeout last = (.returned (.ok ⟨h, r.epoch, r.now + timeout, last⟩), r) := by
  -- the deadline is computed first, before the key or an injected failure matters
  cases hreaches : Time.reaches last (r.now + timeout) with
  | false =>
    exact .inl ⟨Time.ne_none_of_reaches_eq_false hreaches, beginWait_of_beyond hreaches h⟩
  | true =>
    rw [beginWait, hreaches]
    by_cases injected : 0 < r.failNext
    · rw [if_pos injected]
      exact .inr (.inl ⟨_, _, rfl⟩)
    · rw [if_neg injected]
      exact .inr (.inr rfl)

/-- An unlock removes the holder that has the handle's token, or fails and changes no holder. -/
theorem unlock_cases (r : LockRegistry) (h : LockHandle) :
    (∃ x, r.held.find? h.key = some x ∧ x.token = h.token ∧
      r.unlock h = (.ok (), { h with held := false }, { r with held := r.held.erase h.key })) ∨
    ∃ held, r.unlock h = (.error (.notHeld h.key), { h with held }, r) := by
  unfold unlock
  split
  · exact .inr ⟨h.held, rfl⟩
  cases hfind : r.held.find? h.key with
  | none => exact .inr ⟨false, rfl⟩
  | some x =>
    -- the record may be that of another handle, which took the lock over
    by_cases htoken : x.token = h.token
    · exact .inl ⟨x, rfl, htoken, by simp [htoken]⟩
    · exact .inr ⟨false, by simp [htoken]⟩

end LockRegistry

namespace Contention

variable {s s' : Contention} {n : Nat}

/-! ## Handles and their tokens -/

theorem find?_set (s : Contention) (n m : Nat) (c : Contender) :
    (s.set n c).contenders.find? m = if n = m then some c else s.contenders.find? m :=
  Table.find?_put s.contenders n m c

theorem keyOf_set (s : Contention) (n m : Nat) (c : Contender) :
    (s.set n c).keyOf m = if n = m then some c.handle.key else s.keyOf m := by
  unfold keyOf
  rw [find?_set]
  split <;> rfl

/-- Setting a contender to one with the same handle leaves the keys as they are. -/
theorem keyOf_set_of_key {c : Contender} (hkey : s.keyOf n = some c.handle.key) (m : Nat) :
    (s.set n c).keyOf m = s.keyOf m := by
  rw [keyOf_set]
  split
  · next h => rw [← h, hkey]
  · rfl

theorem keyOf_of_find? {c : Contender} (h : s.contenders.find? n = some c) :
    s.keyOf n = some c.handle.key := by
  rw [keyOf, h]
  rfl

/-- Handles are filed under their own tokens, and their tokens were handed out. -/
structure Issued (s : Contention) : Prop where
  tokens : ∀ n c, s.contenders.find? n = some c → c.handle.token = n
  below : ∀ n c, s.contenders.find? n = some c → n < s.registry.nextToken

namespace Issued

/-- What a handle is about changes, but not its token. -/
theorem set (h : Issued s) (c : Contender) (htoken : c.handle.token = n)
    (hbelow : n < s.registry.nextToken) : Issued (s.set n c) := by
  -- both parts by whether the handle looked up is the one that was set
  constructor
  · intro m c' hfind
    rw [find?_set] at hfind
    split at hfind
    · next hm =>
      cases hfind
      rw [htoken, hm]
    · exact h.tokens m c' hfind
  · intro m c' hfind
    rw [find?_set] at hfind
    split at hfind
    · next hm => exact hm ▸ hbelow
    · exact h.below m c' hfind

/-- The registry changes, but hands no token out again. -/
theorem registry (h : Issued s) (r : LockRegistry) (hr : s.registry.nextToken ≤ r.nextToken) :
    Issued { s with registry := r } where
  tokens := h.tokens
  below n c hfind := Nat.lt_of_lt_of_le (h.below n c hfind) hr

theorem lookOnce (h : Issued s) {w : LockRegistry.Waiter} (htoken : w.handle.token = n)
    (hbelow : n < s.registry.nextToken) : Issued (s.lookOnce n w).2 := by
  unfold Contention.lookOnce
  split
  · have hgrant := h.registry (s.registry.grant w.handle) (Nat.le_refl _)
    exact hgrant.set (.idle { w.handle with held := true }) htoken hbelow
  · exact h.set (.idle w.handle) htoken hbelow
  · exact h.set (.idle w.handle) htoken hbelow
  · exact h.set (.idle w.handle) htoken hbelow
  · exact h.set (.waiting w) htoken hbelow

/-- Every event keeps handles filed under tokens that were handed out. -/
theorem step (h : Issued s) (e : Event) : Issued (s.step e).2 := by
  cases e with
  | obtain key =>
    have hobtain := h.registry (s.registry.obtain key).2 (Nat.le_succ _)
    exact hobtain.set (.idle (s.registry.obtain key).1) rfl (Nat.lt_succ_self _)
  | enter token timeout =>
    rw [Contention.step]
    split
    · next hfind =>
      rcases s.registry.beginWait_cases _ timeout s.lastReading with
        ⟨-, hbegin⟩ | ⟨e, failNext, hbegin⟩ | hbegin
      · rw [enter, hbegin]
        exact h
      · rw [enter, hbegin]
        exact h.registry { s.registry with failNext } (Nat.le_refl _)
      · rw [enter, hbegin]
        exact h.lookOnce (h.tokens _ _ hfind) (h.below _ _ hfind)
    · exact h
  | look token =>
    rw [Contention.step]
    split
    · next hfind => exact h.lookOnce (h.tokens _ _ hfind) (h.below _ _ hfind)
    · exact h
  | unlock token =>
    rw [Contention.step]
    split
    · next handle hfind =>
      have htoken := h.tokens _ _ hfind
      have hbelow := h.below _ _ hfind
      rw [unlock]
      rcases s.registry.unlock_cases handle with ⟨x, -, -, hunlock⟩ | ⟨held, hunlock⟩
      · rw [hunlock]
        have herase := h.registry { s.registry with held := s.registry.held.erase handle.key }
          (Nat.le_refl _)
        exact herase.set (.idle { handle with held := false }) htoken hbelow
      · rw [hunlock]
        exact h.set (.idle { handle with held }) htoken hbelow
    · exact h
  | interrupt => exact h.registry s.registry.interrupt (Nat.le_refl _)
  | failing k => exact h.registry (s.registry.failing k) (Nat.le_refl _)
  | advance d => exact h.registry (s.registry.advance d) (Nat.le_refl _)

end Issued

/-! ## What an event does to the holders -/

/-- What an event of the handle `actor`, if of any, can do to the holders. -/
inductive Effect (s : Contention) (actor : Option Nat) : Option Answer → Contention → Prop where
  /-- The holders stay, and time may pass. -/
  | stayed {answer : Option Answer} {s' : Contention}
      (held : s'.registry.held = s.registry.held) (time : s.now ≤ s'.now)
      (expire : s'.registry.expireAfter = s.registry.expireAfter)
      (keys : ∀ m key, s.keyOf m = some key → s'.keyOf m = some key)
      (refused : ∀ m, answer ≠ some (.tried m (.ok true))) : Effect s actor answer s'
  /-- The handle that acts is granted its lock, which is free. -/
  | granted {n : Nat} {h : LockHandle} (acts : actor = some n) (key : s.keyOf n = some h.key)
      (token : h.token = n) (free : s.registry.isFree h = true) :
      Effect s actor (some (.tried n (.ok true)))
        ({ s with registry := s.registry.grant h }.set n (.idle { h with held := true }))
  /-- The handle that acts is entered for its lock, and is taken out. -/
  | released {n : Nat} {h : LockHandle} {x : LockHolder} (acts : actor = some n)
      (key : s.keyOf n = some h.key) (token : h.token = n) (found : s.holder h.key = some x)
      (own : x.token = n) :
      Effect s actor (some (.unlocked n (.ok ())))
        ({ s with registry := { s.registry with held := s.registry.held.erase h.key } }.set n
          (.idle { h with held := false }))

/-- A change of the registry outside the holders. -/
theorem effect_registry (actor : Option Nat) {answer : Option Answer} {r : LockRegistry}
    (held : r.held = s.registry.held) (time : s.registry.now ≤ r.now)
    (expire : r.expireAfter = s.registry.expireAfter)
    (refused : ∀ m, answer ≠ some (.tried m (.ok true))) :
    Effect s actor answer { s with registry := r } :=
  .stayed held time expire (fun _ _ h => h) refused

/-- A change of what a handle is about. -/
theorem effect_set (actor : Option Nat) {answer : Option Answer} (c : Contender)
    (key : s.keyOf n = some c.handle.key) (refused : ∀ m, answer ≠ some (.tried m (.ok true))) :
    Effect s actor answer (s.set n c) :=
  .stayed rfl (Nat.le_refl _) rfl (fun m _ h => (keyOf_set_of_key key m).trans h) refused

theorem effect_lookOnce {w : LockRegistry.Waiter} (key : s.keyOf n = some w.handle.key)
    (token : w.handle.token = n) : Effect s (some n) (s.lookOnce n w).1 (s.lookOnce n w).2 := by
  unfold lookOnce
  split
  · next hlook => exact .granted rfl key token (LockRegistry.isFree_of_look hlook)
  · exact effect_set _ (.idle w.handle) key (by simp)
  · exact effect_set _ (.idle w.handle) key (by simp)
  · exact effect_set _ (.idle w.handle) key (by simp)
  · exact effect_set _ (.waiting w) key (by simp)

/-- An event that is not possible does nothing. -/
theorem effect_none (actor : Option Nat) : Effect s actor none s :=
  effect_registry actor rfl (Nat.le_refl _) rfl (by simp)

/-- **What an event does to the holders.** -/
theorem effect_step (issued : Issued s) (e : Event) :
    Effect s e.actor (s.step e).1 (s.step e).2 := by
  cases e with
  | obtain key =>
    refine .stayed rfl (Nat.le_refl _) rfl (fun m k hm => ?_) (by simp [step])
    -- the token of the new handle is not that of a handle there is
    have hne : s.registry.nextToken ≠ m := by
      obtain ⟨c, hfind, -⟩ := Option.map_eq_some_iff.mp hm
      exact Nat.ne_of_gt (issued.below m c hfind)
    show ({ s with registry := (s.registry.obtain key).2 }.set s.registry.nextToken _).keyOf m = _
    rw [keyOf_set, if_neg hne]
    exact hm
  | enter token timeout =>
    rw [step]
    split
    · next handle hfind =>
      rcases s.registry.beginWait_cases handle timeout s.lastReading with
        ⟨-, hbegin⟩ | ⟨e, failNext, hbegin⟩ | hbegin
      · rw [enter, hbegin]
        exact effect_registry _ rfl (Nat.le_refl _) rfl (by simp)
      · rw [enter, hbegin]
        exact effect_registry _ rfl (Nat.le_refl _) rfl (by simp)
      · rw [enter, hbegin]
        exact effect_lookOnce (keyOf_of_find? hfind) (issued.tokens _ _ hfind)
    · exact effect_none _
  | look token =>
    rw [step]
    split
    · next hfind => exact effect_lookOnce (keyOf_of_find? hfind) (issued.tokens _ _ hfind)
    · exact effect_none _
  | unlock token =>
    rw [step]
    split
    · next handle hfind =>
      have hkey := keyOf_of_find? hfind
      have htoken := issued.tokens _ _ hfind
      rw [unlock]
      rcases s.registry.unlock_cases handle with ⟨x, hx, hown, hunlock⟩ | ⟨held, hunlock⟩
      · rw [hunlock]
        exact .released rfl hkey htoken hx (hown.trans htoken)
      · rw [hunlock]
        exact effect_set _ (.idle { handle with held }) hkey (by simp)
    · exact effect_none _
  | interrupt => exact effect_registry _ rfl (Nat.le_refl _) rfl (by simp [step])
  | failing k => exact effect_registry _ rfl (Nat.le_refl _) rfl (by simp [step])
  | advance d => exact effect_registry _ rfl (Nat.le_add_right _ d) rfl (by simp [step])

/-- No event changes the key of a handle. -/
theorem Effect.keyOf {actor : Option Nat} {answer : Option Answer} (h : Effect s actor answer s')
    {m : Nat} {key : String} (hm : s.keyOf m = some key) : s'.keyOf m = some key := by
  cases h with
  | stayed held time expire keys refused => exact keys m key hm
  | @granted n h acts key' token free =>
    -- only the state of the handle is set, its key stays
    have hset := keyOf_set_of_key (s := { s with registry := s.registry.grant h })
      (c := .idle { h with held := true }) key' m
    exact hset.trans hm
  | @released n h x acts key' token found own =>
    have hset := keyOf_set_of_key
      (s := { s with registry := { s.registry with held := s.registry.held.erase h.key } })
      (c := .idle { h with held := false }) key' m
    exact hset.trans hm

/-! ## Holders have tokens of handles on their own key -/

/-- The invariant of a run: who is entered for a key is a handle on that key. -/
structure Orderly (s : Contention) : Prop where
  issued : Issued s
  entered : ∀ key x, s.holder key = some x → s.keyOf x.token = some key

theorem orderly_start (c : LockConfig) : Orderly (start c) where
  issued := ⟨fun _ _ h => (nomatch h), fun _ _ h => (nomatch h)⟩
  entered := fun _ _ h => (nomatch h)

/-- The holder of a key after a handle was granted its lock. -/
theorem holder_grant (s : Contention) (h : LockHandle) (n : Nat) (c : Contender) (key : String) :
    ({ s with registry := s.registry.grant h }.set n c).holder key =
      if h.key = key then some ⟨h.token, s.now + s.registry.expireAfter⟩ else s.holder key :=
  Table.find?_put s.registry.held h.key key _

/-- The holder of a key after the one of a handle's lock was taken out. -/
theorem holder_erase (s : Contention) (k : String) (n : Nat) (c : Contender) (key : String) :
    ({ s with registry := { s.registry with held := s.registry.held.erase k } }.set n c).holder key
      = if k = key then none else s.holder key :=
  Table.find?_erase s.registry.held k key

/-- An event that leaves the holders as they are leaves each as it is. -/
theorem holder_congr (h : s'.registry.held = s.registry.held) (key : String) :
    s'.holder key = s.holder key := by
  rw [holder, h, holder]

/-- **One event keeps the holders in order.** -/
theorem Orderly.step (orderly : Orderly s) (e : Event) : Orderly (s.step e).2 := by
  refine ⟨orderly.issued.step e, fun k x hx => ?_⟩
  have heffect := effect_step orderly.issued e
  generalize (s.step e).1 = answer, (s.step e).2 = s' at heffect hx ⊢
  have hkeys {m : Nat} {key : String} (hm : s.keyOf m = some key) : s'.keyOf m = some key :=
    heffect.keyOf hm
  cases heffect with
  | stayed held time expire keys refused =>
    rw [holder_congr held] at hx
    exact hkeys (orderly.entered k x hx)
  | @granted n h acts key token free =>
    rw [holder_grant] at hx
    split at hx
    · next hk =>
      -- the holder that is entered is the handle that acts
      cases hx
      rw [← hk]
      exact hkeys (token ▸ key)
    · exact hkeys (orderly.entered k x hx)
  | @released n h y acts key token found own =>
    rw [holder_erase] at hx
    split at hx
    · cases hx
    · exact hkeys (orderly.entered k x hx)

/-- **A run keeps the holders in order.** -/
theorem orderly_run (c : LockConfig) (es : List Event) : Orderly ((start c).run es) :=
  List.foldlRecOn (motive := Orderly) es _ (orderly_start c)
    fun _ orderly e _ => orderly.step e

theorem run_concat (s : Contention) (es : List Event) (e : Event) :
    s.run (es ++ [e]) = ((s.run es).step e).2 := by
  rw [run, List.foldl_append]
  rfl

/-- The time after which a lock expires is that of the settings. -/
theorem expireAfter_run (c : LockConfig) (es : List Event) :
    ((start c).run es).registry.expireAfter = c.expireAfter := by
  refine List.foldlRecOn (motive := fun s => Orderly s ∧ s.registry.expireAfter = c.expireAfter)
    es _ ⟨orderly_start c, rfl⟩ ?_ |>.2
  intro s ⟨orderly, ih⟩ e _
  refine ⟨orderly.step e, ?_⟩
  have heffect := effect_step orderly.issued e
  -- none of the three effects sets the duration
  generalize (s.step e).1 = answer, (s.step e).2 = s' at heffect ⊢
  cases heffect with
  | stayed held time expire keys refused => exact expire.trans ih
  | granted acts key token free => exact ih
  | released acts key token found own => exact ih

/-! ## What is left of a grant -/

/-- In the run `es` the handle `n` was granted its lock at time `t`, and has not been unlocked
since. -/
inductive HoldsSince (c : LockConfig) (n t : Nat) : List Event → Prop where
  | granted {es : List Event} {e : Event}
      (answer : (((start c).run es).step e).1 = some (.tried n (.ok true)))
      (time : ((start c).run es).now = t) : HoldsSince c n t (es ++ [e])
  | later {es : List Event} {e : Event} (before : HoldsSince c n t es)
      (kept : ∀ result, (((start c).run es).step e).1 ≠ some (.unlocked n result)) :
      HoldsSince c n t (es ++ [e])

/-- The handle `n` was granted the lock `key` at time `t` and has not unlocked since: it is still
entered, until the grant expires at least, or the grant has expired. -/
structure Leased (s : Contention) (n : Nat) (key : String) (t : Nat) : Prop where
  onKey : s.keyOf n = some key
  past : t ≤ s.now
  entered : (∃ x, s.holder key = some ⟨n, x⟩ ∧ t + s.registry.expireAfter ≤ x) ∨
    t + s.registry.expireAfter ≤ s.now

/-- **One event leaves a grant as it is**, whoever acts, unless its handle unlocks. -/
theorem Leased.effect {key : String} {t : Nat} {actor : Option Nat} {answer : Option Answer}
    (leased : Leased s n key t) (h : Effect s actor answer s')
    (kept : ∀ result, answer ≠ some (.unlocked n result)) : Leased s' n key t := by
  obtain ⟨hkey, hpast, hentered⟩ := leased
  have hkey := h.keyOf hkey
  cases h with
  | stayed held time expire keys refused =>
    refine ⟨hkey, Nat.le_trans hpast time, ?_⟩
    rw [holder_congr held, expire]
    rcases hentered with hentered | hexpired
    · exact .inl hentered
    · exact .inr (Nat.le_trans hexpired time)
  | @granted m h acts key' token free =>
    refine ⟨hkey, hpast, ?_⟩
    rcases hentered with ⟨x, hx, hlong⟩ | hexpired
    · rw [holder_grant]
      by_cases hk : h.key = key
      · subst hk
        rcases LockRegistry.of_isFree free hx with hexpired | hsame
        · -- another handle may take the lock over, for the grant has expired
          exact .inr (Nat.le_trans hlong hexpired)
        · -- the handle itself is granted the lock again
          refine .inl ⟨s.now + s.registry.expireAfter, ?_, Nat.add_le_add_right hpast _⟩
          rw [if_pos rfl, ← hsame]
      · rw [if_neg hk]
        exact .inl ⟨x, hx, hlong⟩
    · exact .inr hexpired
  | @released m h y acts key' token found own =>
    refine ⟨hkey, hpast, ?_⟩
    rcases hentered with ⟨x, hx, hlong⟩ | hexpired
    · rw [holder_erase]
      by_cases hk : h.key = key
      · -- the holder that is taken out has the token of the handle that unlocks
        subst hk
        rw [hx] at found
        cases found
        exact absurd (congrArg (fun m => some (Answer.unlocked m (.ok ()))) own.symm) (kept _)
      · rw [if_neg hk]
        exact .inl ⟨x, hx, hlong⟩
    · exact .inr hexpired

/-- A grant is a lease. -/
theorem leased_of_granted {actor : Option Nat} {answer : Option Answer}
    (h : Effect s actor answer s') (hanswer : answer = some (.tried n (.ok true))) :
    ∃ key, Leased s' n key s.now := by
  have hkeys {m : Nat} {key : String} (hm : s.keyOf m = some key) : s'.keyOf m = some key :=
    h.keyOf hm
  cases h with
  | stayed held time expire keys refused => exact absurd hanswer (refused n)
  | @granted m h acts key token free =>
    -- the answer names the handle that acts, so the grant is its own
    cases hanswer
    refine ⟨h.key, hkeys key, Nat.le_refl _, .inl ⟨s.now + s.registry.expireAfter, ?_, ?_⟩⟩
    · rw [holder_grant, if_pos rfl, token]
    · exact Nat.le_refl _
  | released acts key token found own => cases hanswer

/-- **A run keeps a grant**, as long as its handle does not unlock. -/
theorem leased_of_holdsSince {c : LockConfig} {t : Nat} {es : List Event}
    (h : HoldsSince c n t es) : ∃ key, Leased ((start c).run es) n key t := by
  induction h with
  | granted answer time =>
    rw [run_concat, ← time]
    exact leased_of_granted (effect_step (orderly_run c _).issued _) answer
  | later before kept ih =>
    obtain ⟨key, hleased⟩ := ih
    rw [run_concat]
    exact ⟨key, hleased.effect (effect_step (orderly_run c _).issued _) kept⟩

/-- While a grant has not expired no other handle is granted the lock. -/
theorem Leased.excludes {key : String} {t m : Nat} (leased : Leased s n key t)
    (hlive : s.now < t + s.registry.expireAfter) (hother : m ≠ n) (hkey : s.keyOf m = some key)
    {actor : Option Nat} {answer : Option Answer} (h : Effect s actor answer s') :
    answer ≠ some (.tried m (.ok true)) := by
  intro hanswer
  cases h with
  | stayed held time expire keys refused => exact refused m hanswer
  | @granted k h acts hown token free =>
    -- the other handle found the lock free, but the grant is entered and has not expired
    cases hanswer
    have hsame : h.key = key := Option.some.inj (hown.symm.trans hkey)
    rcases leased.entered with ⟨x, hx, hlong⟩ | hexpired
    · rw [← hsame] at hx
      rcases LockRegistry.of_isFree free hx with hexpired | hsame
      · exact Nat.not_lt_of_le (Nat.le_trans hlong hexpired) hlive
      · exact hother (token.symm.trans hsame.symm)
    · exact Nat.not_lt_of_le hexpired hlive
  | released acts key token found own => cases hanswer

/-! ## What an unlock does -/

/-- An unlock takes out the holder with the token of the handle, and that one only, or it fails and
changes no holder. -/
theorem unlock_spec (orderly : Orderly s) {h : LockHandle}
    (hfind : s.contenders.find? n = some (.idle h)) :
    ((s.step (.unlock n)).1 = some (.unlocked n (.ok ())) ∧
      (∃ x, s.holder h.key = some x ∧ x.token = n) ∧
      ∀ key, (s.step (.unlock n)).2.holder key = (s.holder key).filter (·.token ≠ n)) ∨
    ((s.step (.unlock n)).1 = some (.unlocked n (.error (.notHeld h.key))) ∧
      ∀ key, (s.step (.unlock n)).2.holder key = s.holder key) := by
  have htoken : h.token = n := orderly.issued.tokens n _ hfind
  have hkey : s.keyOf n = some h.key := keyOf_of_find? hfind
  have hstep : s.step (.unlock n) = s.unlock n h := by rw [step, hfind]
  rw [hstep, unlock]
  rcases s.registry.unlock_cases h with ⟨x, hx, hown, hunlock⟩ | ⟨held, hunlock⟩
  · -- the holder is entered for the key of the handle
    rw [hunlock]
    refine .inl ⟨rfl, ⟨x, hx, hown.trans htoken⟩, fun key => ?_⟩
    show Contention.holder (set _ _ _) key = _
    rw [holder_erase]
    by_cases hk : h.key = key
    · subst hk
      have hholder : s.holder h.key = some x := hx
      rw [if_pos rfl, hholder, Option.filter_some, if_neg (by simp [hown, htoken])]
    · -- a holder with this token would be entered for the key of the handle
      rw [if_neg hk]
      cases hy : s.holder key with
      | none => rfl
      | some y =>
        have hne : y.token ≠ n := fun hsame =>
          hk (Option.some.inj (hkey.symm.trans (hsame ▸ orderly.entered key y hy)))
        rw [Option.filter_some, if_pos (by simpa using hne)]
  · rw [hunlock]
    exact .inr ⟨rfl, fun key => rfl⟩

/-- While a lock is held and has not expired, only its own holder changes it. -/
theorem holder_of_live (orderly : Orderly s) {e : Event} {key : String} {x : LockHolder}
    (hx : s.holder key = some x) (hlive : s.now < x.expiresAt) (hother : e.actor ≠ some x.token) :
    (s.step e).2.holder key = some x := by
  have heffect := effect_step orderly.issued e
  generalize (s.step e).1 = answer, (s.step e).2 = s' at heffect ⊢
  cases heffect with
  | stayed held time expire keys refused => rw [holder_congr held, hx]
  | @granted n h acts hkey token free =>
    rw [holder_grant, if_neg, hx]
    -- a lock that is free for another handle has expired
    rintro rfl
    rcases LockRegistry.of_isFree free hx with hexpired | hsame
    · exact Nat.not_lt_of_le hexpired hlive
    · exact hother (by rw [acts, ← token, hsame])
  | @released n h y acts hkey token found own =>
    rw [holder_erase, if_neg, hx]
    -- a holder is taken out by the handle with its token
    rintro rfl
    rw [hx] at found
    cases found
    exact hother (by rw [acts, own])

/-! ## Exclusion -/

/-- **A lock has one owner until it expires.** Whatever any handles have done up to now:

* if a handle was granted its lock at time `t` and has not unlocked since, and the clock is below
  `t` and the time after which locks expire, no event grants the lock to another handle;
* an unlock by any handle answers that it is done, and takes out the holder with the handle's token
  and no other, or it answers that the lock is not held, and every holder stays;
* no other handle can release, shorten or replace a lock that is held and has not expired. -/
theorem lock_exclusive (c : LockConfig) (es : List Event) :
    (∀ n t, HoldsSince c n t es → ((start c).run es).now < t + c.expireAfter →
      ∀ m, m ≠ n → ((start c).run es).keyOf m = ((start c).run es).keyOf n →
        ∀ e, (((start c).run es).step e).1 ≠ some (.tried m (.ok true))) ∧
    (∀ n h, ((start c).run es).contenders.find? n = some (.idle h) →
      ((((start c).run es).step (.unlock n)).1 = some (.unlocked n (.ok ())) ∧
        (∃ x, ((start c).run es).holder h.key = some x ∧ x.token = n) ∧
        ∀ key, (((start c).run es).step (.unlock n)).2.holder key =
          (((start c).run es).holder key).filter (·.token ≠ n)) ∨
      ((((start c).run es).step (.unlock n)).1 = some (.unlocked n (.error (.notHeld h.key))) ∧
        ∀ key, (((start c).run es).step (.unlock n)).2.holder key =
          ((start c).run es).holder key)) ∧
    ∀ key x, ((start c).run es).holder key = some x → ((start c).run es).now < x.expiresAt →
      ∀ e : Event, e.actor ≠ some x.token →
        (((start c).run es).step e).2.holder key = some x := by
  have orderly := orderly_run c es
  refine ⟨fun n t hsince hlive m hother hkey e => ?_, fun n h hfind => unlock_spec orderly hfind,
    fun key x hx hlive e hother => holder_of_live orderly hx hlive hother⟩
  obtain ⟨key, hleased⟩ := leased_of_holdsSince hsince
  rw [← expireAfter_run c es] at hlive
  rw [hleased.onKey] at hkey
  exact hleased.excludes hlive hother hkey (effect_step orderly.issued e)

/-- Two handles on one lock; the first is granted it at time 0, and a little time passes. -/
def contended : List Event := [.obtain "k", .obtain "k", .enter 0 0, .advance 4]

/-- One tick before the grant expires the second handle is not granted the lock, and cannot release
it either. -/
theorem lock_exclusive_contended :
    HoldsSince { expireAfter := 5 } 0 0 contended ∧
      (∀ e, (((start { expireAfter := 5 }).run contended).step e).1 ≠
        some (.tried 1 (.ok true))) ∧
      (((start { expireAfter := 5 }).run contended).step (.unlock 1)).2.holder
        "custom-redis-lock:k" = some ⟨0, 5⟩ := by
  have hgranted : HoldsSince { expireAfter := 5 } 0 0 [.obtain "k", .obtain "k", .enter 0 0] :=
    @HoldsSince.granted _ _ _ [.obtain "k", .obtain "k"] (.enter 0 0) rfl rfl
  have hsince : HoldsSince { expireAfter := 5 } 0 0 contended :=
    hgranted.later (e := .advance 4) fun result => by simp [step]
  obtain ⟨hexcluded, -, hlive⟩ := lock_exclusive { expireAfter := 5 } contended
  refine ⟨hsince, hexcluded 0 0 hsince (by decide) 1 (by decide) (by decide), ?_⟩
  exact hlive "custom-redis-lock:k" ⟨0, 5⟩ (by decide) (by decide) (.unlock 1) (by decide)

end Contention

end KeyedDelivery
