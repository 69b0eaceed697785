import KeyedDelivery.Proofs.Lock.Tokens

/-!
# A handle among others

What the events of other handles can do to one handle, and what the handle can do to them. They
leave the handle as it is, and enter no record with its token; what the handle is about makes no
difference to them.

* **`find?_run`** — the events of others leave a handle as it is.
* **`lacks_run`** — they enter no record with its token.
* **`AlikeBut`** — two registries that differ in what one handle is about do the same in the events of
  others (`alikeBut_run`).
* **`holder_run_of_live`** — a lock stays with its holder until it expires; **`settings_run`** — the
  settings of the registry stay as they are.
* **`holder_unlock`** — a handle that was granted its lock takes out every record with its token when
  it unlocks, and no other record.
-/

namespace KeyedDelivery.Contention

variable {s s' : Contention} {n : Nat}

/-- The events are those of other handles. -/
def Others (n : Nat) (es : List Event) : Prop := ∀ e ∈ es, e.actor ≠ some n

theorem run_append (s : Contention) (es es' : List Event) :
    s.run (es ++ es') = (s.run es).run es' :=
  List.foldl_append

/-- What a run keeps that every event keeps. -/
theorem run_keeps {I : Contention → Prop} {es : List Event} (hs : I s)
    (hstep : ∀ s, ∀ e ∈ es, I s → I (s.step e).2) : I (s.run es) :=
  List.foldlRecOn (motive := I) es _ hs fun s h e he => hstep s e he h

theorem Orderly.run (h : Orderly s) (es : List Event) : Orderly (s.run es) :=
  run_keeps h fun _ e _ h => h.step e

theorem keyOf_run {key : String} (issued : Issued s) (hkey : s.keyOf n = some key)
    (es : List Event) : (s.run es).keyOf n = some key :=
  (run_keeps (I := fun s => Issued s ∧ s.keyOf n = some key) ⟨issued, hkey⟩
    fun _ e _ h => ⟨h.1.step e, (effect_step h.1 e).keyOf h.2⟩).2

/-! ## What no event changes -/

/-- The settings of a registry. -/
def settings (s : Contention) : String × Nat := (s.registry.registryKey, s.registry.expireAfter)

/-- A look changes no setting, whatever it ends with. -/
theorem settings_lookOnce (s : Contention) (n : Nat) (w : LockRegistry.Waiter) :
    (s.lookOnce n w).2.settings = s.settings := by
  unfold lookOnce
  split <;> rfl

/-- No event changes the settings of a registry. -/
theorem settings_step (s : Contention) (e : Event) : (s.step e).2.settings = s.settings := by
  cases e with
  | enter token timeout =>
    rw [step]
    split
    · -- a call that panics or is made to fail ends here; only the third looks at the key
      rcases s.registry.beginWait_cases _ timeout s.lastReading with
        ⟨-, hbegin⟩ | ⟨e, failNext, hbegin⟩ | hbegin
      · rw [enter, hbegin]
      · rw [enter, hbegin]
        rfl
      · rw [enter, hbegin]
        exact settings_lookOnce _ _ _
    · rfl
  | look token =>
    rw [step]
    split
    · exact settings_lookOnce _ _ _
    · rfl
  | unlock token =>
    rw [step]
    split
    · next h _ =>
      rw [unlock]
      rcases s.registry.unlock_cases h with ⟨x, -, -, hunlock⟩ | ⟨held, hunlock⟩
      · rw [hunlock]; rfl
      · rw [hunlock]; rfl
    · rfl
  | _ => rfl

/-- So they are those of the start in every state. -/
theorem settings_run (s : Contention) (es : List Event) : (s.run es).settings = s.settings :=
  run_keeps (I := fun t => t.settings = s.settings) rfl fun t e _ h => (settings_step t e).trans h

/-! ## One handle -/

theorem find?_set_of_ne (s : Contention) {m : Nat} (c : Contender) (h : m ≠ n) :
    (s.set m c).contenders.find? n = s.contenders.find? n := by
  rw [find?_set, if_neg h]

/-- The look of another handle does not touch this one. -/
theorem find?_lookOnce {m : Nat} (w : LockRegistry.Waiter) (h : m ≠ n) :
    (s.lookOnce m w).2.contenders.find? n = s.contenders.find? n := by
  unfold lookOnce
  split <;> exact find?_set_of_ne _ _ h

/-- **An event of another handle leaves a handle as it is.** -/
theorem find?_step {c : Contender} (issued : Issued s) (hfind : s.contenders.find? n = some c)
    {e : Event} (hother : e.actor ≠ some n) : (s.step e).2.contenders.find? n = some c := by
  rw [← hfind]
  cases e with
  | obtain key =>
    -- the token of the new handle is not that of a handle there is
    exact find?_set_of_ne _ _ (Nat.ne_of_gt (issued.below n c hfind))
  | enter token timeout =>
    have hne : token ≠ n := fun h => hother (congrArg some h)
    rw [step]
    split
    · rw [enter]
      rcases s.registry.beginWait_cases _ timeout s.lastReading with
        ⟨-, hbegin⟩ | ⟨e, failNext, hbegin⟩ | hbegin
      · rw [hbegin]
      · rw [hbegin]
      · rw [hbegin]
        exact find?_lookOnce _ hne
    · rfl
  | look token =>
    rw [step]
    split
    · exact find?_lookOnce _ fun h => hother (congrArg some h)
    · rfl
  | unlock token =>
    rw [step]
    split
    · exact find?_set_of_ne _ _ fun h => hother (congrArg some h)
    · rfl
  | interrupt => rfl
  | failing k => rfl
  | advance d => rfl

/-- The events of others leave a handle as it is. -/
theorem find?_run {c : Contender} (issued : Issued s) (hfind : s.contenders.find? n = some c)
    {es : List Event} (hothers : Others n es) : (s.run es).contenders.find? n = some c :=
  (run_keeps (I := fun s => Issued s ∧ s.contenders.find? n = some c) ⟨issued, hfind⟩
    fun _ e he h => ⟨h.1.step e, find?_step h.1 h.2 (hothers e he)⟩).2

/-- An event of another handle enters no record with the token of a handle. -/
theorem lacks_step (issued : Issued s) (hlacks : s.registry.Lacks n) {e : Event}
    (hother : e.actor ≠ some n) : (s.step e).2.registry.Lacks n := by
  have heffect := effect_step issued e
  -- of the three effects only a grant enters a record, with the token of who acts
  generalize (s.step e).1 = answer, (s.step e).2 = s' at heffect ⊢
  intro key x hx
  change s'.holder key = some x at hx
  cases heffect with
  | stayed held time expire keys refused =>
    rw [holder_congr held] at hx
    exact hlacks key x hx
  | granted acts hkey token free =>
    rw [holder_grant] at hx
    split at hx
    · cases hx
      exact fun h => hother (acts.trans (congrArg some (token.symm.trans h)))
    · exact hlacks key x hx
  | released acts hkey token found own =>
    rw [holder_erase] at hx
    split at hx
    · cases hx
    · exact hlacks key x hx

/-- Nor does any number of them. -/
theorem lacks_run (issued : Issued s) (hlacks : s.registry.Lacks n) {es : List Event}
    (hothers : Others n es) : (s.run es).registry.Lacks n :=
  (run_keeps (I := fun s => Issued s ∧ s.registry.Lacks n) ⟨issued, hlacks⟩
    fun _ e he h => ⟨h.1.step e, lacks_step h.1 h.2 (hothers e he)⟩).2

/-- **No record has a token that is still to be handed out.** -/
theorem Orderly.fresh (h : Orderly s) : s.registry.Fresh := by
  intro key x hx
  obtain ⟨c, hfind, -⟩ := Option.map_eq_some_iff.mp (h.entered key x hx)
  exact h.issued.below x.token c hfind

/-- Time does not go back. -/
theorem now_step (issued : Issued s) (e : Event) : s.now ≤ (s.step e).2.now := by
  have heffect := effect_step issued e
  generalize (s.step e).1 = answer, (s.step e).2 = s' at heffect ⊢
  cases heffect with
  | stayed held time expire keys refused => exact time
  | granted => exact Nat.le_refl _
  | released => exact Nat.le_refl _

/-- The clock does not go back. -/
theorem now_run (issued : Issued s) (es : List Event) : s.now ≤ (s.run es).now :=
  (run_keeps (I := fun t => Issued t ∧ s.now ≤ t.now) ⟨issued, Nat.le_refl _⟩
    fun _ e _ h => ⟨h.1.step e, Nat.le_trans h.2 (now_step h.1 e)⟩).2

/-- **A lock stays with its holder** as long as it has not expired and the holder does nothing;
induction on the events. -/
theorem holder_run_of_live (orderly : Orderly s) {key : String} {x : LockHolder}
    (hx : s.holder key = some x) {es : List Event} (hothers : Others x.token es)
    (hlive : (s.run es).now < x.expiresAt) : (s.run es).holder key = some x := by
  induction es generalizing s with
  | nil => exact hx
  | cons e es ih =>
    obtain ⟨hfirst, hrest⟩ := List.forall_mem_cons.mp hothers
    have horderly := orderly.step e
    -- the clock only goes forward, so the lock is unexpired at each state on the way
    have hsoon : s.now < x.expiresAt :=
      Nat.lt_of_le_of_lt (now_step orderly.issued e) (Nat.lt_of_le_of_lt
        (now_run horderly.issued es) hlive)
    exact ih horderly (holder_of_live orderly hx hsoon hfirst) hrest hlive

/-! ## What a handle is about -/

/-- Two registries agree but for what one handle is about. -/
structure AlikeBut (n : Nat) (s s' : Contention) : Prop where
  registry : s'.registry = s.registry
  lastReading : s'.lastReading = s.lastReading
  contenders : ∀ m, m ≠ n → s'.contenders.find? m = s.contenders.find? m

theorem AlikeBut.set (h : AlikeBut n s s') (m : Nat) (c : Contender) :
    AlikeBut n (s.set m c) (s'.set m c) where
  registry := h.registry
  lastReading := h.lastReading
  contenders k hk := by rw [find?_set, find?_set, h.contenders k hk]

theorem AlikeBut.withRegistry (h : AlikeBut n s s') (r : LockRegistry) :
    AlikeBut n { s with registry := r } { s' with registry := r } :=
  ⟨rfl, h.lastReading, h.contenders⟩

/-- A look depends on the registry and on the handle that looks. -/
theorem AlikeBut.lookOnce (h : AlikeBut n s s') (m : Nat) (w : LockRegistry.Waiter) :
    AlikeBut n (s.lookOnce m w).2 (s'.lookOnce m w).2 := by
  unfold Contention.lookOnce
  rw [h.registry]
  split
  · exact (h.withRegistry _).set m _
  · exact h.set m _
  · exact h.set m _
  · exact h.set m _
  · exact h.set m _

/-- **What a handle is about makes no difference to the others.** -/
theorem AlikeBut.step (h : AlikeBut n s s') {e : Event} (hother : e.actor ≠ some n) :
    AlikeBut n (s.step e).2 (s'.step e).2 := by
  cases e with
  | obtain key =>
    rw [Contention.step, Contention.step, h.registry]
    exact (h.withRegistry _).set _ _
  | enter token timeout =>
    rw [Contention.step, Contention.step, h.contenders token fun h => hother (congrArg some h)]
    split
    · -- with equal registries the call begins in the same way on both sides
      obtain ⟨registry', contenders', last'⟩ := s'
      obtain rfl : last' = s.lastReading := h.lastReading
      rw [enter, enter, h.registry]
      rcases s.registry.beginWait_cases _ timeout s.lastReading with
        ⟨-, hbegin⟩ | ⟨e, failNext, hbegin⟩ | hbegin
      · rw [hbegin]
        exact h.withRegistry _
      · rw [hbegin]
        exact h.withRegistry _
      · rw [hbegin]
        exact (h.withRegistry _).lookOnce token _
    · exact h
  | look token =>
    rw [Contention.step, Contention.step, h.contenders token fun h => hother (congrArg some h)]
    split
    · exact h.lookOnce token _
    · exact h
  | unlock token =>
    rw [Contention.step, Contention.step, h.contenders token fun h => hother (congrArg some h)]
    split
    · rw [Contention.unlock, Contention.unlock, h.registry]
      exact (h.withRegistry _).set token _
    · exact h
  | interrupt =>
    rw [Contention.step, Contention.step, h.registry]
    exact h.withRegistry _
  | failing k =>
    rw [Contention.step, Contention.step, h.registry]
    exact h.withRegistry _
  | advance d =>
    rw [Contention.step, Contention.step, h.registry]
    exact h.withRegistry _

/-- What they differ in is not read by the events of others. -/
theorem alikeBut_run (h : AlikeBut n s s') {es : List Event} (hothers : Others n es) :
    AlikeBut n (s.run es) (s'.run es) := by
  induction es generalizing s s' with
  | nil => exact h
  | cons e es ih =>
    obtain ⟨hfirst, hrest⟩ := List.forall_mem_cons.mp hothers
    exact ih (h.step hfirst) hrest

/-- A handle that looks may as well have been waiting before. -/
theorem lookOnce_set (s : Contention) (w : LockRegistry.Waiter) :
    (s.set n (.waiting w)).lookOnce n w = s.lookOnce n w := by
  simp only [lookOnce, set, Table.put_put]

/-! ## Release -/

/-- **A handle that was granted its lock takes out the records with its token**, and no other. -/
theorem holder_unlock (orderly : Orderly s) {h : LockHandle} (hheld : h.held = true)
    (hfind : s.contenders.find? n = some (.idle h)) (key : String) :
    (s.step (.unlock n)).2.holder key = (s.holder key).filter (·.token ≠ n) := by
  rcases unlock_spec orderly hfind with ⟨-, -, hholder⟩ | ⟨hanswer, hholder⟩
  · exact hholder key
  · rw [hholder]
    cases hx : s.holder key with
    | none => rfl
    | some x =>
      -- a record with this token would be for the key of the handle, and the unlock would be done
      have hne : x.token ≠ n := by
        rintro rfl
        have hkey : key = h.key :=
          Option.some.inj ((orderly.entered key x hx).symm.trans (keyOf_of_find? hfind))
        have htoken : h.token = x.token := orderly.issued.tokens _ _ hfind
        have hfound : s.registry.held.find? h.key = some x := hkey ▸ hx
        have hstep : s.step (.unlock x.token) = s.unlock x.token h := by rw [step, hfind]
        rw [hstep, unlock] at hanswer
        simp [LockRegistry.unlock, hheld, hfound, htoken] at hanswer
      rw [Option.filter_some, if_pos (by simpa using hne)]

end KeyedDelivery.Contention
