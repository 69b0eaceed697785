import KeyedDelivery.Lock.Company
import KeyedDelivery.Proofs.Lock.Interference

/-!
# Waiting for a lock, in company

While a handle waits for its lock, others act on the same registry. Everything that happens to the
registry is an event of a handle, so what a wait leaves of the other handles on this side follows
from the handles that acted.

* **`Passed`** — one state comes from another by events of other handles than certain ones.
* **`wait_later`**, **`wait_cases`** — a wait is: the others act, time passes, and one look ends it;
  induction along the wait.
* **`tryLock_passed`** — an attempt is a passage for every handle but its own.
-/

namespace KeyedDelivery.Company

open Contention (Issued Orderly Others)

variable {τ υ α : Type} {s s' s'' : Company τ} {kept : List Nat} {n : Nat}

/-! ## Passages -/

/-- The handles are in order, and those on this side were obtained. -/
structure Sound (s : Company τ) : Prop where
  orderly : Orderly s.locks
  obtained : ∀ n ∈ s.own, ∃ key, s.locks.keyOf n = some key

/-- One state comes from another by events of other handles than those that are kept. -/
structure Passed (kept : List Nat) (s s' : Company τ) : Prop where
  run : ∃ es, (∀ n ∈ kept, Others n es) ∧ s'.locks = s.locks.run es
  own : s.own ⊆ s'.own
  sound : s.Sound → s'.Sound

/-- A piece of code that acts on the registry with handles of its own only, and lets time pass. It
may return or panic. -/
def Polite (action : Company τ → Outcome α × Company τ) : Prop :=
  ∀ s, s.Sound → Passed s.own s (action s).2

/-- Passages compose. -/
theorem Passed.trans (h : Passed kept s s') (h' : Passed kept s' s'') : Passed kept s s'' := by
  obtain ⟨es, hothers, hlocks⟩ := h.run
  obtain ⟨es', hothers', hlocks'⟩ := h'.run
  refine ⟨⟨es ++ es', fun n hn e he => ?_, ?_⟩, List.Subset.trans h.own h'.own, h'.sound ∘ h.sound⟩
  · rcases List.mem_append.mp he with he | he
    · exact hothers n hn e he
    · exact hothers' n hn e he
  · rw [Contention.run_append, ← hlocks, hlocks']

/-- A passage for more handles is one for fewer. -/
theorem Passed.mono {more : List Nat} (h : Passed more s s') (hkept : kept ⊆ more) :
    Passed kept s s' := by
  obtain ⟨es, hothers, hlocks⟩ := h.run
  exact ⟨⟨es, fun n hn => hothers n (hkept hn), hlocks⟩, h.own, h.sound⟩

/-- The events of other handles are a passage. -/
theorem passed_run (es : List Contention.Event) (hothers : ∀ n ∈ kept, Others n es)
    (hlocks : s'.locks = s.locks.run es) (hown : s'.own = s.own) : Passed kept s s' := by
  refine ⟨⟨es, hothers, hlocks⟩, fun n hn => hown ▸ hn, fun hsound => ⟨?_, ?_⟩⟩
  · rw [hlocks]
    exact hsound.orderly.run es
  · rw [hlocks, hown]
    intro n hn
    obtain ⟨key, hkey⟩ := hsound.obtained n hn
    exact ⟨key, Contention.keyOf_run hsound.orderly.issued hkey es⟩

theorem passed_refl (kept : List Nat) (s : Company τ) : Passed kept s s :=
  passed_run [] (fun _ _ _ he => nomatch he) rfl rfl

/-- A passage leaves a handle that is kept as it is. -/
theorem Passed.find? {c : Contender} (h : Passed kept s s') (hsound : s.Sound) (hn : n ∈ kept)
    (hfind : s.locks.contenders.find? n = some c) : s'.locks.contenders.find? n = some c := by
  obtain ⟨es, hothers, hlocks⟩ := h.run
  rw [hlocks]
  exact Contention.find?_run hsound.orderly.issued hfind (hothers n hn)

/-- The clock does not go back in one. -/
theorem Passed.now (h : Passed kept s s') (hsound : s.Sound) : s.locks.now ≤ s'.locks.now := by
  obtain ⟨es, -, hlocks⟩ := h.run
  rw [hlocks]
  exact Contention.now_run hsound.orderly.issued es

theorem Passed.fullKey (h : Passed kept s s') (key : String) :
    s'.locks.registry.fullKey key = s.locks.registry.fullKey key := by
  obtain ⟨es, -, hlocks⟩ := h.run
  have hkey : (s.locks.run es).registry.registryKey = s.locks.registry.registryKey :=
    congrArg Prod.fst (Contention.settings_run s.locks es)
  rw [LockRegistry.fullKey, hlocks, hkey, LockRegistry.fullKey]

/-- What is told to the others leaves the handles on this side alone. -/
theorem others_filter (s : Company τ) (hn : n ∈ s.own) (es : List Contention.Event) :
    Others n (es.filter s.Foreign) := by
  intro e he
  have hforeign : s.Foreign e := by simpa using (List.mem_filter.mp he).2
  exact hforeign n hn

theorem meanwhile_append (s : Company τ) (es es' : List Contention.Event) :
    s.meanwhile (es ++ es') = (s.meanwhile es).meanwhile es' := by
  unfold meanwhile
  rw [List.filter_append, Contention.run_append]
  rfl

/-! ## Waiting -/

/-- The others have acted some times, and then time has passed. -/
def later (s : Company τ) (used others : List (List Contention.Event)) (d : Nat) : Company τ :=
  { s with others, locks := ((s.meanwhile used.flatten).locks.step (.advance d)).2 }

/-- One step of a wait, by what the handle sees. -/
theorem wait_eq (w : LockRegistry.Waiter) (s : Company τ) :
    wait w s = match s.locks.registry.look w with
      | .granted => (.returned (.ok true), s.looked w)
      | .overflowed => (.panicked LockRegistry.overflow, s.looked w)
      | .interrupted => (.returned (.error (.interrupted w.handle.key)), s.looked w)
      | .timedOut => (.returned (.ok false), s.looked w)
      | .waits wake =>
        match s.others with
        | es :: others => wait w ({ s with others }.meanwhile es)
        | [] => wait w { s with locks := (s.locks.step (.advance (wake - s.locks.now))).2 } := by
  rw [wait]
  split
  · next h => rw [h]
  · next h => rw [h]
  · next h => rw [h]
  · next h => rw [h]
  · next h =>
    rw [h]
    split
    · next ho => simp only [ho]
    · next ho => simp only [ho]

/-- A wait goes on after the others have acted. -/
theorem wait_others {w : LockRegistry.Waiter} {wake : Nat} {es : List Contention.Event}
    {others : List (List Contention.Event)} (hlook : s.locks.registry.look w = .waits wake)
    (ho : s.others = es :: others) : wait w s = wait w ({ s with others }.meanwhile es) := by
  rw [wait_eq, hlook]
  simp only [ho]

/-- With nobody else there, a wait goes on when the handle looks again. -/
theorem wait_nobody {w : LockRegistry.Waiter} {wake : Nat}
    (hlook : s.locks.registry.look w = .waits wake) (ho : s.others = []) :
    wait w s =
      wait w { s with locks := (s.locks.step (.advance (wake - s.locks.now))).2 } := by
  rw [wait_eq, hlook]
  simp only [ho]

/-- **A wait goes through**: the others act some times, time passes, and then a look ends it.
Induction along the wait. -/
theorem wait_later (w : LockRegistry.Waiter) (s : Company τ) : ∃ used others d,
    s.others = used ++ others ∧
    (∀ wake, (s.later used others d).locks.registry.look w ≠ .waits wake) ∧
    wait w s = wait w (s.later used others d) := by
  have here {s : Company τ} (h : ∀ wake, s.locks.registry.look w ≠ .waits wake) :
      ∃ used others d, s.others = used ++ others ∧
        (∀ wake, (s.later used others d).locks.registry.look w ≠ .waits wake) ∧
        wait w s = wait w (s.later used others d) :=
    ⟨[], s.others, 0, rfl, h, rfl⟩
  induction s using wait.induct w with
  | case1 s hlook => exact here fun wake h => nomatch hlook.symm.trans h
  | case2 s hlook => exact here fun wake h => nomatch hlook.symm.trans h
  | case3 s hlook => exact here fun wake h => nomatch hlook.symm.trans h
  | case4 s hlook => exact here fun wake h => nomatch hlook.symm.trans h
  | case5 s wake hlook es others ho ih =>
    obtain ⟨used, rest, d, hused, hends, hwait⟩ := ih
    have hlater : ({ s with others }.meanwhile es).later used rest d =
        s.later (es :: used) rest d := by
      unfold later
      rw [← meanwhile_append, List.flatten_cons]
      rfl
    rw [hlater] at hends hwait
    refine ⟨es :: used, rest, d, ?_, hends, (wait_others hlook ho).trans hwait⟩
    rw [ho, List.cons_append]
    exact congrArg (es :: ·) hused
  | case6 s wake hlook ho ih =>
    obtain ⟨used, rest, d, hused, hends, hwait⟩ := ih
    obtain ⟨rfl, rfl⟩ := List.append_eq_nil_iff.mp (hused.symm.trans ho)
    -- nobody acts any more, so that the times add up
    have hlater : { s with
        locks := (s.locks.step (.advance (wake - s.locks.now))).2 }.later [] [] d =
        s.later [] [] (wake - s.locks.now + d) := by
      simp only [later, meanwhile, Contention.step, LockRegistry.advance, List.flatten_nil,
        List.filter_nil, Contention.run, List.foldl_nil, Nat.add_assoc]
    rw [hlater] at hends hwait
    exact ⟨[], [], _, ho, hends, (wait_nobody hlook ho).trans hwait⟩

/-- A panic of an attempt is one of a clock that has a greatest reading. -/
def PanicsBy (last : Option Nat) (answer : Outcome (Except LockError Bool)) : Prop :=
  ∀ p, answer = .panicked p → p = LockRegistry.overflow ∧ last ≠ none

theorem panicsBy_returned (last : Option Nat) (answer : Except LockError Bool) :
    PanicsBy last (.returned answer) := fun _ hp => by cases hp

/-- The overflow is what a call by a limited clock may panic with. -/
theorem panicsBy_overflow {last : Option Nat} (hlast : last ≠ none) :
    PanicsBy last (.panicked LockRegistry.overflow) := fun _ hp => by
  cases hp
  exact ⟨rfl, hlast⟩

/-- **A wait ends in one of two ways**, after the others have acted and time has passed: the handle
finds its lock free and is entered for it, or the wait is given up or panics and no record changes. -/
theorem wait_cases (w : LockRegistry.Waiter) (s : Company τ) : ∃ used others d t,
    s.others = used ++ others ∧ t = s.later used others d ∧
    ((wait w s = (.returned (.ok true), t.looked w) ∧ t.locks.registry.isFree w.handle = true ∧
      (t.looked w).locks = { t.locks with registry := t.locks.registry.grant w.handle }.set
        w.handle.token (.idle { w.handle with held := true })) ∨
    ∃ answer, answer ≠ .returned (.ok true) ∧ PanicsBy w.last answer ∧
      wait w s = (answer, t.looked w) ∧
      (t.looked w).locks = t.locks.set w.handle.token (.idle w.handle)) := by
  obtain ⟨used, others, d, hused, hends, hwait⟩ := wait_later w s
  refine ⟨used, others, d, _, hused, rfl, ?_⟩
  -- only the state at the last look matters from here on
  generalize s.later used others d = t at hends hwait
  rw [hwait, wait_eq, looked, Contention.lookOnce]
  cases hlook : t.locks.registry.look w with
  | granted => exact .inl ⟨rfl, LockRegistry.isFree_of_look hlook, rfl⟩
  | overflowed =>
    exact .inr ⟨.panicked LockRegistry.overflow, by simp,
      panicsBy_overflow (LockRegistry.last_ne_none_of_look hlook), rfl, rfl⟩
  | interrupted =>
    exact .inr ⟨.returned (.error (.interrupted w.handle.key)), by simp, panicsBy_returned _ _,
      rfl, rfl⟩
  | timedOut => exact .inr ⟨.returned (.ok false), by simp, panicsBy_returned _ _, rfl, rfl⟩
  | waits wake => exact absurd hlook (hends wake)

/-- The world beside the locks plays no part in a wait. -/
theorem wait_withWorld (w : LockRegistry.Waiter) (s : Company τ) (x : υ) :
    wait w (s.withWorld x) = ((wait w s).1, (wait w s).2.withWorld x) := by
  have hlocks (s : Company τ) : (s.withWorld x).locks = s.locks := rfl
  induction s using wait.induct w with
  | case1 s hlook => rw [wait_eq, wait_eq, hlocks, hlook]; rfl
  | case2 s hlook => rw [wait_eq, wait_eq, hlocks, hlook]; rfl
  | case3 s hlook => rw [wait_eq, wait_eq, hlocks, hlook]; rfl
  | case4 s hlook => rw [wait_eq, wait_eq, hlocks, hlook]; rfl
  -- the two cases that go on read the world no more than the four that end
  | case5 s wake hlook es others ho ih =>
    rw [wait_others (s := s.withWorld x) hlook ho, wait_others hlook ho]
    exact ih
  | case6 s wake hlook ho ih =>
    rw [wait_nobody (s := s.withWorld x) hlook ho, wait_nobody hlook ho]
    exact ih

/-- With nobody else there, a wait is the wait of the registry. -/
theorem wait_alone (w : LockRegistry.Waiter) (s : Company τ) (halone : s.others = []) :
    (wait w s).1 = (s.locks.registry.await w).1 ∧
      (wait w s).2.locks.registry = (s.locks.registry.await w).2.2 := by
  induction s using wait.induct w with
  | case1 s hlook =>
    rw [wait_eq, LockRegistry.await_eq, looked, Contention.lookOnce, hlook]
    exact ⟨rfl, rfl⟩
  | case2 s hlook =>
    rw [wait_eq, LockRegistry.await_eq, looked, Contention.lookOnce, hlook]
    exact ⟨rfl, rfl⟩
  | case3 s hlook =>
    rw [wait_eq, LockRegistry.await_eq, looked, Contention.lookOnce, hlook]
    exact ⟨rfl, rfl⟩
  | case4 s hlook =>
    rw [wait_eq, LockRegistry.await_eq, looked, Contention.lookOnce, hlook]
    exact ⟨rfl, rfl⟩
  | case5 s wake hlook es others ho ih => exact absurd (ho.symm.trans halone) (List.cons_ne_nil _ _)
  | case6 s wake hlook ho ih =>
    -- the clock moves to the reading at which the handle looks again
    have hmoved : (s.locks.step (.advance (wake - s.locks.now))).2.registry =
        { s.locks.registry with now := wake } :=
      LockRegistry.advance_to (Nat.le_of_lt (LockRegistry.lt_of_look_waits hlook).1)
    rw [wait_nobody hlook ho, LockRegistry.await_eq, hlook]
    rw [hmoved] at ih
    exact ih ho

/-! ## Attempts -/

/-- A handle on this side has begun to wait. -/
def awaiting (s : Company τ) (w : LockRegistry.Waiter) : Company τ :=
  { s with locks := s.locks.set w.handle.token (.waiting w) }

/-- The attempt of a handle is over before it waits, and nothing but the number of the attempts that
are to fail has changed. -/
structure Unbegun (timeout : Nat) (h : LockHandle) (s : Company τ)
    (answer : Outcome (Except LockError Bool)) (failNext : Nat) : Prop where
  notGranted : answer ≠ .returned (.ok true)
  panics : PanicsBy s.locks.lastReading answer
  enter : (s.locks.enter h.token h timeout).2 =
    { s.locks with registry := { s.locks.registry with failNext } }
  alone : s.locks.registry.tryLock h timeout s.locks.lastReading =
    (answer, h, { s.locks.registry with failNext })
  tried : tryLock timeout h s =
    (answer, h, { s with locks.registry := { s.locks.registry with failNext } })

/-- An attempt that begins to wait is decided by its wait. -/
theorem tryLock_of_begun {timeout : Nat} {h : LockHandle} {w : LockRegistry.Waiter}
    (hw : w.handle = h) (hbegin : s.locks.registry.beginWait h timeout s.locks.lastReading =
      (.returned (.ok w), s.locks.registry)) :
    tryLock timeout h s = ((wait w (s.awaiting w)).1, h.after (wait w (s.awaiting w)).1,
      (wait w (s.awaiting w)).2) := by
  subst hw
  rw [tryLock, hbegin]
  rfl

/-- An attempt panics at once or is made to fail, or it is a wait. -/
theorem tryLock_eq (timeout : Nat) (h : LockHandle) (s : Company τ) :
    (∃ answer failNext, Unbegun timeout h s answer failNext) ∨
    ∃ w : LockRegistry.Waiter, w.handle = h ∧ w.last = s.locks.lastReading ∧
      s.locks.registry.beginWait h timeout s.locks.lastReading =
        (.returned (.ok w), s.locks.registry) ∧
      tryLock timeout h s = ((wait w (s.awaiting w)).1, h.after (wait w (s.awaiting w)).1,
        (wait w (s.awaiting w)).2) := by
  rcases s.locks.registry.beginWait_cases h timeout s.locks.lastReading with
    ⟨hlast, hbegin⟩ | ⟨e, failNext, hbegin⟩ | hbegin
  · -- the reading at which it gives up lies beyond those of the clock
    refine .inl ⟨.panicked LockRegistry.overflow, s.locks.registry.failNext, by simp,
      panicsBy_overflow hlast, ?_, ?_, ?_⟩
    · rw [Contention.enter, hbegin]
    · rw [LockRegistry.tryLock, hbegin]
    · rw [tryLock, hbegin]
  · refine .inl ⟨.returned (.error e), failNext, by simp, panicsBy_returned _ _, ?_, ?_, ?_⟩
    · rw [Contention.enter, hbegin]
    · rw [LockRegistry.tryLock, hbegin]
    · rw [tryLock, hbegin]
  · exact .inr ⟨_, rfl, rfl, hbegin, tryLock_of_begun rfl hbegin⟩

/-- With nobody else there, an attempt is the attempt of the registry. -/
theorem tryLock_alone (timeout : Nat) (h : LockHandle) (s : Company τ) (halone : s.others = []) :
    let ended := s.locks.registry.tryLock h timeout s.locks.lastReading
    (tryLock timeout h s).1 = ended.1 ∧ (tryLock timeout h s).2.1 = ended.2.1 ∧
      (tryLock timeout h s).2.2.locks.registry = ended.2.2 := by
  intro ended
  rcases tryLock_eq timeout h s with ⟨answer, failNext, hunbegun⟩ | ⟨w, rfl, -, hbegin, htry⟩
  · have hended : ended = _ := hunbegun.alone
    rw [hunbegun.tried, hended]
    exact ⟨rfl, rfl, rfl⟩
  · obtain ⟨hanswer, hregistry⟩ := wait_alone w (s.awaiting w) halone
    have hended : ended = s.locks.registry.await w := by
      show s.locks.registry.tryLock w.handle timeout s.locks.lastReading = _
      rw [LockRegistry.tryLock, hbegin]
    rw [htry, hended]
    refine ⟨hanswer, ?_, hregistry⟩
    rw [hanswer]
    show w.handle.after (s.locks.registry.await w).1 = (s.locks.registry.await w).2.1
    -- the handle is marked as held exactly when the answer is that it was granted
    have htried := s.locks.registry.await_cases w
    generalize s.locks.registry.await w = ended at htried
    cases htried <;> rfl

/-- A wait is a passage for every other handle. -/
theorem wait_passed {w : LockRegistry.Waiter} (hsound : s.Sound)
    (hfind : s.locks.contenders.find? w.handle.token = some (.waiting w))
    (hown : w.handle.token ∈ s.own) (hkept : kept ⊆ s.own) (hn : w.handle.token ∉ kept) :
    Passed kept s (wait w s).2 := by
  obtain ⟨used, others, d, t, -, ht, hends⟩ := wait_cases w s
  -- what happened up to the last look: the events of others, then the passing of time
  let es := used.flatten.filter s.Foreign ++ [.advance d]
  have hwait : (wait w s).2 = t.looked w := by
    rcases hends with ⟨hwait, -⟩ | ⟨answer, -, -, hwait, -⟩ <;> rw [hwait]
  have hlocks : t.locks = s.locks.run es := by rw [ht, Contention.run_concat]; rfl
  have hothers {n : Nat} (hn : n ∈ s.own) : Others n es := by
    intro e he
    rcases List.mem_append.mp he with he | he
    · exact others_filter s hn _ e he
    · cases List.mem_singleton.mp he
      nofun
  -- none of them is by the waiting handle, so it waits still
  have hstill : t.locks.contenders.find? w.handle.token = some (.waiting w) := by
    rw [hlocks]
    exact Contention.find?_run hsound.orderly.issued hfind (hothers hown)
  rw [hwait]
  refine passed_run (es ++ [.look w.handle.token]) (fun n hk e he => ?_) ?_ ?_
  · rcases List.mem_append.mp he with he | he
    · exact hothers (hkept hk) e he
    · cases List.mem_singleton.mp he
      exact fun h => hn (Option.some.inj h ▸ hk)
  · rw [Contention.run_concat, ← hlocks, Contention.step, hstill]
    rfl
  · rw [ht]
    rfl

/-- **An attempt is a passage for every other handle.** -/
theorem tryLock_passed {timeout : Nat} {h : LockHandle} (hsound : s.Sound)
    (hfind : s.locks.contenders.find? h.token = some (.idle h)) (hown : h.token ∈ s.own)
    (hkept : kept ⊆ s.own) (hn : h.token ∉ kept) :
    Passed kept s (tryLock timeout h s).2.2 := by
  have henter : s.locks.step (.enter h.token timeout) = s.locks.enter h.token h timeout := by
    rw [Contention.step, hfind]
  have hothers : ∀ n ∈ kept, Others n [.enter h.token timeout] := by
    intro n hk e he
    cases List.mem_singleton.mp he
    exact fun h => hn (Option.some.inj h ▸ hk)
  rcases tryLock_eq timeout h s with ⟨answer, failNext, hunbegun⟩ | ⟨w, rfl, -, hbegin, htry⟩
  · -- the attempt is over before it waits
    rw [hunbegun.tried]
    refine passed_run _ hothers ?_ rfl
    show _ = (s.locks.step _).2
    rw [henter, hunbegun.enter]
  · rw [htry]
    have hlook : (s.locks.step (.enter w.handle.token timeout)).2 =
        ((s.awaiting w).locks.lookOnce w.handle.token w).2 := by
      rw [henter, Contention.enter, hbegin]
      exact congrArg (·.2) (Contention.lookOnce_set s.locks w).symm
    by_cases hwaits : ∃ wake, (s.awaiting w).locks.registry.look w = .waits wake
    · -- after its first look the handle is as it has begun to wait
      obtain ⟨wake, hwaits⟩ := hwaits
      have hentered : Passed kept s (s.awaiting w) := by
        refine passed_run _ hothers ?_ rfl
        show (s.awaiting w).locks = (s.locks.step _).2
        rw [hlook, Contention.lookOnce, hwaits]
        exact congrArg (Contention.mk _ · _) (Table.put_put _ _ _ _).symm
      refine hentered.trans (wait_passed (hentered.sound hsound) ?_ hown hkept hn)
      exact Table.find?_put_self _ _ _
    · -- the first look ends the attempt
      have hwait : (wait w (s.awaiting w)).2 = (s.awaiting w).looked w := by
        rw [wait_eq]
        cases hfirst : (s.awaiting w).locks.registry.look w with
        | waits wake => exact absurd ⟨wake, hfirst⟩ hwaits
        | _ => rfl
      rw [hwait]
      exact passed_run _ hothers hlook.symm rfl

end KeyedDelivery.Company
