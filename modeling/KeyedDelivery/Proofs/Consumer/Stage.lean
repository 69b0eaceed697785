import KeyedDelivery.Consumer.Event

/-!
# What one stage does

A delivery is taken through its stages by one function. What it can do is listed here once, with what
each case does to the figures.

* **`Passed`** — one constructor for each stage that a delivery leaves, with the stage it gets to and
  the figures afterwards.
* **`passed_of_advance`** — whatever an advance to another stage does is one of these.
* **`afterFailure_desk`** — about a failure, the figures say what the reaction says: a request counts
  as a retry, and what is given up as exhausted; a refusal is not counted.
* **`remaining_lt`**, **`handle_isSome`** — every stage that is passed leaves fewer, so that a delivery
  that has its permit comes to its end, whatever the hooks, the transport and the sink do.
-/

namespace KeyedDelivery

variable {σ : Type}

/-- Counts what is done about a failure; `letters` is how many letters the sink has got by then. -/
def ConsumerStats.react (s : ConsumerStats) (r : Reaction) (letters : Nat) : ConsumerStats :=
  { s with
    retried := s.retried + r.isRequested.toNat
    exhausted := s.exhausted + r.isGaveUp.toNat
    deadLettered := letters }

/-- The answer of a hook leads to another hook or to a verdict. -/
theorem Stage.afterHook_cases (h : Hook) (answer : HookAnswer) :
    (∃ next, Stage.afterHook h answer = .asking next) ∨
      ∃ v, Stage.afterHook h answer = .judged v := by
  rcases answer with (chain | b) | p
  · exact .inr ⟨_, rfl⟩
  · cases h <;> cases b <;> first | exact .inl ⟨_, rfl⟩ | exact .inr ⟨_, rfl⟩
  · exact .inr ⟨_, rfl⟩

@[simp] theorem Stage.afterHook_isUncounted (h : Hook) (answer : HookAnswer) :
    (Stage.afterHook h answer).isUncounted = true := by
  rcases afterHook_cases h answer with ⟨next, hnext⟩ | ⟨v, hv⟩
  · rw [hnext]
    rfl
  · rw [hv]
    rfl

@[simp] theorem Stage.afterHook_isFailing (h : Hook) (answer : HookAnswer) :
    (Stage.afterHook h answer).isFailing = false := by
  rcases afterHook_cases h answer with ⟨next, hnext⟩ | ⟨v, hv⟩
  · rw [hnext]
    rfl
  · rw [hv]
    rfl

@[simp] theorem Stage.afterVerdict_isUncounted (v : Verdict) :
    (Stage.afterVerdict v).isUncounted = false := by
  cases v <;> rfl

/-- How many stages there are after this one. -/
def Stage.remaining : Stage → Nat
  | .waiting => 6
  | .asking .filter => 5
  | .asking .duplicate => 4
  | .asking .process => 3
  | .judged _ => 2
  | .failing _ => 1
  | .leaving _ => 0

/-- No stage has more stages before it than the first one. -/
theorem Stage.remaining_le (stage : Stage) : stage.remaining ≤ Stage.waiting.remaining := by
  rcases stage with _ | (_ | _ | _) | _ | _ | _ <;> simp [remaining]

/-- After a hook there is less to be done, whatever it answers. -/
theorem Stage.afterHook_remaining (h : Hook) (answer : HookAnswer) :
    (Stage.afterHook h answer).remaining < (Stage.asking h).remaining := by
  rcases answer with (chain | b) | p
  · cases h <;> simp [afterHook, remaining]
  · cases h <;> cases b <;> simp [afterHook, remaining]
  · cases h <;> simp [afterHook, remaining]

namespace Consumer

variable {c : Consumer σ} {d : Delivery}

/-- **About a failure the figures say what the reaction says.** -/
theorem afterFailure_desk (c : Consumer σ) (d : Delivery) (reason : String) (k : Desk) (s : σ) :
    ∃ letters, (c.afterFailure d reason k s).2.1 =
      { k with stats := k.stats.react (c.reaction d reason s) letters } := by
  unfold afterFailure reaction
  cases c.retry.decide d.reconsumed with
  -- a letter is counted when there is a sink and it returns
  | giveUp =>
    simp only [giveUp]
    split
    · exact ⟨k.stats.deadLettered, rfl⟩
    · split
      · exact ⟨k.stats.deadLettered, rfl⟩
      · exact ⟨k.stats.deadLettered + 1, rfl⟩
  | redeliver level =>
    refine ⟨k.stats.deadLettered, ?_⟩
    dsimp only
    rcases c.transport.reconsumeLater d level s with ⟨_ | _, s'⟩ <;> rfl

/-- What a delivery does that passes a stage, one constructor for each stage. -/
inductive Passed (c : Consumer σ) (d : Delivery) (k : Desk) (s : σ) : Stage → Stage → Desk → Prop where
  | admitted (permits : Permits) (acquired : k.permits.acquire? = some permits) :
      Passed c d k s .waiting (.asking .filter) { k with permits }
  | asked (h : Hook) : Passed c d k s (.asking h)
      (.afterHook h (c.handler.ask h d.message.bodyText s).1) k
  | counted (v : Verdict) : Passed c d k s (.judged v) (.afterVerdict v)
      { k with stats := k.stats.count v }
  | reacted (reason : String) (outcome : Outcome Unit) (letters : Nat) :
      Passed c d k s (.failing reason) (.leaving outcome)
        { k with stats := k.stats.react (c.reaction d reason s) letters }

/-- **Every advance to another stage passes one.** -/
theorem passed_of_advance {stage stage' : Stage} {k k' : Desk} {s s' : σ}
    (h : c.advance d stage k s = (.at stage', k', s')) : Passed c d k s stage stage' k' := by
  cases stage with
  | waiting =>
    simp only [advance] at h
    split at h
    · cases h
    · next permits acquired =>
      cases h
      exact .admitted permits acquired
  | asking hook =>
    cases h
    exact .asked hook
  | judged v =>
    cases h
    exact .counted v
  | failing reason =>
    -- the figures say what the reaction says
    obtain ⟨letters, hdesk⟩ := c.afterFailure_desk d reason k s
    simp only [advance] at h
    cases h
    rw [hdesk]
    exact .reacted reason _ letters
  | leaving outcome => cases h

/-- A delivery ends at its last stage, and gives its permit back. -/
theorem advance_ended {stage : Stage} {k k' : Desk} {s s' : σ} {outcome : Outcome Unit}
    (h : c.advance d stage k s = (.ended outcome, k', s')) :
    stage = .leaving outcome ∧ k' = { k with permits := k.permits.release } ∧ s' = s := by
  cases stage with
  | waiting =>
    simp only [advance] at h
    split at h <;> cases h
  | leaving outcome' =>
    cases h
    exact ⟨rfl, rfl, rfl⟩
  | _ => cases h

/-! ## All the way -/

/-- **A stage that is passed leaves fewer stages.** -/
theorem remaining_lt {k k' : Desk} {s : σ} {stage stage' : Stage}
    (h : c.Passed d k s stage stage' k') : stage'.remaining < stage.remaining := by
  cases h with
  | admitted permits => exact Nat.lt_succ_self 5
  | asked h => exact Stage.afterHook_remaining h _
  | counted v => cases v <;> simp [Stage.afterVerdict, Stage.remaining]
  | reacted reason outcome letters => exact Nat.zero_lt_one

/-- Only the wait for a permit can hold a delivery up. -/
theorem not_blocked {stage : Stage} (h : stage ≠ .waiting) (k : Desk) (s : σ) :
    (c.advance d stage k s).1 ≠ .blocked := by
  cases stage with
  | waiting => exact absurd rfl h
  | asking hook | judged v | failing reason | leaving outcome => exact nofun

/-- A delivery that has its permit comes to its end. -/
theorem advanceMany_ends (c : Consumer σ) (d : Delivery) {n : Nat} {stage : Stage} (k : Desk) (s : σ)
    (hstage : stage ≠ .waiting) (hn : stage.remaining < n) :
    (c.advanceMany d n stage k s).1.isSome = true := by
  -- on the number of stages, which is more than are left
  induction n generalizing stage k s with
  | zero => exact absurd hn (Nat.not_lt_zero _)
  | succ n ih =>
    have hmoves := not_blocked (c := c) (d := d) hstage k s
    unfold advanceMany
    rcases hadvance : c.advance d stage k s with ⟨_ | stage' | outcome, k', s'⟩
    · rw [hadvance] at hmoves
      exact absurd rfl hmoves
    · have hless := remaining_lt (passed_of_advance hadvance)
      refine ih k' s' ?_ (by omega)
      rintro rfl
      exact absurd stage.remaining_le (Nat.not_le.mpr hless)
    · rfl

/-- **A delivery goes all the way as soon as there is a permit for it.** -/
theorem handle_isSome (c : Consumer σ) (d : Delivery) (k : Desk) (s : σ) :
    (c.handle d k s).1.isSome = k.permits.acquire?.isSome := by
  unfold handle advanceMany advance
  cases k.permits.acquire? with
  | none => rfl
  | some permits => exact c.advanceMany_ends d _ s nofun (Nat.lt_succ_self 5)

end Consumer

end KeyedDelivery
