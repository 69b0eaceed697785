import KeyedDelivery.Producer.Stage

/-!
# The stages of a send make it up

Taken through its stages one after the other, a send does what `Producer.sendGuarded` does at once.

* **`rest`** — what is left of a send at a stage, done at once. One stage leaves it as it is
  (`rest_advance`).
* **`staged_advance`** — what one stage can be: a question, an attempt, or the end.
* **`remaining_advance`** — there is less left after each stage, so that every send is answered.
* **`advance_of_call?_eq_none`** — nothing but its calls lets a send change the world.
-/

namespace KeyedDelivery.SendStage

variable {σ η : Type}

/-- A panic becomes the failure of the send. -/
def guarded : Outcome (Except String Receipt) × σ → Except String Receipt × σ
  | (.returned r, s) => (r, s)
  | (.panicked payload, s) => (.error ("send panicked: " ++ payload.message), s)

/-- The guard is put around the routed send. -/
theorem sendGuarded_eq (p : Producer σ η) (m : Message) (s : σ) :
    p.sendGuarded m s = guarded (p.sendRouted m s) := by
  unfold Producer.sendGuarded guarded
  rcases p.sendRouted m s with ⟨_ | _, _⟩ <;> rfl

/-- What is left of a send at a stage, done at once. -/
def rest (p : Producer σ η) (m : Message) : SendStage → σ → Except String Receipt × σ
  | .asking, s => p.sendGuarded m s
  | .trying q deadline left made last, s =>
    guarded (Producer.attempts p.transport m q deadline left made last s)
  | .answered result, s => (result, s)

/-- **One stage leaves the rest as it is.** -/
theorem rest_advance (p : Producer σ η) (m : Message) (stage : SendStage) (s : σ) :
    rest p m (stage.advance p.config p.transport m s).1 (stage.advance p.config p.transport m s).2 =
      rest p m stage s := by
  cases stage with
  | asking =>
    rw [rest, sendGuarded_eq, Producer.sendRouted, advance]
    rcases p.transport.queues m.topic s with ⟨(e | queues) | payload, s'⟩
    · rfl
    · simp only [afterQueues]
      cases selectQueue queues m.key <;> rfl
    · rfl
  | trying q deadline left made last =>
    cases left with
    | zero => rfl
    | succ left =>
      -- the loop unfolded once is the stage and then the rest of the loop
      rw [rest, Producer.attempts, advance]
      split
      · rfl
      · rcases p.transport.send m q s with ⟨(e | r) | payload, s'⟩ <;> rfl
  | answered result => rfl

/-! ## One stage -/

/-- The receipt that an attempt brings, if it brings one. -/
def receiptOf : Outcome (Except String Receipt) → Option Receipt
  | .returned (.ok r) => some r
  | _ => none

/-- What one stage can be: where it leads, which call it makes, and which receipt the call brings. -/
inductive Staged (c : ProducerConfig) (t : SendTransport σ) (m : Message) (s : σ) :
    SendStage → SendStage × σ → Option SendCall → Option Receipt → Prop where
  | asked : Staged c t m s .asking
      (afterQueues c m (t.now s + c.sendTimeout) (t.queues m.topic s).1, (t.queues m.topic s).2)
      (some (.queues m.topic)) none
  | tried (q : Queue) (deadline left made : Nat) (last : String) :
      Staged c t m s (.trying q deadline (left + 1) made last)
        (afterAttempt q deadline left made (t.send m q s).1, (t.send m q s).2)
        (some (.send m q)) (receiptOf (t.send m q s).1)
  /-- No attempt is left, or the time has run out, or there is an answer. -/
  | ended {stage : SendStage} (result : Except String Receipt) :
      Staged c t m s stage (.answered result, s) none none

/-- **Every stage of a send** is one of these. -/
theorem staged_advance (c : ProducerConfig) (t : SendTransport σ) (m : Message) (stage : SendStage)
    (s : σ) : Staged c t m s stage (stage.advance c t m s) (stage.call? t m s)
      (stage.receipt? t m s) := by
  cases stage with
  | asking => exact .asked
  | trying q deadline left made last =>
    cases left with
    | zero => exact .ended _
    | succ left =>
      rw [advance, receipt?, call?]
      by_cases hlate : 0 < made ∧ deadline ≤ t.now s
      · simp only [if_pos hlate]
        exact .ended _
      · simp only [if_neg hlate]
        exact .tried q deadline left made last
  | answered result => exact .ended result

/-- A receipt is the answer to an attempt. -/
theorem send_of_receipt? {t : SendTransport σ} {m : Message} {stage : SendStage} {s : σ} {r : Receipt}
    (h : stage.receipt? t m s = some r) :
    ∃ q deadline left made last, stage = .trying q deadline left made last ∧
      (t.send m q s).1 = .returned (.ok r) := by
  have hstep := staged_advance {} t m stage s
  generalize stage.advance {} t m s = next, stage.call? t m s = call,
    stage.receipt? t m s = receipt at hstep h
  cases hstep with
  -- only an attempt is answered with a receipt
  | tried q deadline left made last =>
    refine ⟨q, deadline, left + 1, made, last, rfl, ?_⟩
    unfold receiptOf at h
    split at h
    · next hsend => rw [hsend, Option.some.inj h]
    · cases h
  | asked => cases h
  | ended => cases h

/-! ## How much is left -/

/-- How many stages there are after this one at most. -/
def remaining (c : ProducerConfig) : SendStage → Nat
  | .asking => (Producer.attemptLimit c).toNat + 2
  | .trying _ _ left _ _ => left + 1
  | .answered _ => 0

/-- After the lookup the attempts are left, and no lookup. -/
theorem remaining_afterQueues (c : ProducerConfig) (m : Message) (deadline : Nat)
    (answer : Outcome (Except String (List Queue))) :
    (afterQueues c m deadline answer).remaining c < SendStage.asking.remaining c := by
  rcases answer with (e | queues) | payload
  · exact Nat.succ_pos _
  · simp only [afterQueues]
    cases selectQueue queues m.key with
    | none => exact Nat.succ_pos _
    | some q => exact Nat.lt_succ_self _
  · exact Nat.succ_pos _

/-- **A stage before the answer leaves fewer.** -/
theorem remaining_advance (c : ProducerConfig) (t : SendTransport σ) (m : Message)
    {stage : SendStage} (s : σ) (h : ∀ result, stage ≠ .answered result) :
    (stage.advance c t m s).1.remaining c < stage.remaining c := by
  have hstep := staged_advance c t m stage s
  generalize stage.advance c t m s = next, stage.call? t m s = call,
    stage.receipt? t m s = receipt at hstep
  cases hstep with
  | asked => exact remaining_afterQueues c m _ _
  | tried q deadline left made last =>
    rcases (t.send m q s).1 with (e | r) | payload
    · exact Nat.lt_succ_self _
    · exact Nat.succ_pos _
    · exact Nat.succ_pos _
  | ended result =>
    cases stage with
    | answered result' => exact absurd rfl (h result')
    | _ => exact Nat.succ_pos _

/-- A stage without a call leaves the world as it is. -/
theorem advance_of_call?_eq_none (c : ProducerConfig) (t : SendTransport σ) (m : Message)
    {stage : SendStage} {s : σ} (h : stage.call? t m s = none) : (stage.advance c t m s).2 = s := by
  have hstep := staged_advance c t m stage s
  rw [h] at hstep
  generalize stage.advance c t m s = next, stage.receipt? t m s = receipt at hstep
  cases hstep with
  | ended result => rfl

end KeyedDelivery.SendStage
