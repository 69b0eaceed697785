import KeyedDelivery.Proofs.Producer.Stage

/-!
# Transports that agree

Two transports in two worlds agree when they answer the same to the same questions, as long as their
worlds are related. Then a send goes the same way through both: the calls are the same, one after the
other, and so is what becomes of it.

* **`Agree`** — the agreement, with the relation of the worlds that it keeps.
* **`Agree.attempts`** — the attempts go the same way; induction on the attempts that are left.
* **`Agree.sendGuarded`** — so does a whole send.
-/

namespace KeyedDelivery

variable {σ τ η θ : Type}

/-- Two transports answer the same in worlds that are related, and leave them related. -/
structure SendTransport.Agree (R : σ → τ → Prop) (t : SendTransport σ) (t' : SendTransport τ) :
    Prop where
  now : ∀ {s x}, R s x → t.now s = t'.now x
  queues : ∀ topic {s x}, R s x → (t.queues topic s).1 = (t'.queues topic x).1 ∧
    R (t.queues topic s).2 (t'.queues topic x).2
  send : ∀ m q {s x}, R s x → (t.send m q s).1 = (t'.send m q x).1 ∧
    R (t.send m q s).2 (t'.send m q x).2

namespace SendTransport.Agree

variable {R : σ → τ → Prop} {t : SendTransport σ} {t' : SendTransport τ} {s : σ} {x : τ}

/-- **The attempts go the same way.** -/
theorem attempts (h : Agree R t t') (hR : R s x) (m : Message) (q : Queue)
    (deadline left made : Nat) (last : String) :
    (Producer.attempts t m q deadline left made last s).1 =
        (Producer.attempts t' m q deadline left made last x).1 ∧
      R (Producer.attempts t m q deadline left made last s).2
        (Producer.attempts t' m q deadline left made last x).2 := by
  induction left generalizing made last s x with
  | zero => exact ⟨rfl, hR⟩
  | succ left ih =>
    rw [Producer.attempts, Producer.attempts, h.now hR]
    split
    · exact ⟨rfl, hR⟩
    · obtain ⟨hanswer, hnext⟩ := h.send m q hR
      rcases hsend : t.send m q s with ⟨answer, s'⟩
      rcases hsend' : t'.send m q x with ⟨answer', x'⟩
      rw [hsend, hsend'] at hanswer hnext
      cases hanswer
      rcases answer with (e | r) | payload
      · exact ih hnext (made + 1) e
      · exact ⟨rfl, hnext⟩
      · exact ⟨rfl, hnext⟩

/-- A panic becomes the failure of either send. -/
theorem guarded {out : Outcome (Except String Receipt) × σ}
    {out' : Outcome (Except String Receipt) × τ} (hanswer : out.1 = out'.1)
    (hR : R out.2 out'.2) :
    (SendStage.guarded out).1 = (SendStage.guarded out').1 ∧
      R (SendStage.guarded out).2 (SendStage.guarded out').2 := by
  obtain ⟨answer, s⟩ := out
  obtain ⟨answer', x⟩ := out'
  cases hanswer
  cases answer <;> exact ⟨rfl, hR⟩

/-- **A send goes the same way** through both. -/
theorem sendGuarded (p : Producer σ η) (p' : Producer τ θ) (h : Agree R p.transport p'.transport)
    (hconfig : p.config = p'.config) (hR : R s x) (m : Message) :
    (p.sendGuarded m s).1 = (p'.sendGuarded m x).1 ∧
      R (p.sendGuarded m s).2 (p'.sendGuarded m x).2 := by
  rw [SendStage.sendGuarded_eq, SendStage.sendGuarded_eq]
  suffices hrouted : (p.sendRouted m s).1 = (p'.sendRouted m x).1 ∧
      R (p.sendRouted m s).2 (p'.sendRouted m x).2 from guarded hrouted.1 hrouted.2
  rw [Producer.sendRouted, Producer.sendRouted, h.now hR, hconfig]
  obtain ⟨hanswer, hnext⟩ := h.queues m.topic hR
  rcases hqueues : p.transport.queues m.topic s with ⟨answer, s'⟩
  rcases hqueues' : p'.transport.queues m.topic x with ⟨answer', x'⟩
  rw [hqueues, hqueues'] at hanswer hnext
  cases hanswer
  rcases answer with (e | queues) | payload
  · exact ⟨rfl, hnext⟩
  · dsimp only
    cases selectQueue queues m.key with
    | none => exact ⟨rfl, hnext⟩
    | some q => exact h.attempts hnext m q _ _ 0 ""
  · exact ⟨rfl, hnext⟩

end SendTransport.Agree

end KeyedDelivery
