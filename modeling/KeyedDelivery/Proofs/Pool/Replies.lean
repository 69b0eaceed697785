import KeyedDelivery.Pool.Handle
import KeyedDelivery.Proofs.Pool.Order

/-!
# What one incident does to the figures of a pool

The counters of a pool, its record of what became of jobs, and what goes through the channels of the
handles are kept in different places. Here is what each incident does to all of them.

* **`Dealt`** — by the notes of the incident, the job it ends, and the answer it gives: which jobs run,
  what the counters count, and what is recorded.
* **`dealt_of_undergo`** — every incident of a sound pool does this.
-/

namespace KeyedDelivery.WorkerPool

variable {τ ρ : Type} {p q : WorkerPool τ ρ}

/-- Whether a submitter was told that the pool is saturated. -/
def isRejection : Except PoolError Nat → Bool
  | .error (.rejected _) => true
  | _ => false

/-- What an incident does to the figures of a pool, by the notes it leaves, the job it ends, and the
answer it gives. -/
structure Dealt (p q : WorkerPool τ ρ) (news : List (Note τ)) (ended : Option (Job τ × Outcome ρ))
    (answer : Option (Except PoolError Nat)) : Prop where
  ran : (p.running ++ news.filterMap Note.begun?).Perm (q.running ++ ended.toList.map (·.1))
  fates : q.fates = dropAll (ended.elim p.fates fun e => p.fates.put e.1.number (fateOf e.2))
    (news.filterMap Note.discarded?)
  completed : q.completed = p.completed + ended.toList.countP (·.2.isReturned)
  panicked : q.panicked = p.panicked + ended.toList.countP (! ·.2.isReturned)
  discarded : q.discarded = p.discarded + (news.filterMap Note.discarded?).length
  rejected : q.rejected = p.rejected + answer.toList.countP isRejection
  answered : (news.filterMap Note.offered?).map (·.number) =
    answer.toList.filterMap Except.toOption ++ (news.filterMap Note.refused?).map (·.number)

namespace Dealt

/-- Nothing ends, nothing is offered, and no job moves. -/
theorem quiet (running : q.running = p.running) (fates : q.fates = p.fates)
    (completed : q.completed = p.completed) (panicked : q.panicked = p.panicked)
    (discarded : q.discarded = p.discarded) (rejected : q.rejected = p.rejected) :
    Dealt p q [] none none :=
  ⟨by simp [running], fates, completed, panicked, discarded, rejected, rfl⟩

/-- A job begins as soon as it is offered. -/
theorem begun {j : Job τ} {place : Placement} (begins : place.begins = true)
    (running : q.running.Perm (j :: p.running)) (fates : q.fates = p.fates)
    (completed : q.completed = p.completed) (panicked : q.panicked = p.panicked)
    (discarded : q.discarded = p.discarded) (rejected : q.rejected = p.rejected) :
    Dealt p q [.offered j place] none (some (place.answer j.number)) := by
  have hran : (p.running ++ [j]).Perm (q.running ++ []) :=
    (List.perm_append_singleton j p.running).trans
      (running.symm.trans (.of_eq (List.append_nil _).symm))
  cases place with
  | started | toCaller =>
    exact ⟨hran, fates, completed, panicked, discarded, rejected, rfl⟩
  | _ => cases begins

/-- A job ends. -/
theorem ended {j : Job τ} {outcome : Outcome ρ} (running : p.running.Perm (j :: q.running))
    (fates : q.fates = p.fates.put j.number (fateOf outcome))
    (completed : q.completed = p.completed + outcome.isReturned.toNat)
    (panicked : q.panicked = p.panicked + (!outcome.isReturned).toNat)
    (discarded : q.discarded = p.discarded) (rejected : q.rejected = p.rejected) :
    Dealt p q [] (some (j, outcome)) none := by
  refine ⟨?_, fates, ?_, ?_, discarded, rejected, rfl⟩
  · show (p.running ++ []).Perm (q.running ++ [j])
    rw [List.append_nil]
    exact running.trans (List.perm_append_singleton j q.running).symm
  · rw [completed]
    cases outcome <;> rfl
  · rw [panicked]
    cases outcome <;> rfl

end Dealt

/-- What an offer does to the figures. -/
theorem dealt_of_offer (sound : Sound p) (task : τ) (context : LogContext) :
    Dealt p (p.offer task context).2 (p.notes (.event (.offer task context))) none
      (some ((p.offer task context).1.answer p.submitted)) := by
  have h := offered_of_offer sound task context
  -- the place and the state are one computation
  show Dealt p (p.offer task context).2 (p.offerNotes task context (p.offer task context).1) none _
  generalize (p.offer task context).1 = place, (p.offer task context).2 = q at h
  cases h with
  | refused closed =>
    rw [offerNotes_of_closed closed]
    exact ⟨.refl _, rfl, rfl, rfl, rfl, rfl, rfl⟩
  -- here and on the thread of the submitter a job begins at once
  | started isOpen room =>
    rw [offerNotes_of_open isOpen _ _ (by simp)]
    exact .begun rfl (running_started { number := p.started + 1 } _ rfl rfl) rfl rfl rfl rfl rfl
  | queued isOpen cores room =>
    rw [offerNotes_of_open isOpen _ _ fun _ => room]
    exact ⟨.refl _, rfl, rfl, rfl, rfl, rfl, rfl⟩
  | evicted isOpen full policy hqueue =>
    rw [offerNotes_of_full isOpen _ _ full.1 hqueue]
    exact ⟨.refl _, rfl, rfl, rfl, rfl, rfl, rfl⟩
  | dropped isOpen =>
    rw [offerNotes_of_open isOpen _ _ (by simp)]
    exact ⟨.refl _, rfl, rfl, rfl, rfl, rfl, rfl⟩
  | rejected isOpen =>
    rw [offerNotes_of_open isOpen _ _ (by simp)]
    exact ⟨.refl _, rfl, rfl, rfl, rfl, rfl, rfl⟩
  | toCaller isOpen full policy =>
    rw [offerNotes_of_open isOpen _ _ (by simp)]
    exact .begun rfl (running_toCaller _ rfl rfl) rfl rfl rfl rfl rfl

/-- So does a task whose worker could not be started. -/
theorem dealt_of_unstarted (starts : p.startsNext = true) (task : τ) (context : LogContext)
    (reason : String) :
    Dealt p (p.offerUnstarted reason).2 (p.notes (.unstarted task context reason)) none
      (some ((p.offerUnstarted reason).1.answer p.submitted)) := by
  rw [notes_unstarted starts]
  exact ⟨.refl _, rfl, rfl, rfl, rfl, rfl, rfl⟩

/-- What a transition that offers nothing does to the figures. -/
theorem dealt_of_transition (sound : Sound p) {e : Event τ ρ} (h : Transition p e q)
    (hoffers : ∀ task context, e ≠ .offer task context) :
    Dealt p q (p.notes (.event e)) (p.ending? (.event e)) (p.answer? (.event e)) := by
  cases h with
  | refused task context | started task context | queued task context | evicted task context
  | dropped task context | rejected task context | toCaller task context =>
    exact absurd rfl (hoffers task context)
  | @picked l₁ l₂ w j rest hworkers idle hqueue =>
    rw [notes, hqueue]
    refine ⟨?_, rfl, rfl, rfl, rfl, rfl, rfl⟩
    have hrunning := running_begin (q := { p with workers := l₁ ++ w.begin j :: l₂ })
      hworkers idle j rfl rfl
    exact (List.perm_append_singleton j _).trans
      (hrunning.symm.trans (.of_eq (List.append_nil _).symm))
  | @finished l₁ l₂ w j guard hworkers running outcome =>
    -- the ending is read from the worker that the transition splits off
    have hfound := worker?_of_split sound hworkers
    have hending : p.ending? (.event (.finish w.number outcome)) = some (j, outcome) := by
      simp [ending?, hfound, running]
    rw [hending]
    exact .ended (running_ended hworkers running rfl rfl) rfl rfl rfl rfl rfl
  | @finishedOnCaller l₁ l₂ j hcallers outcome =>
    have hfound : p.onCaller.find? (·.number == j.number) = some j := by
      rw [hcallers]
      exact find?_of_split (hcallers ▸ sound.callers)
    have hending : p.ending? (.event (.finishOnCaller j.number outcome)) = some (j, outcome) := by
      simp [ending?, hfound]
    rw [hending]
    exact .ended (running_finishedOnCaller rfl hcallers rfl) rfl rfl rfl rfl rfl
  | @updated l₁ l₂ w hworkers busy f =>
    have hsame : { w with context := f w.context }.running = w.running := rfl
    exact .quiet (running_updated hworkers hsame rfl rfl) rfl rfl rfl rfl rfl
  | retired hworkers idle | left hworkers idle =>
    exact .quiet (running_idle hworkers idle rfl rfl) rfl rfl rfl rfl rfl
  | shutdown => exact .quiet rfl rfl rfl rfl rfl rfl
  | discardedQueue =>
    have hdiscarded : (p.queue.map Note.cleared).filterMap Note.discarded? = p.queue := by
      simp [List.filterMap_map, Function.comp_def, Note.discarded?]
    -- the notes of dropped jobs are neither of a begin nor of a submission
    have hnone (f : Note τ → Option (Job τ)) (hf : ∀ j, f (.cleared j) = none) :
        (p.queue.map Note.cleared).filterMap f = [] := by
      simp [List.filterMap_map, hf]
    refine ⟨?_, ?_, rfl, rfl, ?_, rfl, ?_⟩
    · rw [notes, hnone _ fun _ => rfl]
      exact .refl _
    · rw [notes, hdiscarded]
      rfl
    · rw [notes, hdiscarded]
    · rw [notes, hnone _ fun _ => rfl, hnone _ fun _ => rfl]
      rfl

/-- **What every incident does to the figures of a pool.** -/
theorem dealt_of_undergo (sound : Sound p) {i : Incident τ ρ} (h : p.undergo i = some q) :
    Dealt p q (p.notes i) (p.ending? i) (p.answer? i) := by
  cases i with
  | unstarted task context reason =>
    obtain ⟨starts, rfl⟩ : p.startsNext = true ∧ (p.offerUnstarted reason).2 = q := by
      simpa [undergo] using h
    exact dealt_of_unstarted starts task context reason
  | event e =>
    by_cases hoffer : ∃ task context, e = .offer task context
    · obtain ⟨task, context, rfl⟩ := hoffer
      obtain ⟨-, rfl⟩ := step_eq_some_iff.mp h
      exact dealt_of_offer sound task context
    · exact dealt_of_transition sound (transition_of_step sound h)
        fun task context he => hoffer ⟨task, context, he⟩

end KeyedDelivery.WorkerPool
