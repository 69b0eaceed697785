import KeyedDelivery.Proofs.Consumer.Accounting
import KeyedDelivery.Proofs.Pool.Order

/-!
# Every permit comes back once

A delivery takes a permit before its first hook, and returns it when it ends, whichever way it got
there: with a verdict, after a hook or the sink panicked, on a worker or on the listening thread.

* **`Docket.Balanced`** — the permits that are available and the deliveries that hold one make up the
  capacity. **`balanced_change`** keeps it.
* **`Stepped`** — what an event does to the jobs of a consumer, by their numbers.
* **`Lent`** — what the history of permits says of each job. **`Lent.step`** keeps it.
* **`permits_balanced`** — both, for every run of a consumer with any pool.
-/

namespace KeyedDelivery

variable {σ : Type}

/-- Whether a delivery at this stage has a permit. -/
def Stage.holdsPermit : Stage → Bool
  | .waiting => false
  | _ => true

/-- Whatever a hook answers, the permit is still held afterwards. -/
theorem Stage.afterHook_holdsPermit (h : Hook) (answer : HookAnswer) :
    (Stage.afterHook h answer).holdsPermit = true := by
  rcases afterHook_cases h answer with ⟨next, hnext⟩ | ⟨v, hv⟩
  · rw [hnext]
    rfl
  · rw [hv]
    rfl

theorem Stage.afterVerdict_holdsPermit (v : Verdict) :
    (Stage.afterVerdict v).holdsPermit = true := by
  cases v <;> rfl

/-! ## The sum -/

/-- The permits that are available and those that are held make up the capacity, which is `n`. -/
structure Docket.Balanced (n : Nat) (k : Docket) : Prop where
  capacity : k.desk.permits.capacity = n
  balance : k.desk.permits.available + standing Stage.holdsPermit k.handling = n

namespace Workplace

/-- A delivery that passes a stage takes a permit if it had none, and keeps the one it has. -/
theorem permits_passed {c : Consumer σ} {d : Delivery} {k k' : Desk} {s : σ}
    {stage stage' : Stage} (h : c.Passed d k s stage stage' k') :
    stage'.holdsPermit = true ∧ k'.permits.capacity = k.permits.capacity ∧
      k'.permits.available + 1 = k.permits.available + stage.holdsPermit.toNat := by
  cases h with
  | admitted permits acquired =>
    unfold Permits.acquire? at acquired
    split at acquired
    · cases acquired
    · -- one permit less is available, and one more is held
      next havailable =>
      cases acquired
      exact ⟨rfl, rfl, Nat.succ_pred_eq_of_ne_zero havailable⟩
  | asked hook => exact ⟨Stage.afterHook_holdsPermit hook _, rfl, rfl⟩
  | counted v => exact ⟨Stage.afterVerdict_holdsPermit v, rfl, rfl⟩
  | reacted reason outcome letters => exact ⟨rfl, rfl, rfl⟩

/-- **One change.** Permits are neither lost nor made, and the cap on their number swallows none. -/
theorem balanced_change {n : Nat} {x y : Workplace σ} {e : Event σ} (h : Change x y e)
    (balanced : x.docket.Balanced n) : y.docket.Balanced n := by
  obtain ⟨hcapacity, hbalance⟩ := balanced
  cases h with
  | quiet _ hdocket | refused _ _ hdocket | unstarted _ _ _ hdocket | queued _ _ hdocket
  | evicted _ _ _ hdocket | dropped _ _ hdocket | discardedQueue _ hdocket =>
    rw [hdocket]
    exact ⟨hcapacity, hbalance⟩
  | begun d _ hdocket | picked _ _ _ hdocket =>
    -- the delivery is before its permit
    rw [hdocket]
    refine ⟨hcapacity, ?_⟩
    rw [standing_cons]
    exact hbalance
  | @advanced _ d stage stage' desk rest hhandling hadvance hdocket =>
    obtain ⟨hholds, hsame, hpermits⟩ := permits_passed (Consumer.passed_of_advance hadvance)
    have hdesk : x.run.desk = x.docket.desk := rfl
    rw [hdesk] at hsame hpermits
    rw [hhandling, standing_cons] at hbalance
    rw [hdocket]
    refine ⟨hsame.trans hcapacity, ?_⟩
    show desk.permits.available + standing Stage.holdsPermit ((d, stage') ::ₘ rest) = n
    rw [standing_cons, hholds, Bool.toNat_true]
    omega
  | @ended _ d outcome rest _ hhandling hdocket =>
    -- one is held, so that fewer than the capacity are available
    have hholds : (Stage.leaving outcome).holdsPermit = true := rfl
    rw [hhandling, standing_cons, hholds, Bool.toNat_true] at hbalance
    rw [hdocket]
    refine ⟨hcapacity, ?_⟩
    show min (x.docket.desk.permits.available + 1) x.docket.desk.permits.capacity +
      standing Stage.holdsPermit rest = n
    rw [hcapacity, Nat.min_eq_left (by omega)]
    omega

/-! ## The history of permits -/

/-- What happens to permits: the job of a number takes one, or returns it. -/
inductive PermitNote where
  | taken (number : Nat)
  | returned (number : Nat)
  deriving DecidableEq, Repr

namespace PermitNote

def number : PermitNote → Nat
  | taken n | returned n => n

def isTaken : PermitNote → Bool
  | taken _ => true
  | returned _ => false

end PermitNote

/-- What an event does to permits: a job that waits takes one, and a job that leaves returns one. -/
def permitNotes (x : Workplace σ) (e : Event σ) : List PermitNote :=
  match x.jobOf e with
  | none => []
  | some j =>
    match x.run.stageOf j with
    | .waiting => [.taken j.number]
    | .leaving _ => [.returned j.number]
    | _ => []

/-- What happened to permits in a list of events. -/
def permitHistory (x : Workplace σ) (es : List (Event σ)) : List PermitNote :=
  Runs.noted step permitNotes x es

/-- What a history says of the job of one number. -/
def lentTo (n : Nat) (ns : List PermitNote) : List PermitNote := ns.filter (·.number = n)

/-- What is noted of other jobs plays no part. -/
theorem lentTo_append_of_ne {n : Nat} (ns : List PermitNote) {news : List PermitNote}
    (h : ∀ note ∈ news, note.number ≠ n) : lentTo n (ns ++ news) = lentTo n ns := by
  have hnone : news.filter (·.number = n) = [] :=
    List.filter_eq_nil_iff.mpr fun note hnote => by simpa using h note hnote
  rw [lentTo, List.filter_append, hnone, List.append_nil]
  rfl

/-! ## What an event does to the jobs -/

/-- What an event does to the jobs of a consumer and to its permits, by what it notes of them. -/
inductive Stepped (x y : Workplace σ) : List PermitNote → Prop where
  /-- No job begins or moves. -/
  | beside (running : y.run.pool.running = x.run.pool.running)
      (stages : y.run.stages = x.run.stages)
      (queue : ∀ j ∈ y.run.pool.queue, j ∈ x.run.pool.queue ∨ j.number = x.run.pool.submitted)
      (permits : y.run.desk.permits = x.run.desk.permits) : Stepped x y []
  /-- A job begins, which was queued or is offered now. -/
  | begun {j : Job Delivery} (running : y.run.pool.running.Perm (j :: x.run.pool.running))
      (stages : y.run.stages = x.run.stages.put j.number .waiting)
      (origin : j ∈ x.run.pool.queue ∨ j.number = x.run.pool.submitted)
      (queue : ∀ i ∈ y.run.pool.queue, i ∈ x.run.pool.queue)
      (permits : y.run.desk.permits = x.run.desk.permits) : Stepped x y []
  | admitted {j : Job Delivery} {stage : Stage} (mem : j ∈ x.run.pool.running)
      (waiting : x.run.stageOf j = .waiting) (holds : stage.holdsPermit = true)
      (pool : y.run.pool = x.run.pool) (stages : y.run.stages = x.run.stages.put j.number stage)
      (permits : y.run.desk.permits.available + 1 = x.run.desk.permits.available) :
      Stepped x y [.taken j.number]
  | passed {j : Job Delivery} {stage : Stage} (mem : j ∈ x.run.pool.running)
      (held : (x.run.stageOf j).holdsPermit = true) (holds : stage.holdsPermit = true)
      (pool : y.run.pool = x.run.pool) (stages : y.run.stages = x.run.stages.put j.number stage)
      (permits : y.run.desk.permits.available = x.run.desk.permits.available) : Stepped x y []
  | ended {j : Job Delivery} {outcome : Outcome Unit}
      (running : x.run.pool.running.Perm (j :: y.run.pool.running))
      (leaving : x.run.stageOf j = .leaving outcome) (queue : y.run.pool.queue = x.run.pool.queue)
      (stages : y.run.stages = x.run.stages.erase j.number)
      (permits : y.run.desk.permits = x.run.desk.permits.release) :
      Stepped x y [.returned j.number]

/-- A delivery that comes in moves no permit. -/
theorem stepped_of_receive {x : Workplace σ} (sound : x.run.pool.Sound) (d : Delivery) :
    Stepped x { x with run := (x.run.receive d).2 } [] := by
  have placed := WorkerPool.placed_of_offer sound d .empty
  unfold ConsumerRun.receive
  simp only [ConsumerRun.count_pool]
  generalize x.run.pool.offer d .empty = offered at placed
  obtain ⟨place, pool⟩ := offered
  cases placed with
  | refused e hqueue hrunning | dropped hqueue hrunning =>
    exact .beside hrunning rfl (fun j hj => .inl (hqueue ▸ hj)) rfl
  | started worker hqueue hrunning | toCaller hqueue hrunning =>
    exact .begun hrunning rfl (.inr rfl) (fun i hi => hqueue ▸ hi) rfl
  | queued hqueue hrunning =>
    refine .beside hrunning rfl (fun j hj => ?_) rfl
    rcases List.mem_append.mp (hqueue ▸ hj) with hj | hj
    · exact .inl hj
    · exact .inr (congrArg Job.number (List.mem_singleton.mp hj))
  -- the oldest delivery leaves the queue without having begun
  | evicted hfull hqueue hrunning =>
    refine .beside hrunning rfl (fun j hj => ?_) rfl
    rcases List.mem_append.mp (hqueue ▸ hj) with hj | hj
    · exact .inl (hfull ▸ List.mem_cons_of_mem _ hj)
    · exact .inr (congrArg Job.number (List.mem_singleton.mp hj))

theorem stepped_of_pick {x : Workplace σ} (sound : x.run.pool.Sound) {n : Nat}
    (h : x.run.pool.allows (.pick n) = true) : Stepped x { x with run := x.run.pick n } [] := by
  obtain ⟨j, rest, hqueue, hrest, hrunning, -⟩ := WorkerPool.pick_cases sound h
  have hpick : x.run.pick n = { x.run with pool := x.run.pool.pick n }.begin j.number := by
    unfold ConsumerRun.pick
    rw [hqueue]
  rw [hpick]
  refine .begun hrunning rfl (.inl (hqueue ▸ List.mem_cons_self)) (fun i hi => ?_) rfl
  have hi : i ∈ rest := hrest ▸ hi
  exact hqueue ▸ List.mem_cons_of_mem _ hi

/-- A job that goes on takes its permit at the first stage, and one that ends gives it back. -/
theorem stepped_of_advanceJob {x : Workplace σ} {e : Event σ} {j : Job Delivery}
    {finish : WorkerPool Delivery Unit → Outcome Unit → WorkerPool Delivery Unit}
    (hjob : x.jobOf e = some j)
    (hrunning : ∀ outcome, x.run.pool.running.Perm (j :: (finish x.run.pool outcome).running))
    (hkept : ∀ outcome, (finish x.run.pool outcome).queue = x.run.pool.queue)
    (hmoved : (x.run.advanceJob j finish x.world).1 = true) :
    Stepped x ⟨(x.run.advanceJob j finish x.world).2.1, (x.run.advanceJob j finish x.world).2.2⟩
      (x.permitNotes e) := by
  obtain ⟨stage, hstage, hcases⟩ := ConsumerRun.advanceJob_cases hmoved
  have hstageOf : x.run.stageOf j = stage := by
    rw [ConsumerRun.stageOf, hstage, Option.getD_some]
  have hmem : j ∈ x.run.pool.running :=
    (hrunning (.returned ())).mem_iff.mpr List.mem_cons_self
  unfold permitNotes
  rw [hjob]
  dsimp only
  rcases hcases with ⟨stage', desk, s', hadvance, hresult⟩ | ⟨outcome, desk, s', hadvance, hresult⟩
  · rw [hresult]
    have hpassed := Consumer.passed_of_advance hadvance
    obtain ⟨hholds, -, hpermits⟩ := permits_passed hpassed
    cases hpassed with
    | admitted permits acquired =>
      rw [hstageOf]
      exact .admitted hmem hstageOf hholds rfl rfl hpermits
    | asked | counted | reacted =>
      rw [hstageOf]
      exact .passed hmem (by rw [hstageOf]; rfl) hholds rfl rfl (Nat.succ.inj hpermits)
  · rw [hresult]
    -- a job only ends at its last stage
    obtain ⟨rfl, rfl, rfl⟩ := Consumer.advance_ended hadvance
    rw [hstageOf]
    exact .ended (hrunning outcome) hstageOf (hkept outcome) rfl rfl

/-- **What every event does to the jobs.** -/
theorem stepped_of_step {x y : Workplace σ} {e : Event σ} (tracked : Tracked x)
    (h : x.step e = some y) : Stepped x y (x.permitNotes e) := by
  obtain ⟨hallows, rfl⟩ := step_eq_some_iff.mp h
  cases e with
  | start =>
    obtain ⟨state, hrun, -⟩ := x.run.start_run x.world
    show Stepped x ⟨(x.run.start x.world).2.1, (x.run.start x.world).2.2⟩ []
    rw [hrun]
    exact .beside rfl rfl (fun j hj => .inl hj) rfl
  | receive d => exact stepped_of_receive tracked.sound d
  | receiveUnstarted d reason => exact .beside rfl rfl (fun j hj => .inl hj) rfl
  | pick n => exact stepped_of_pick tracked.sound hallows
  | work n =>
    obtain ⟨j, guard, hworker, hmoves⟩ := ConsumerRun.advanceWorker_eq hallows
    have hjob : x.jobOf (.work n) = some j := by rw [jobOf, hworker]; rfl
    simp only [apply, hmoves]
    exact stepped_of_advanceJob hjob (WorkerPool.running_finish tracked.sound hworker)
      (fun outcome => (x.run.pool.finish_kept n outcome).1) (hmoves ▸ hallows)
  | workOnCaller n =>
    obtain ⟨j, hcaller, hmoves⟩ := ConsumerRun.advanceCaller_eq hallows
    simp only [apply, hmoves]
    exact stepped_of_advanceJob hcaller (WorkerPool.running_finishOnCaller tracked.sound hcaller)
      (fun outcome => (x.run.pool.finishOnCaller_kept n outcome).1) (hmoves ▸ hallows)
  | retire n | leave n =>
    have hidle := (Bool.and_eq_true_iff.mp hallows).1
    exact .beside (WorkerPool.running_leave tracked.sound hidle) rfl (fun j hj => .inl hj) rfl
  | stop =>
    show Stepped x ⟨(x.run.stop x.world).1, (x.run.stop x.world).2⟩ []
    rw [x.run.stop_run x.world]
    exact .beside rfl rfl (fun j hj => .inl hj) rfl
  | shutdownPool | elsewhere => exact .beside rfl rfl (fun j hj => .inl hj) rfl
  | discardQueue =>
    obtain ⟨hqueue, hrunning, -⟩ := x.run.pool.discardQueue_kept
    refine .beside hrunning rfl (fun j hj => ?_) rfl
    -- no job is left in the queue
    have hj : j ∈ ([] : List (Job Delivery)) := hqueue ▸ hj
    cases hj

theorem submitted_le_of_step {x y : Workplace σ} {e : Event σ} (tracked : Tracked x)
    (h : x.step e = some y) : x.run.pool.submitted ≤ y.run.pool.submitted := by
  have hpool := poolStep_of_step h
  generalize y.run.pool = q at hpool
  cases hpool with
  | none => exact Nat.le_refl _
  | @one _ a ha => exact WorkerPool.submitted_le_of_undergo (i := .event a) tracked.sound ha
  | unstarted reason => exact Nat.le_succ _

/-! ## What the history says -/

/-- What the history of permits says of the jobs of a consumer. -/
structure Lent (ns : List PermitNote) (x : Workplace σ) : Prop where
  running : ∀ j ∈ x.run.pool.running, lentTo j.number ns =
    if (x.run.stageOf j).holdsPermit then [.taken j.number] else []
  queued : ∀ j ∈ x.run.pool.queue, lentTo j.number ns = []
  unborn : ∀ n, x.run.pool.submitted ≤ n → lentTo n ns = []
  gone : ∀ n, (∀ j ∈ x.run.pool.running, j.number ≠ n) →
    lentTo n ns = [] ∨ lentTo n ns = [.taken n, .returned n]

/-- The stages of other jobs stay as they are. -/
theorem stageOf_put_of_ne {r r' : ConsumerRun σ} {n : Nat} {stage : Stage} {j : Job Delivery}
    (hstages : r'.stages = r.stages.put n stage) (hne : j.number ≠ n) :
    r'.stageOf j = r.stageOf j := by
  rw [ConsumerRun.stageOf, hstages, Table.find?_put, if_neg (Ne.symm hne)]
  rfl

/-- A job that runs is none of those that are queued or still to come. -/
theorem running_apart {x : Workplace σ} (tracked : Tracked x) {j : Job Delivery}
    (hj : j ∈ x.run.pool.running) :
    (∀ i ∈ x.run.pool.queue, j.number ≠ i.number) ∧
      ∀ n, x.run.pool.submitted ≤ n → j.number ≠ n := by
  obtain ⟨hdistinct, hoffered⟩ := tracked.numbered
  rw [List.map_append] at hdistinct
  refine ⟨fun i hi heq => ?_, fun n hn => ?_⟩
  · exact (List.nodup_append.mp hdistinct).2.2 _ (List.mem_map_of_mem hi) _
      (List.mem_map_of_mem hj) heq.symm
  · have hlt := hoffered j (List.mem_append_right _ hj)
    omega

namespace Lent

variable {x y : Workplace σ} {ns : List PermitNote}

/-- Nothing is noted of permits at the start. -/
theorem start (x : Workplace σ) (h : x.run.pool.running = []) : Lent [] x where
  running j hj := by
    rw [h] at hj
    cases hj
  queued _ _ := rfl
  unborn _ _ := rfl
  gone _ _ := .inl rfl

/-- A job that runs goes on: what is noted is about it. -/
theorem goesOn (lent : Lent ns x) (tracked : Tracked x) {j : Job Delivery} {stage : Stage}
    {news : List PermitNote} (mem : j ∈ x.run.pool.running) (pool : y.run.pool = x.run.pool)
    (stages : y.run.stages = x.run.stages.put j.number stage)
    (hnews : ∀ note ∈ news, note.number = j.number)
    (hlent : lentTo j.number (ns ++ news) =
      if stage.holdsPermit then [.taken j.number] else []) : Lent (ns ++ news) y := by
  have hother {n : Nat} (hne : n ≠ j.number) : lentTo n (ns ++ news) = lentTo n ns :=
    lentTo_append_of_ne ns fun note hnote => hnews note hnote ▸ hne.symm
  obtain ⟨hqueued, hunborn⟩ := running_apart tracked mem
  refine ⟨fun i hi => ?_, fun i hi => ?_, fun n hn => ?_, fun n hn => ?_⟩
  · rw [pool] at hi
    -- the stage of this job has changed, and that of no other
    by_cases hij : i.number = j.number
    · have hstage : y.run.stageOf i = stage := by
        rw [ConsumerRun.stageOf, stages, hij, Table.find?_put_self, Option.getD_some]
      rw [hij, hstage, hlent]
    · rw [hother hij, stageOf_put_of_ne stages hij]
      exact lent.running i hi
  · rw [pool] at hi
    rw [hother (hqueued i hi).symm]
    exact lent.queued i hi
  · rw [pool] at hn
    rw [hother (hunborn n hn).symm]
    exact lent.unborn n hn
  · rw [pool] at hn
    rw [hother (hn j mem).symm]
    exact lent.gone n hn

/-- A job ends: it has returned its permit. -/
theorem ended (lent : Lent ns x) (tracked : Tracked x) {j : Job Delivery} {outcome : Outcome Unit}
    (running : x.run.pool.running.Perm (j :: y.run.pool.running))
    (leaving : x.run.stageOf j = .leaving outcome) (queue : y.run.pool.queue = x.run.pool.queue)
    (stages : y.run.stages = x.run.stages.erase j.number)
    (submitted : x.run.pool.submitted ≤ y.run.pool.submitted) :
    Lent (ns ++ [.returned j.number]) y ∧
      lentTo j.number (ns ++ [.returned j.number]) = [.taken j.number, .returned j.number] := by
  have hother {n : Nat} (hne : n ≠ j.number) :
      lentTo n (ns ++ [.returned j.number]) = lentTo n ns :=
    lentTo_append_of_ne ns fun note hnote => List.mem_singleton.mp hnote ▸ hne.symm
  have mem : j ∈ x.run.pool.running := running.mem_iff.mpr List.mem_cons_self
  obtain ⟨hqueued, hunborn⟩ := running_apart tracked mem
  have hne := tracked.numbered.others_ne running
  -- the job had taken its permit, and now it has given it back
  have hboth : lentTo j.number (ns ++ [.returned j.number]) =
      [.taken j.number, .returned j.number] := by
    have htaken := lent.running j mem
    rw [leaving] at htaken
    rw [lentTo, List.filter_append]
    show lentTo j.number ns ++ _ = _
    rw [htaken]
    simp [Stage.holdsPermit, PermitNote.number]
  refine ⟨⟨fun i hi => ?_, fun i hi => ?_, fun n hn => ?_, fun n hn => ?_⟩, hboth⟩
  · have hstage : y.run.stageOf i = x.run.stageOf i := by
      rw [ConsumerRun.stageOf, stages, Table.find?_erase, if_neg (hne i hi).symm]
      rfl
    rw [hother (hne i hi), hstage]
    exact lent.running i (running.mem_iff.mpr (List.mem_cons_of_mem _ hi))
  · rw [queue] at hi
    rw [hother (hqueued i hi).symm]
    exact lent.queued i hi
  · have hn := submitted.trans hn
    rw [hother (hunborn n hn).symm]
    exact lent.unborn n hn
  · -- this job is gone now, and the others that are were gone before
    by_cases hnj : n = j.number
    · subst hnj
      exact .inr hboth
    · rw [hother hnj]
      refine lent.gone n fun i hi => ?_
      rcases List.mem_cons.mp (running.mem_iff.mp hi) with rfl | hi
      · exact Ne.symm hnj
      · exact hn i hi

/-- **One more event.** -/
theorem step {e : Event σ} (lent : Lent ns x) (tracked : Tracked x) (h : x.step e = some y) :
    Lent (ns ++ x.permitNotes e) y := by
  have hsubmitted := submitted_le_of_step tracked h
  have tracked' := tracked.step h
  have hstepped := stepped_of_step tracked h
  generalize x.permitNotes e = news at hstepped
  cases hstepped with
  | beside running stages queue =>
    rw [List.append_nil]
    refine ⟨fun j hj => ?_, fun j hj => ?_, fun n hn => lent.unborn n (hsubmitted.trans hn),
      fun n hn => lent.gone n (running ▸ hn)⟩
    · rw [ConsumerRun.stageOf, stages]
      exact lent.running j (running ▸ hj)
    · rcases queue j hj with hj | hj
      · exact lent.queued j hj
      · exact lent.unborn _ (Nat.le_of_eq hj.symm)
  | @begun j running stages origin queue =>
    rw [List.append_nil]
    have hne := tracked'.numbered.others_ne running
    -- the job was queued or is a new one, so that it has taken no permit
    have hnone : lentTo j.number ns = [] := by
      rcases origin with hj | hj
      · exact lent.queued j hj
      · exact lent.unborn _ (Nat.le_of_eq hj.symm)
    refine ⟨fun i hi => ?_, fun i hi => lent.queued i (queue i hi),
      fun n hn => lent.unborn n (hsubmitted.trans hn), fun n hn => ?_⟩
    · rcases List.mem_cons.mp (running.mem_iff.mp hi) with rfl | hi
      · have hstage : y.run.stageOf i = .waiting := by
          rw [ConsumerRun.stageOf, stages, Table.find?_put_self, Option.getD_some]
        rw [hstage, hnone]
        rfl
      · rw [stageOf_put_of_ne stages (hne i hi)]
        exact lent.running i hi
    · exact lent.gone n fun i hi => hn i (running.mem_iff.mpr (List.mem_cons_of_mem _ hi))
  | @admitted j stage mem waiting holds pool stages =>
    refine lent.goesOn tracked mem pool stages
      (fun note hnote => List.mem_singleton.mp hnote ▸ rfl) ?_
    -- a job that waited for its permit had taken none
    have hnone := lent.running j mem
    rw [waiting] at hnone
    rw [lentTo, List.filter_append, if_pos holds]
    show lentTo j.number ns ++ _ = _
    rw [hnone]
    simp [Stage.holdsPermit, PermitNote.number]
  | @passed j stage mem held holds pool stages =>
    refine lent.goesOn tracked mem pool stages
      (fun note hnote => absurd hnote List.not_mem_nil) ?_
    rw [List.append_nil, lent.running j mem, if_pos held, if_pos holds]
  | ended running leaving queue stages =>
    exact (lent.ended tracked running leaving queue stages hsubmitted).1

end Lent

/-! ## Runs -/

section Run

variable {c : Consumer σ} {p : PoolConfig} {pool : WorkerPool Delivery Unit} {run : ConsumerRun σ}
  {world : σ} {es : List (Event σ)} {x : Workplace σ}

/-- What is known of the permits after a run of a consumer. -/
theorem lent_run (hpool : WorkerPool.ofConfig p = .ok pool)
    (hcreate : ConsumerRun.create c pool = .ok run)
    (hafter : after { run, world } es = some x) :
    Tracked x ∧ x.docket.Balanced c.config.maxConcurrent ∧
      Lent (permitHistory { run, world } es) x := by
  have hstart : Reachable c p { run, world } := .start world hpool hcreate
  have hkeeps := Runs.keeps (I := fun es x => Reachable c p x ∧
      x.docket.Balanced c.config.maxConcurrent ∧ Lent (permitHistory { run, world } es) x)
    ⟨hstart, ?_, ?_⟩ ?_ hafter
  · exact ⟨hkeeps.1.tracked.1, hkeeps.2⟩
  · obtain ⟨-, rfl⟩ := pool_of_ofConfig hpool
    obtain rfl := run_of_create hcreate
    exact ⟨rfl, rfl⟩
  · obtain ⟨-, rfl⟩ := pool_of_ofConfig hpool
    obtain rfl := run_of_create hcreate
    exact .start _ rfl
  · -- the permits that a step moves are those that it notes
    intro es x y e hx hstep ⟨hreached, balanced, lent⟩
    have tracked := hreached.tracked.1
    refine ⟨hreached.step hstep, balanced_change (change_of_step tracked hstep) balanced, ?_⟩
    rw [permitHistory, Runs.noted_concat _ hx]
    exact lent.step tracked hstep

/-- What an event does to the permits is what is noted of it: where one is returned, there was one
fewer than the capacity. -/
theorem available_of_step {n : Nat} {y : Workplace σ} {e : Event σ} (tracked : Tracked x)
    (balanced : x.docket.Balanced n) (h : x.step e = some y) :
    y.run.desk.permits.available + (x.permitNotes e).countP (·.isTaken) =
      x.run.desk.permits.available + (x.permitNotes e).countP (! ·.isTaken) := by
  have hstepped := stepped_of_step tracked h
  generalize x.permitNotes e = news at hstepped
  cases hstepped with
  | beside _ _ _ permits | begun _ _ _ _ permits => exact congrArg Permits.available permits
  | admitted _ _ _ _ _ permits => exact permits
  | passed _ _ _ _ _ permits => exact permits
  | @ended j outcome running leaving queue stages permits =>
    obtain ⟨hcapacity, hbalance⟩ := balanced
    -- the job that ends holds a permit, so that the one that comes back is not cut off
    have hheld : 0 < standing Stage.holdsPermit x.docket.handling := by
      have hmem : (j.task, Stage.leaving outcome) ∈ x.run.handling :=
        List.mem_map.mpr ⟨j, running.mem_iff.mpr List.mem_cons_self, by rw [leaving]⟩
      show 0 < standing Stage.holdsPermit (x.run.handling : Multiset (Delivery × Stage))
      rw [standing_coe]
      exact List.countP_pos_iff.mpr ⟨_, hmem, rfl⟩
    rw [permits]
    show min (x.docket.desk.permits.available + 1) x.docket.desk.permits.capacity + 0 =
      x.docket.desk.permits.available + 1
    rw [hcapacity, Nat.min_eq_left (by omega)]

/-- A job that stops running has taken one permit and returned it, whichever way it ended. -/
theorem lentTo_of_exit {ns : List PermitNote} {y : Workplace σ} {e : Event σ} (lent : Lent ns x)
    (tracked : Tracked x) (h : x.step e = some y) {j : Job Delivery}
    (hj : j ∈ x.run.pool.running) (hgone : j ∉ y.run.pool.running) :
    lentTo j.number (ns ++ x.permitNotes e) = [.taken j.number, .returned j.number] := by
  have hsubmitted := submitted_le_of_step tracked h
  have hstepped := stepped_of_step tracked h
  generalize x.permitNotes e = news at hstepped
  cases hstepped with
  | beside running => exact absurd (running ▸ hj) hgone
  | begun running => exact absurd (running.mem_iff.mpr (List.mem_cons_of_mem _ hj)) hgone
  | admitted _ _ _ pool | passed _ _ _ pool => exact absurd (pool ▸ hj) hgone
  | ended running leaving queue stages =>
    rcases List.mem_cons.mp (running.mem_iff.mp hj) with rfl | hj
    · exact (lent.ended tracked running leaving queue stages hsubmitted).2
    · exact absurd hj hgone

end Run

/-- **Permits are balanced.** After every run of a consumer with any pool, transport, handler and
sink, which may panic wherever they are called:

* the permits that are available and the deliveries that hold one make up the capacity, so that never
  more of them are between taking and returning one, and as many are reported to be in flight, which
  is none while no delivery runs;
* an event changes how many are available by what it takes and returns, so that the cap on their
  number swallows none;
* a delivery that runs has taken one permit if it is past its wait, and returned none; one that ended
  has taken one and returned it, and any other neither. -/
theorem permits_balanced {c : Consumer σ} {p : PoolConfig} {pool : WorkerPool Delivery Unit}
    {run : ConsumerRun σ} (hpool : WorkerPool.ofConfig p = .ok pool)
    (hcreate : ConsumerRun.create c pool = .ok run) (world : σ) {es : List (Event σ)}
    {x : Workplace σ} (hafter : after { run, world } es = some x) :
    (x.run.desk.permits.available + x.run.handling.countP (·.2.holdsPermit) =
        c.config.maxConcurrent ∧
      x.run.handling.countP (·.2.holdsPermit) ≤ c.config.maxConcurrent ∧
      x.run.inFlight = x.run.handling.countP (·.2.holdsPermit) ∧
      (x.run.pool.running = [] → x.run.inFlight = 0)) ∧
    (∀ e y, x.step e = some y →
      y.run.desk.permits.available + (x.permitNotes e).countP (·.isTaken) =
        x.run.desk.permits.available + (x.permitNotes e).countP (! ·.isTaken)) ∧
    (∀ j ∈ x.run.pool.running, lentTo j.number (permitHistory { run, world } es) =
      if (x.run.stageOf j).holdsPermit then [.taken j.number] else []) ∧
    (∀ n, (∀ j ∈ x.run.pool.running, j.number ≠ n) →
      lentTo n (permitHistory { run, world } es) = [] ∨
        lentTo n (permitHistory { run, world } es) = [.taken n, .returned n]) ∧
    ∀ e y, x.step e = some y → ∀ j ∈ x.run.pool.running, j ∉ y.run.pool.running →
      lentTo j.number (permitHistory { run, world } (es ++ [e])) =
        [.taken j.number, .returned j.number] := by
  obtain ⟨tracked, balanced, lent⟩ := lent_run hpool hcreate hafter
  have hbalance : x.run.desk.permits.available + x.run.handling.countP (·.2.holdsPermit) =
      c.config.maxConcurrent := by
    rw [← balanced.balance]
    exact congrArg _ (standing_coe _ _).symm
  -- what is in flight is what was taken of the capacity
  have hinFlight : x.run.inFlight = x.run.handling.countP (·.2.holdsPermit) := by
    have hcapacity : x.run.desk.permits.capacity = c.config.maxConcurrent := balanced.capacity
    rw [ConsumerRun.inFlight, Permits.inUse, hcapacity]
    omega
  refine ⟨⟨hbalance, by omega, hinFlight, fun hnone => ?_⟩,
    fun e y hstep => available_of_step tracked balanced hstep, lent.running, lent.gone,
    fun e y hstep j hj hgone => ?_⟩
  · rw [hinFlight, ConsumerRun.handling, hnone]
    rfl
  · rw [permitHistory, Runs.noted_concat _ hafter]
    exact lentTo_of_exit lent tracked hstep hj hgone

/-- One permit, hooks of which the last panics, no retries, and a sink that panics. -/
def brittle : Consumer Unit where
  config := { maxRetryTimes := 0, maxConcurrent := 1 }
  transport := accepting.transport
  handler := .ofProcess fun _ s => (.panicked .other, s)
  sink := some fun _ s => (.panicked .other, s)

/-- A pool of two threads. -/
def paired : PoolConfig := { coreSize := 2, maxSize := 2 }

def unused : Workplace Unit where
  run :=
    { consumer := brittle, pool := { config := paired }, desk := { permits := .full 1 } }
  world := ()

/-- Two deliveries begin on workers of their own. The first one takes the permit, its processing
panics, and so does the sink when it is given up; then the second one takes the permit. -/
def outage : List (Event Unit) :=
  [.start, .receive blank, .receive blank, .work 1, .work 1, .work 1, .work 1, .work 1, .work 1,
    .work 1, .work 2]

theorem permits_balanced_outage :
    WorkerPool.ofConfig paired = .ok unused.run.pool ∧
    ConsumerRun.create brittle unused.run.pool = .ok unused.run ∧
    ∃ x, after unused outage = some x ∧ x.run.inFlight = 1 ∧
      x.run.handling.countP (·.2.holdsPermit) = 1 ∧ x.run.pool.panicked = 1 ∧
      lentTo 0 (permitHistory unused outage) = [.taken 0, .returned 0] ∧
      lentTo 1 (permitHistory unused outage) = [.taken 1] ∧
      ∃ y, after unused (outage.take 4) = some y ∧ y.allows (.work 2) = false := by
  have hpool : WorkerPool.ofConfig paired = .ok unused.run.pool := by rfl
  have hcreate : ConsumerRun.create brittle unused.run.pool = .ok unused.run := by rfl
  have hafter : after unused outage = some _ := rfl
  obtain ⟨⟨-, -, hinFlight, -⟩, -, hrunning, -⟩ := permits_balanced hpool hcreate () hafter
  refine ⟨hpool, hcreate, _, hafter, rfl, ?_, rfl, rfl, ?_, _, rfl, rfl⟩
  · exact hinFlight.symm
  · exact hrunning ⟨1, blank, .empty⟩ (List.mem_singleton_self _)

end Workplace

end KeyedDelivery
