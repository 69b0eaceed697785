import KeyedDelivery.Consumer.Lifecycle
import KeyedDelivery.Proofs.Consumer.Accounting
import KeyedDelivery.Proofs.Pool.Accounting
import KeyedDelivery.Proofs.Runs

/-!
# What a shutdown shuts down

A consumer is terminated by its shutdown or by a start that fails, and a consumer that is terminated
is not shut down again.

* **`advance_recorded`**, **`start_recorded`** — what a transport writes down of a delivery that goes
  on, and of a start.
* **`Lifetime`** — what the calls so far say of the state of a consumer and of its pool. Each event
  keeps it (`Lifetime.step`).
* **`shutdown_unless_failed`** — a shutdown shuts the transport and the pool down, unless a start
  failed; then neither is shut down, however often that is asked for.
* **`failed_start_outlives_shutdown`** — a consumer that could not be started goes on taking
  deliveries after its shutdown.
-/

namespace KeyedDelivery

variable {σ : Type}

/-- Whether a call is a part of a start that failed. -/
def TransportCall.failsStart : TransportCall → Bool
  | .subscribe done | .start done => !done
  | _ => false

/-- Whether a start failed, by the calls that were written down. -/
def startFailed (calls : List TransportCall) : Bool := calls.any (·.failsStart)

/-- A start failed if it did so among the earlier calls or among the later ones. -/
theorem startFailed_append (calls more : List TransportCall) :
    startFailed (calls ++ more) = (startFailed calls || startFailed more) := List.any_append

/-! ## What is written down -/

section Recorded

variable (t : ConsumerTransport σ) (w : Recorded σ)

/-- What is written down of each call of the transport. -/
theorem ConsumerTransport.recorded_subscribe (topic tags : String) :
    t.recorded.subscribe topic tags w =
      ((t.subscribe topic tags w.1).1, (t.subscribe topic tags w.1).2,
        w.2 ++ [.subscribe (t.subscribe topic tags w.1).1.isOk]) := rfl

theorem ConsumerTransport.recorded_listen :
    t.recorded.listen w = (t.listen w.1, w.2 ++ [.listen]) := rfl

theorem ConsumerTransport.recorded_start :
    t.recorded.start w = ((t.start w.1).1, (t.start w.1).2, w.2 ++ [.start (t.start w.1).1.isOk]) :=
  rfl

theorem ConsumerTransport.recorded_reconsumeLater (d : Delivery) (level : DelayLevel) :
    t.recorded.reconsumeLater d level w =
      ((t.reconsumeLater d level w.1).1, (t.reconsumeLater d level w.1).2, w.2 ++ [.reconsume]) :=
  rfl

end Recorded

theorem Consumer.recorded_transport (c : Consumer σ) :
    c.recorded.transport = c.transport.recorded := rfl

theorem Consumer.recorded_config (c : Consumer σ) : c.recorded.config = c.config := rfl

/-- A consumer whose calls are written down does with a delivery what it did before, and asks for
another delivery at most. -/
theorem Consumer.advance_recorded (c : Consumer σ) (d : Delivery) (stage : Stage) (k : Desk)
    (w : Recorded σ) :
    ∃ n, c.recorded.advance d stage k w =
      ((c.advance d stage k w.1).1, (c.advance d stage k w.1).2.1, (c.advance d stage k w.1).2.2,
        w.2 ++ List.replicate n .reconsume) := by
  have hsilent : w.2 = w.2 ++ List.replicate 0 .reconsume := (List.append_nil _).symm
  cases stage with
  | waiting =>
    refine ⟨0, ?_⟩
    rw [← hsilent]
    unfold advance
    dsimp only
    split <;> rfl
  | asking h | judged v | leaving outcome =>
    refine ⟨0, ?_⟩
    rw [← hsilent]
    rfl
  | failing reason =>
    have hretry : c.recorded.retry = c.retry := rfl
    simp only [advance, afterFailure, hretry]
    cases c.retry.decide d.reconsumed with
    | giveUp =>
      refine ⟨0, ?_⟩
      rw [← hsilent]
      simp only [giveUp, recorded]
      cases c.sink with
      | none => rfl
      | some sink =>
        simp only [Option.map_some]
        rcases sink (.ofDelivery d reason) w.1 with ⟨_ | _, s⟩ <;> rfl
    -- only a request reaches the transport
    | redeliver level =>
      refine ⟨1, ?_⟩
      simp only [recorded_transport, ConsumerTransport.recorded_reconsumeLater]
      rcases c.transport.reconsumeLater d level w.1 with ⟨_ | _, s⟩ <;> rfl

variable {c : Consumer σ} {x y : Workplace (Recorded σ)}

/-- A consumer is started once. What it is then depends on whether the start fails. -/
theorem start_recorded (hconsumer : x.run.consumer = c.recorded) :
    x.run.state ≠ .stopped ∧ x.apply .start = x ∨
      x.run.state = .stopped ∧ ∃ calls s, .shutdown ∉ calls ∧
        x.apply .start =
          { run := { x.run with state := if startFailed calls then .terminated else .running }
            world := (s, x.world.2 ++ calls) } := by
  obtain ⟨⟨_, pool, state, desk, stages⟩, w, calls⟩ := x
  obtain rfl := hconsumer
  unfold Workplace.apply ConsumerRun.start
  by_cases hstate : state = .stopped
  · refine .inr ⟨hstate, ?_⟩
    simp only [hstate, ne_eq, not_true_eq_false, if_false, Consumer.recorded_transport,
      Consumer.recorded_config, ConsumerTransport.recorded_subscribe,
      ConsumerTransport.recorded_listen, ConsumerTransport.recorded_start]
    -- a start gets as far as the first call that fails
    rcases c.transport.subscribe c.config.topic c.config.tagFilter w with ⟨e | _, s⟩
    · exact ⟨[.subscribe false], s, by simp, rfl⟩
    dsimp only
    rcases c.transport.start (c.transport.listen s) with ⟨e | _, s⟩
    · refine ⟨[.subscribe true, .listen, .start false], s, by simp, ?_⟩
      simp only [List.append_assoc]
      rfl
    · refine ⟨[.subscribe true, .listen, .start true], s, by simp, ?_⟩
      simp only [List.append_assoc]
      rfl
  · dsimp only
    rw [if_pos hstate]
    exact .inl ⟨hstate, rfl⟩

/-- A shutdown does all of it, or nothing if the consumer is terminated. -/
theorem shutdown_recorded (hconsumer : x.run.consumer = c.recorded) :
    x.run.state = .terminated ∧ Lifecycle.shutdown x = x ∨
      x.run.state ≠ .terminated ∧ ∃ s,
        Lifecycle.shutdown x =
          { run := { x.run with state := .terminated, pool := x.run.pool.shutdown.2 }
            world := (s, x.world.2 ++ [.shutdown]) } := by
  obtain ⟨⟨_, pool, state, desk, stages⟩, w, calls⟩ := x
  obtain rfl := hconsumer
  unfold Lifecycle.shutdown ConsumerRun.shutdown
  by_cases hstate : state = .terminated
  · dsimp only
    rw [if_pos hstate]
    exact .inl ⟨hstate, rfl⟩
  · dsimp only
    rw [if_neg hstate]
    exact .inr ⟨hstate, c.transport.shutdown w, rfl⟩

/-- Work on deliveries shuts nothing down, and asks for other deliveries at most. -/
structure Worked (x y : Workplace (Recorded σ)) : Prop where
  state : y.run.state = x.run.state
  closed : y.run.pool.isShutDown = x.run.pool.isShutDown
  calls : ∃ n, y.world.2 = x.world.2 ++ List.replicate n .reconsume

/-- A job that goes on or ends changes neither the state of the consumer nor whether the pool is
open. -/
theorem worked_of_advanceJob (hconsumer : x.run.consumer = c.recorded) {j : Job Delivery}
    {finish : WorkerPool Delivery Unit → Outcome Unit → WorkerPool Delivery Unit}
    (hfinish : ∀ outcome, (finish x.run.pool outcome).isShutDown = x.run.pool.isShutDown)
    (hmoved : (x.run.advanceJob j finish x.world).1 = true) :
    Worked x ⟨(x.run.advanceJob j finish x.world).2.1,
      (x.run.advanceJob j finish x.world).2.2⟩ := by
  obtain ⟨stage, -, hcases⟩ := ConsumerRun.advanceJob_cases hmoved
  obtain ⟨n, hcalls⟩ := c.advance_recorded j.task stage x.run.desk x.world
  rw [← hconsumer] at hcalls
  rcases hcases with ⟨stage', desk, s', hadvance, hresult⟩ | ⟨outcome, desk, s', hadvance, hresult⟩
  · rw [hresult]
    exact ⟨rfl, rfl, n, congrArg (·.2.2.2) (hadvance.symm.trans hcalls)⟩
  · rw [hresult]
    exact ⟨rfl, hfinish outcome, n, congrArg (·.2.2.2) (hadvance.symm.trans hcalls)⟩

/-- **Work leaves the consumer as it is**: no step of it starts or stops anything. -/
theorem worked_of_step {e : Workplace.Event (Recorded σ)}
    (hconsumer : x.run.consumer = c.recorded) (hwork : Lifecycle.isWork e = true)
    (h : x.step e = some y) : Worked x y := by
  obtain ⟨hallows, rfl⟩ := Workplace.step_eq_some_iff.mp h
  have hnone : ∃ n, x.world.2 = x.world.2 ++ List.replicate n .reconsume :=
    ⟨0, (List.append_nil _).symm⟩
  cases e with
  | receive d =>
    refine ⟨?_, ?_, hnone⟩
    · simp only [Workplace.apply, ConsumerRun.receive]
      split <;> rfl
    · simp only [Workplace.apply, ConsumerRun.receive_pool, WorkerPool.offer_isShutDown]
  | receiveUnstarted d reason => exact ⟨rfl, rfl, hnone⟩
  | pick n =>
    refine ⟨?_, ?_, hnone⟩
    · simp only [Workplace.apply, ConsumerRun.pick]
      split <;> rfl
    · simp only [Workplace.apply, ConsumerRun.pick_pool, WorkerPool.pick_isShutDown]
  | work n =>
    obtain ⟨j, guard, -, hmoves⟩ := ConsumerRun.advanceWorker_eq hallows
    simp only [Workplace.apply, hmoves]
    exact worked_of_advanceJob hconsumer (x.run.pool.finish_isShutDown n) (hmoves ▸ hallows)
  | workOnCaller n =>
    obtain ⟨j, -, hmoves⟩ := ConsumerRun.advanceCaller_eq hallows
    simp only [Workplace.apply, hmoves]
    exact worked_of_advanceJob hconsumer (x.run.pool.finishOnCaller_isShutDown n)
      (hmoves ▸ hallows)
  | retire n | leave n => exact ⟨rfl, rfl, hnone⟩
  | _ => cases hwork

/-! ## From start to shutdown -/

/-- What the calls so far say of a consumer: its transport was shut down once if its pool is shut
down, and otherwise not; and both were shut down if it is terminated and no start failed. -/
structure Lifetime (c : Consumer σ) (x : Workplace (Recorded σ)) : Prop where
  consumer : x.run.consumer = c.recorded
  shutdowns : x.world.2.count .shutdown = x.run.pool.isShutDown.toNat
  closed : x.run.pool.isShutDown = (x.run.state = .terminated && !startFailed x.world.2)
  failed : startFailed x.world.2 = true → x.run.state = .terminated

/-- Work on deliveries is a step of the consumer. -/
theorem Lifecycle.work_of_step {e : Workplace.Event (Recorded σ)}
    (h : Lifecycle.step x (.work e) = some y) : isWork e = true ∧ x.step e = some y := by
  simpa [Lifecycle.step] using h

namespace Lifetime

/-- A consumer that is not terminated is open, and no start of it failed. -/
theorem active (life : Lifetime c x) (h : x.run.state ≠ .terminated) :
    x.run.pool.isShutDown = false ∧ startFailed x.world.2 = false := by
  refine ⟨?_, Bool.not_eq_true _ ▸ mt life.failed h⟩
  rw [life.closed, decide_eq_false h, Bool.false_and]

/-- A start makes the consumer run, or terminates it when it fails. -/
theorem start (life : Lifetime c x) : Lifetime c (x.apply .start) := by
  rcases start_recorded life.consumer with ⟨-, hsame⟩ | ⟨hstate, calls, s, hcalls, hstart⟩
  · rw [hsame]
    exact life
  -- nothing failed before, so that the state is what the new calls say
  obtain ⟨hopen, hfine⟩ := life.active (by rw [hstate]; exact nofun)
  have hfailed : startFailed (x.world.2 ++ calls) = startFailed calls := by
    rw [startFailed_append, hfine, Bool.false_or]
  rw [hstart]
  refine ⟨life.consumer, ?_, ?_, ?_⟩
  · rw [List.count_append, life.shutdowns, List.count_eq_zero.mpr hcalls]
    rfl
  · dsimp only
    rw [hopen, hfailed]
    cases startFailed calls <;> rfl
  · dsimp only
    rw [hfailed]
    exact fun h => if_pos h

/-- A shutdown closes the transport and the pool, unless the consumer is terminated already. -/
theorem shutdown (life : Lifetime c x) : Lifetime c (Lifecycle.shutdown x) := by
  rcases shutdown_recorded life.consumer with ⟨-, hsame⟩ | ⟨hstate, s, hshutdown⟩
  · rw [hsame]
    exact life
  -- the consumer is not terminated, so that no start has failed
  obtain ⟨hopen, hfine⟩ := life.active hstate
  have hfailed : startFailed (x.world.2 ++ [.shutdown]) = false := by
    rw [startFailed_append, hfine]
    rfl
  rw [hshutdown]
  refine ⟨life.consumer, ?_, ?_, fun _ => rfl⟩
  · rw [List.count_append, life.shutdowns, hopen]
    rfl
  · dsimp only
    rw [hfailed]
    rfl

/-- Work only adds requests for messages to be delivered again. -/
theorem worked (life : Lifetime c x) (h : Worked x y) (hconsumer : y.run.consumer = c.recorded) :
    Lifetime c y := by
  obtain ⟨n, hcalls⟩ := h.calls
  -- a request is no failed start
  have hfailed : startFailed y.world.2 = startFailed x.world.2 := by
    have hfine : startFailed (List.replicate n .reconsume) = false := by
      simp [startFailed, TransportCall.failsStart]
    rw [hcalls, startFailed_append, hfine, Bool.or_false]
  refine ⟨hconsumer, ?_, ?_, ?_⟩
  · rw [hcalls, List.count_append, List.count_replicate, h.closed, life.shutdowns]
    rfl
  · rw [h.closed, h.state, hfailed, life.closed]
  · rw [hfailed, h.state]
    exact life.failed

/-- **One event.** Whatever happens to a consumer, the calls say the same of it. -/
theorem step {e : Lifecycle.Event σ} (life : Lifetime c x) (h : Lifecycle.step x e = some y) :
    Lifetime c y := by
  cases e with
  | start =>
    cases h
    exact life.start
  | shutdown =>
    cases h
    exact life.shutdown
  | work e =>
    obtain ⟨hwork, hstep⟩ := Lifecycle.work_of_step h
    exact life.worked (worked_of_step life.consumer hwork hstep)
      ((Workplace.frame_of_step hstep).1.trans life.consumer)
  | elsewhere f =>
    cases h
    exact ⟨life.consumer, life.shutdowns, life.closed, life.failed⟩

/-- A consumer is terminated from its shutdown on. -/
theorem terminated {e : Lifecycle.Event σ} (life : Lifetime c x) (h : Lifecycle.step x e = some y)
    (hstate : x.run.state = .terminated ∨ e = .shutdown) : y.run.state = .terminated := by
  cases e with
  -- a consumer that is terminated is not started again
  | start =>
    cases h
    have hstate := hstate.resolve_right nofun
    rcases start_recorded life.consumer with ⟨-, hsame⟩ | ⟨hstopped, -⟩
    · rw [hsame, hstate]
    · exact absurd (hstopped.symm.trans hstate) nofun
  | shutdown =>
    cases h
    rcases shutdown_recorded life.consumer with ⟨hstate, hsame⟩ | ⟨-, s, hshutdown⟩
    · rw [hsame, hstate]
    · rw [hshutdown]
  | work e =>
    obtain ⟨hwork, hstep⟩ := Lifecycle.work_of_step h
    exact (worked_of_step life.consumer hwork hstep).state.trans (hstate.resolve_right nofun)
  | elsewhere f =>
    cases h
    exact hstate.resolve_right nofun

end Lifetime

namespace Lifecycle

/-- What the calls of a run say of the consumer, which is terminated if it was shut down. -/
theorem lifetime_run {p : PoolConfig} {pool : WorkerPool Delivery Unit}
    {run : ConsumerRun (Recorded σ)} {world : σ} {es : List (Event σ)}
    (hpool : WorkerPool.ofConfig p = .ok pool)
    (hcreate : ConsumerRun.create c.recorded pool = .ok run)
    (hrun : Lifecycle.run { run, world := (world, []) } es = some x) :
    Lifetime c x ∧ (.shutdown ∈ es → x.run.state = .terminated) := by
  have life : Lifetime c { run, world := (world, []) } := by
    obtain ⟨-, rfl⟩ := Workplace.pool_of_ofConfig hpool
    obtain rfl := Workplace.run_of_create hcreate
    exact ⟨rfl, rfl, rfl, fun h => nomatch (h : false = true)⟩
  refine Runs.keeps (I := fun es x => Lifetime c x ∧ (.shutdown ∈ es → x.run.state = .terminated))
    ⟨life, nofun⟩ ?_ hrun
  intro es x y e _ hstep ⟨life, hstate⟩
  refine ⟨life.step hstep, fun hmem => life.terminated hstep ?_⟩
  -- the shutdown came before, or it is the last event
  rcases List.mem_append.mp hmem with hmem | hmem
  · exact .inl (hstate hmem)
  · exact .inr (List.mem_singleton.mp hmem).symm

/-- **What a shutdown shuts down.** After any run of a consumer, with any transport, handler, sink
and pool, in which it is shut down, it is terminated; and unless a start failed, its transport was
shut down once and its pool refuses every delivery. If a start failed, neither was shut down. -/
theorem shutdown_unless_failed {p : PoolConfig} {pool : WorkerPool Delivery Unit}
    {run : ConsumerRun (Recorded σ)} (hpool : WorkerPool.ofConfig p = .ok pool)
    (hcreate : ConsumerRun.create c.recorded pool = .ok run) (world : σ) {es : List (Event σ)}
    (hshutdown : .shutdown ∈ es)
    (hrun : Lifecycle.run { run, world := (world, []) } es = some x) :
    x.run.state = .terminated ∧
      x.world.2.count .shutdown = (!startFailed x.world.2).toNat ∧
      x.run.pool.isShutDown = !startFailed x.world.2 ∧
      (startFailed x.world.2 = false → ∀ d context,
        x.run.pool.offer d context =
          (.refused (.shutDown x.run.pool.config.name), x.run.pool)) := by
  obtain ⟨life, hterminated⟩ := lifetime_run hpool hcreate hrun
  have hterminated := hterminated hshutdown
  have hclosed : x.run.pool.isShutDown = !startFailed x.world.2 := by
    rw [life.closed, decide_eq_true hterminated, Bool.true_and]
  refine ⟨hterminated, ?_, hclosed, fun hfine d context => ?_⟩
  · rw [life.shutdowns, hclosed]
  · exact WorkerPool.offer_of_isShutDown (by rw [hclosed, hfine]; rfl) d context

/-- A consumer with a pool of one thread, before it is started. -/
def unopened (c : Consumer Unit) : Workplace (Recorded Unit) where
  run :=
    { consumer := c.recorded, pool := { config := Workplace.narrow }
      desk := { permits := .full 10 } }
  world := ((), [])

/-- A delivery is worked on while the consumer runs, and one is offered when it was shut down
twice. -/
def season : List (Event Unit) :=
  [.start, .work (.receive Workplace.blank), .shutdown, .work (.work 1), .shutdown,
    .work (.receive Workplace.blank)]

/-- A consumer that is started and shut down, and is handed one more delivery. -/
theorem shutdown_unless_failed_season :
    WorkerPool.ofConfig Workplace.narrow = .ok (unopened Workplace.accepting).run.pool ∧
    ∃ x, Lifecycle.run (unopened Workplace.accepting) season = some x ∧
      x.world.2 = [.subscribe true, .listen, .start true, .shutdown] ∧
      x.run.desk.stats.dropped = 1 ∧ x.run.handling.length = 1 ∧
      x.run.pool.isShutDown = true ∧
      (x.run.pool.offer Workplace.blank .empty).1 = .refused (.shutDown "worker") := by
  have hpool : WorkerPool.ofConfig Workplace.narrow =
    .ok (unopened Workplace.accepting).run.pool := by rfl
  have hcreate : ConsumerRun.create Workplace.accepting.recorded
    (unopened Workplace.accepting).run.pool = .ok (unopened Workplace.accepting).run := by rfl
  have hseen : (Lifecycle.run (unopened Workplace.accepting) season).map
      (fun x => (x.world.2, x.run.desk.stats.dropped, x.run.handling.length,
        x.run.pool.config.name)) =
      some ([.subscribe true, .listen, .start true, .shutdown], 1, 1, "worker") := by
    decide +kernel
  obtain ⟨x, hrun, hx⟩ := Option.map_eq_some_iff.mp hseen
  simp only [Prod.mk.injEq] at hx
  obtain ⟨hcalls, hdropped, hhandling, hname⟩ := hx
  have hfine : startFailed x.world.2 = false := by
    rw [hcalls]
    rfl
  obtain ⟨-, -, hclosed, hrefused⟩ :=
    shutdown_unless_failed hpool hcreate () (by simp [season]) hrun
  refine ⟨hpool, x, hrun, hcalls, hdropped, hhandling, ?_, ?_⟩
  · rw [hclosed, hfine]
    rfl
  · rw [hrefused hfine, hname]

/-- A consumer of which the transport cannot be started. -/
def unstartable : Consumer Unit :=
  { Workplace.accepting with
    transport := { Workplace.accepting.transport with start := fun s => (.error "refused", s) } }

/-- **A consumer that could not be started outlives its shutdown.** The shutdown returns, but it has
shut down neither the transport nor the pool, which starts a worker with the next delivery. -/
theorem failed_start_outlives_shutdown :
    WorkerPool.ofConfig Workplace.narrow = .ok (unopened unstartable).run.pool ∧
    ConsumerRun.create unstartable.recorded (unopened unstartable).run.pool =
      .ok (unopened unstartable).run ∧
    ∃ x, Lifecycle.run (unopened unstartable) [.start, .shutdown] = some x ∧
      x.run.state = .terminated ∧ .shutdown ∉ x.world.2 ∧ x.run.pool.isShutDown = false ∧
      (x.run.pool.offer Workplace.blank .empty).1 = .started 1 :=
  ⟨rfl, rfl, _, rfl, rfl, by decide, rfl, rfl⟩

end Lifecycle

end KeyedDelivery
