import KeyedDelivery.Proofs.Consumer.Turns

/-!
# Every limit of retries is reached

Whatever the limit is, there is a run in which a message fails so often that it is given up.

* **`Reaches`** — the sessions that a deployment reaches while nobody else takes part in its group.
* **`step_work`**, **`step_ended`** — what the only worker of a consumer does.
* **`stubborn`** — a consumer whose handler accepts nothing.
* **`fails`**, **`asks`**, **`delivers`** — from one delivery of a message to the next.
* **`reaches_begun`** — so every delivery up to the limit is begun.
* **`gives_up`** — the last delivery.
-/

namespace KeyedDelivery

variable {ω : Type}

/-! ## Sessions that are reached -/

namespace Session

variable {x y : Session ω} {e : Event ω}

/-- The session after a list of events, if each is possible when it happens. -/
def after (x : Session ω) (es : List (Event ω)) : Option (Session ω) := es.foldlM step x

theorem after_cons (x : Session ω) (e : Event ω) (es : List (Event ω)) :
    x.after (e :: es) = (x.step e).bind (·.after es) :=
  List.foldlM_cons

/-- Whether nobody else asks or takes for a group in an event. -/
def Event.isAlone : Event ω → Bool
  | .others b => b.group?.isNone
  | _ => true

/-- When nobody else takes part, nobody else takes a message of the group. -/
theorem sharesBy_of_isAlone (h : e.isAlone = true) : x.sharesBy e = false := by
  cases e with
  | others b =>
    have hnone : b.group? = none := Option.isNone_iff_eq_none.mp h
    rw [sharesBy, hnone]
    rfl
  | _ => rfl

/-- The sessions that a deployment reaches while nobody else takes part in its group. -/
def Reaches (D : Deployment ω) (x : Session ω) : Prop :=
  ∃ l, Logbook.Reachable D l ∧ l.shared = false ∧ l.session = x

theorem Reaches.step {D : Deployment ω} (h : Reaches D x) (next : x.step e = some y)
    (halone : e.isAlone = true) : Reaches D y := by
  obtain ⟨l, reached, hshared, rfl⟩ := h
  refine ⟨l.extend e y, reached.step (Logbook.step_eq_some_iff.mpr ⟨y, next, rfl⟩), ?_, rfl⟩
  show (l.shared || l.session.sharesBy e) = false
  rw [hshared, sharesBy_of_isAlone halone]
  rfl

/-- What is reached goes on as long as nobody else takes part. -/
theorem Reaches.after {D : Deployment ω} {es : List (Event ω)} (h : Reaches D x)
    (hafter : x.after es = some y) (halone : ∀ e ∈ es, e.isAlone = true) : Reaches D y := by
  induction es generalizing x with
  | nil =>
    cases hafter
    exact h
  | cons e es ih =>
    rw [after_cons] at hafter
    obtain ⟨z, hz, hrest⟩ := Option.bind_eq_some_iff.mp hafter
    exact ih (h.step hz (halone e List.mem_cons_self)) hrest
      fun e' he' => halone e' (List.mem_cons_of_mem e he')

/-- The thread looks whether the client runs. -/
theorem step_look (hthread : x.thread = .polling) (hrunning : x.world.client.running = true) :
    x.step .look = some { x with thread := .taking false } := by
  simp [step, threadAfter, inner, hthread, hrunning, Workplace.step, Workplace.allows,
    Workplace.apply]

/-- It takes a batch, if there is one. -/
theorem step_take {again : Bool} {d : Delivery} {ds : List Delivery} {b : Broker}
    (hthread : x.thread = .taking again) (hbatch : x.batch? = some (d :: ds, b)) :
    x.step .take =
      some { x with world := x.world.withBroker b, thread := .handing (d :: ds) } := by
  simp [step, threadAfter, inner, hthread, hbatch, Workplace.step, Workplace.allows, Workplace.apply]

end Session

/-- The only message on the schedule becomes due. -/
theorem Broker.promoteDue_singleton {b : Broker} {s : Scheduled} {now : Nat}
    (h : b.scheduled = [s]) (hdue : s.due ≤ now) :
    b.promoteDue now = { b with scheduled := [] }.promote s := by
  simp [promoteDue, h, hdue]

namespace Session

/-! ## The only worker -/

section Work

variable {x : Session ω} {context : LogContext} {j : Job Delivery} {guard : LogContext.Guard} {stage stage' : Stage}
  {desk : Desk} {s : Site ω} {outcome : Outcome Unit}

/-- The only worker takes its delivery to another stage. -/
theorem step_work (hworkers : x.run.pool.workers = [⟨1, context, some (j, guard)⟩])
    (hstages : x.run.stages = [(j.number, stage)])
    (hadvance : x.run.consumer.advance j.task stage x.run.desk x.world = (.at stage', desk, s)) :
    x.step (.work 1) = some { x with
      run := { x.run with desk, stages := [(j.number, stage')] }
      world := s } := by
  have hmoved : x.run.advanceWorker 1 x.world =
      (true, { x.run with desk, stages := [(j.number, stage')] }, s) := by
    simp [ConsumerRun.advanceWorker, WorkerPool.worker?, hworkers, ConsumerRun.advanceJob, hstages,
      Table.find?, hadvance, Table.put]
  simp [step, threadAfter, inner, Workplace.step, Workplace.allows, Workplace.apply, hmoved]

/-- The job of the only worker ends, and leaves no stage behind. -/
theorem step_ended (hworkers : x.run.pool.workers = [⟨1, context, some (j, guard)⟩])
    (hstages : x.run.stages = [(j.number, stage)])
    (hadvance : x.run.consumer.advance j.task stage x.run.desk x.world = (.ended outcome, desk, s)) :
    x.step (.work 1) = some { x with
      run := { x.run with desk, stages := [], pool := x.run.pool.finish 1 outcome }
      world := s } := by
  have hmoved : x.run.advanceWorker 1 x.world =
      (true, { x.run with desk, stages := [], pool := x.run.pool.finish 1 outcome }, s) := by
    simp [ConsumerRun.advanceWorker, WorkerPool.worker?, hworkers, ConsumerRun.advanceJob, hstages,
      Table.find?, hadvance, Table.erase]
  simp [step, threadAfter, inner, Workplace.step, Workplace.allows, Workplace.apply, hmoved]

end Work

end Session

/-! ## Failures of the in-memory client -/

/-- A failure below the limit is asked for again. -/
theorem Deployment.advance_requested (D : Deployment ω) {d : Delivery} {s : Site ω}
    (hlt : d.reconsumed < D.config.maxRetryTimes) (hopen : s.client.isShutDown = false)
    (reason : String) (k : Desk) :
    D.consumer.advance d (.failing reason) k s =
      (.at (.leaving (.returned ())), { k with stats := { k.stats with retried := k.stats.retried + 1 } },
        s.react d (.requested (.forRetry d.reconsumed))) := by
  unfold Consumer.advance Consumer.afterFailure
  rw [decide_eq, if_pos hlt]
  simp [consumer, Site.transport, ConsumerTransport.inMemory, ConsumerClient.reconsumeLater, hopen,
    Except.mapError, Site.react, Site.withBroker]

/-- At the limit a failed delivery goes to the sink. -/
theorem Deployment.advance_gaveUp (D : Deployment ω) {d : Delivery} {s : Site ω}
    (hge : ¬ d.reconsumed < D.config.maxRetryTimes) (reason : String) {sink : Sink ω} {own : ω}
    (hsink : D.sink = some sink) (hletter : sink (.ofDelivery d reason) s.own = (.returned (), own))
    (k : Desk) :
    D.consumer.advance d (.failing reason) k s =
      (.at (.leaving (.returned ())),
        { k with stats := { k.stats with
          exhausted := k.stats.exhausted + 1, deadLettered := k.stats.deadLettered + 1 } },
        { s with own, letters := s.letters ++ [.ofDelivery d reason] }) := by
  unfold Consumer.advance Consumer.afterFailure
  rw [decide_eq, if_neg hge]
  simp [consumer, Consumer.giveUp, hsink, Site.sink, hletter]

/-! ## A handler that accepts nothing -/

/-- A consumer whose handler accepts nothing, with a limit of retries and a sink. -/
def stubborn (limit : UInt32) : Deployment Unit where
  config := { maxRetryTimes := limit }
  pool := {}
  broker := { name := "b", queuesPerTopic := 1 }
  group := "g"
  handler := .ofProcess fun _ s => (.returned (.ok false), s)
  sink := some fun _ s => (.returned (), s)

namespace Stubborn

def topic : String := "package-bind-op-topic"

def message : Message := ⟨topic, "", "", [], .immediate⟩

/-- Delivery number `n` of the message. -/
def attempt (n : Nat) : Delivery :=
  ⟨.timeOrdered (Time.toMillis 0) 0, message, ⟨topic, "b", 0⟩, 0, UInt32.ofNat n⟩

/-- What is left of earlier deliveries. -/
structure Past where
  now : Nat := 0
  redeliveries : List Redelivery := []
  fates : Table Nat (Except TaskError Unit) := []

/-- The session in which delivery number `n` is at a stage. -/
def handling (limit : UInt32) (n : Nat) (p : Past) (stage : Stage) (desk : Desk) : Session Unit where
  run :=
    { consumer := (stubborn limit).consumer
      pool :=
        { config := {}
          workers := [{ number := 1, running := some (⟨n, attempt n, .empty⟩, ⟨{}⟩) }]
          threads := 1
          active := 1
          started := 1
          largest := 1
          unawaited := [1]
          submitted := n + 1
          completed := n
          fates := p.fates }
      state := .running
      desk
      stages := [(n, stage)] }
  world :=
    { broker :=
        { config := (stubborn limit).broker
          topics := [(topic, [⟨1, [attempt 0]⟩])]
          groups := [("g", { cursors := [(topic, [1])] })]
          redeliveries := p.redeliveries
          sent := 1 }
      client := ⟨"g", some ⟨topic, .all⟩, true, true, false⟩
      now := p.now
      own := () }
  thread := .polling

/-- The delivery has begun; those before have failed. -/
def begun (limit : UInt32) (n : Nat) (p : Past) : Session Unit :=
  handling limit n p .waiting
    { stats := { received := n + 1, failed := n, retried := n }, permits := ⟨10, 10⟩ }

/-- The delivery has failed, and nothing was done about it yet. -/
def failed (limit : UInt32) (n : Nat) (p : Past) : Session Unit :=
  handling limit n p (.failing "processing returned false")
    { stats := { received := n + 1, failed := n + 1, retried := n }, permits := ⟨10, 9⟩ }

/-- **A delivery fails**: the five stages up to the verdict, with no handler that accepts it. -/
theorem fails (limit : UInt32) (n : Nat) (p : Past) :
    (begun limit n p).after [.work 1, .work 1, .work 1, .work 1, .work 1] =
      some (failed limit n p) := by
  -- the permit, the three hooks and the verdict
  rw [Session.after_cons, Session.step_work rfl rfl rfl, Option.bind_some]
  rw [Session.after_cons, Session.step_work rfl rfl rfl, Option.bind_some]
  rw [Session.after_cons, Session.step_work rfl rfl rfl, Option.bind_some]
  rw [Session.after_cons, Session.step_work rfl rfl rfl, Option.bind_some]
  rw [Session.after_cons, Session.step_work rfl rfl rfl, Option.bind_some]
  rfl

/-- Delivery number `n` is scheduled. -/
def resting (limit : UInt32) (n due : Nat) (p : Past) : Session Unit where
  run :=
    { consumer := (stubborn limit).consumer
      pool :=
        { config := {}
          workers := [{ number := 1 }]
          threads := 1
          started := 1
          largest := 1
          unawaited := [1]
          submitted := n
          completed := n
          fates := p.fates }
      state := .running
      desk := { stats := { received := n, failed := n, retried := n }, permits := ⟨10, 10⟩ } }
  world :=
    { broker :=
        { config := (stubborn limit).broker
          topics := [(topic, [⟨1, [attempt 0]⟩])]
          groups := [("g", { cursors := [(topic, [1])] })]
          scheduled := [⟨due, some "g", attempt n⟩]
          redeliveries := p.redeliveries
          sent := 1 }
      client := ⟨"g", some ⟨topic, .all⟩, true, true, false⟩
      now := p.now
      own := () }
  thread := .polling

/-- Below the limit the next delivery has one count more. -/
theorem lt_limit {limit : UInt32} {n : Nat} (h : n < limit.toNat) :
    (attempt n).reconsumed < limit ∧ (attempt n).again = attempt (n + 1) := by
  have hmax : limit.toNat < UInt32.size := limit.toNat_lt
  have hsize : UInt32.size = 4294967296 := rfl
  have hcount : (UInt32.ofNat n).toNat = n := UInt32.toNat_ofNat_of_lt' (by omega)
  have hnext : (UInt32.ofNat (n + 1)).toNat = n + 1 := UInt32.toNat_ofNat_of_lt' (by omega)
  -- the count is below the limit, and so below the greatest one
  have hagain : DelayLevel.increment (UInt32.ofNat n) = UInt32.ofNat (n + 1) := by
    refine UInt32.toNat_inj.mp ?_
    rw [DelayLevel.toNat_increment, hcount, hnext, if_neg (by omega)]
  constructor
  · rw [UInt32.lt_iff_toNat_lt]
    show (UInt32.ofNat n).toNat < limit.toNat
    rwa [hcount]
  · show { attempt n with reconsumed := DelayLevel.increment (UInt32.ofNat n) } = attempt (n + 1)
    rw [hagain]
    rfl

/-- Below the limit the delivery is asked for again. -/
theorem asks {limit : UInt32} {n : Nat} (h : n < limit.toNat) (p : Past) :
    ∃ due p', (failed limit n p).after [.work 1, .work 1] = some (resting limit (n + 1) due p') := by
  obtain ⟨hlt, hagain⟩ := lt_limit h
  refine ⟨p.now + DelayTable.duration .standard (.forRetry (attempt n).reconsumed),
    { p with
      redeliveries := p.redeliveries ++ [⟨"g", (attempt n).id, "", (attempt n).again.reconsumed,
        .forRetry (attempt n).reconsumed⟩]
      fates := p.fates.put n (.ok ()) }, ?_⟩
  -- the verdict is answered with a request, and then the job ends
  have hrequested := (stubborn limit).advance_requested (s := (failed limit n p).world) hlt rfl
    "processing returned false" (failed limit n p).run.desk
  rw [Session.after_cons, Session.step_work rfl rfl hrequested, Option.bind_some]
  rw [Session.after_cons, Session.step_ended rfl rfl rfl, Option.bind_some]
  unfold resting
  rw [← hagain]
  rfl

/-- When the copy is due, it is the next batch. -/
theorem takeBatch_resting (limit : UInt32) (n due : Nat) (p : Past) :
    (resting limit n due p).world.broker.takeBatch due topic "g" .all =
      ([attempt n], (begun limit n p).world.broker) := by
  rw [Broker.takeBatch, Broker.promoteDue_singleton rfl (Nat.le_refl due)]
  rfl

/-- What is scheduled is delivered. -/
theorem delivers (limit : UInt32) (n due : Nat) (p : Past) :
    (resting limit n due p).after [.clock due, .look, .take, .offer, .answer, .pick 1] =
      some (begun limit n { p with now := due }) := by
  set x : Session Unit := resting limit n due { p with now := due } with hx
  have hclock : (resting limit n due p).step (.clock due) = some x := rfl
  have hlook : x.step .look = some { x with thread := .taking false } := Session.step_look rfl rfl
  have htake : Session.step { x with thread := .taking false } .take = some { x with
      world := x.world.withBroker (begun limit n p).world.broker, thread := .handing [attempt n] } :=
    Session.step_take rfl (congrArg some (takeBatch_resting limit n due p))
  -- the copy is due, so that the thread finds it at once and the idle worker takes it
  rw [Session.after_cons, hclock, Option.bind_some, Session.after_cons, hlook, Option.bind_some,
    Session.after_cons, htake, Option.bind_some]
  rfl

/-- The broker with its topic and so many accepted messages in the only queue. -/
def stocked (limit : UInt32) (log : List Delivery) : Broker :=
  { config := (stubborn limit).broker, topics := [(topic, [⟨log.length, log⟩])], sent := log.length }

/-- The consumer is started, subscribed with a filter, and has received nothing. -/
def started (limit : UInt32) (filter : TagFilter) (b : Broker) (thread : DeliveryThread) :
    Session Unit where
  run :=
    { consumer := (stubborn limit).consumer
      pool := { config := {} }
      state := .running
      desk := { permits := .full 10 } }
  world :=
    { broker := b
      client := ⟨"g", some ⟨topic, filter⟩, true, true, false⟩
      own := () }
  thread

/-- The settings are accepted, whatever the limit is. -/
theorem config_valid (limit : UInt32) : (stubborn limit).config.validate = .ok () := by
  have hgroup : isFilled "package-bind-op-consumer-group" = true := rfl
  have htopic : isFilled "package-bind-op-topic" = true := rfl
  simp [stubborn, ConsumerConfig.validate, ConfigError.unless, hgroup, htopic]
  rfl

/-- The logbook of the consumer in the beginning. -/
def unused (limit : UInt32) : Logbook Unit where
  session :=
    { run :=
        { consumer := (stubborn limit).consumer, pool := { config := {} }
          desk := { permits := .full 10 } }
      world := (stubborn limit).site () }

/-- A session that has not begun is reached. -/
theorem unused_reachable (limit : UInt32) : Logbook.Reachable (stubborn limit) (unused limit) := by
  have hpool : WorkerPool.ofConfig ({} : PoolConfig) =
      .ok ({ config := {} } : WorkerPool Delivery Unit) := rfl
  have hcreate : ConsumerRun.create (stubborn limit).consumer { config := {} } =
      .ok (unused limit).session.run := by
    have hvalid : (stubborn limit).consumer.config.validate = .ok () := config_valid limit
    rw [ConsumerRun.create, hvalid]
    rfl
  exact .start () hpool hcreate

/-- The first delivery is begun. -/
theorem reaches_first (limit : UInt32) : (begun limit 0 {}).Reaches (stubborn limit) := by
  have fresh : (unused limit).session.Reaches (stubborn limit) :=
    ⟨unused limit, unused_reachable limit, rfl, rfl⟩
  have hstart : (unused limit).session.step .start =
      some (started limit (.parse "*") (stocked limit []) .polling) := rfl
  have hparse : TagFilter.parse "*" = .all := rfl
  rw [hparse] at hstart
  -- the consumer starts, the message is accepted, the thread takes it and hands it over
  have haccept : (started limit .all (stocked limit []) .polling).step
      (.others (.accept 0 message ⟨topic, "b", 0⟩)) =
        some (started limit .all (stocked limit [attempt 0]) .polling) := rfl
  have hbatch : (stocked limit [attempt 0]).takeBatch 0 topic "g" .all =
      ([attempt 0], (begun limit 0 {}).world.broker) := rfl
  have hoffer : (started limit .all (begun limit 0 {}).world.broker (.handing [attempt 0])).after
      [.offer, .answer] = some (begun limit 0 {}) := rfl
  have accepted := (fresh.step hstart rfl).step haccept rfl
  have taken := (accepted.step (Session.step_look rfl rfl) rfl).step
    (Session.step_take rfl (congrArg some hbatch)) rfl
  exact taken.after hoffer (by decide)

/-- **Every delivery up to the limit is begun.** -/
theorem reaches_begun (limit : UInt32) {n : Nat} (h : n ≤ limit.toNat) :
    ∃ p, (begun limit n p).Reaches (stubborn limit) := by
  induction n with
  | zero => exact ⟨{}, reaches_first limit⟩
  | succ n ih =>
    -- delivery `n` fails, is asked for again, and is delivered as soon as it is due
    obtain ⟨p, reached⟩ := ih (Nat.le_of_succ_le h)
    have failed := reached.after (fails limit n p) (by decide)
    obtain ⟨due, p', hasks⟩ := asks h p
    have asked := failed.after hasks (by decide)
    exact ⟨_, asked.after (delivers limit (n + 1) due p') (by simp [Session.Event.isAlone])⟩

def letter (limit : UInt32) : DeadLetter :=
  ⟨attempt limit.toNat, "processing returned false", DelayLevel.increment limit⟩

/-- **Every limit is reached.** Whatever the limit is, there is a run in which nothing is lost and the
delivery with this count is given up. -/
theorem gives_up (limit : UInt32) :
    ∃ l, Logbook.Reachable (stubborn limit) l ∧ l.Undisturbed ∧
      l.session.world.letters = [letter limit] := by
  obtain ⟨p, reached⟩ := reaches_begun limit (Nat.le_refl limit.toNat)
  -- the delivery whose count is the limit
  have hcount : (attempt limit.toNat).reconsumed = limit := UInt32.ofNat_toNat
  have hgaveUp := (stubborn limit).advance_gaveUp (s := (failed limit limit.toNat p).world)
    (d := attempt limit.toNat) (by rw [hcount]; exact UInt32.lt_irrefl limit)
    "processing returned false" rfl rfl (failed limit limit.toNat p).run.desk
  have hstep := Session.step_work (x := failed limit limit.toNat p) rfl rfl hgaveUp
  have given := (reached.after (fails limit limit.toNat p) (by decide)).step hstep rfl
  obtain ⟨l, hreachable, hshared, hsession⟩ := given
  refine ⟨l, hreachable, ⟨?_, ?_, ?_, hshared⟩, ?_⟩
  · rw [hsession]
    rfl
  · rw [hsession]
    rfl
  · rw [hsession]
    rfl
  · rw [hsession]
    show [DeadLetter.ofDelivery (attempt limit.toNat) "processing returned false"] = [letter limit]
    rw [DeadLetter.ofDelivery, hcount]
    rfl

end Stubborn

end KeyedDelivery
