import KeyedDelivery.Producer.Pooled
import KeyedDelivery.Proofs.Pool.Lone

/-!
# Sends through one worker are made in order

The sends that a producer with a pool was asked for are made later, by a worker. With one worker they
are made one after the other, in the order of the requests. So there is always a producer that sends
at once and has come to the same world: it was asked for the same, up to the sends that are still
waiting, and the same has happened to its world in between.

* **`Matches`** — such a producer, with the requests that are still waiting; among these the valid ones
  are the backlog of the pool.
* **`Matches.step`** — every step that finds room keeps this, and so does a run (`Matches.run`).
* **`Matches.all`** — once the pool is idle, nothing is waiting any more.
* **`run_rest`** — letting the pool rest is a run of its workers, after which it is idle.
-/

namespace KeyedDelivery

variable {σ η : Type}

namespace SendRequest

variable {a : SendRequest}

/-- A request that is valid makes the message it stands for. -/
theorem create_of_valid {m : Message} (h : a.message? = some m) :
    Producer.createMessage a.topic a.tag a.key a.body a.delay = .ok m := by
  unfold message? at h
  cases hcreate : Producer.createMessage a.topic a.tag a.key a.body a.delay with
  | error e => rw [hcreate] at h; cases h
  | ok m' => rw [hcreate] at h; cases h; rfl

/-- One that is not is refused when the message is made. -/
theorem create_of_invalid (h : a.message? = none) :
    ∃ e, Producer.createMessage a.topic a.tag a.key a.body a.delay = .error e := by
  unfold message? at h
  cases hcreate : Producer.createMessage a.topic a.tag a.key a.body a.delay with
  | error e => exact ⟨e, rfl⟩
  | ok m => rw [hcreate] at h; cases h

end SendRequest

namespace Producer

variable {p : Producer σ η} {s : σ} {a : SendRequest}

theorem requests_append (ds ds' : List (Event σ)) :
    requests (ds ++ ds') = requests ds ++ requests ds' :=
  List.filterMap_append

theorem besides_append (ds ds' : List (Event σ)) :
    besides (ds ++ ds') = besides ds ++ besides ds' :=
  List.filterMap_append

theorem requests_sends (l : List SendRequest) : requests (l.map (Event.send (σ := σ))) = l :=
  List.filterMap_map.trans List.filterMap_some

theorem besides_sends (l : List SendRequest) : besides (l.map (Event.send (σ := σ))) = [] :=
  List.filterMap_map.trans (List.filterMap_eq_nil_iff.mpr fun _ _ => rfl)

theorem run_append (p : Producer σ η) (s : σ) (ds ds' : List (Event σ)) :
    p.run s (ds ++ ds') = p.run (p.run s ds) ds' :=
  List.foldl_append

/-- An invalid request changes nothing. -/
theorem step_of_invalid (h : a.message? = none) : p.step s (.send a) = s := by
  obtain ⟨e, hcreate⟩ := SendRequest.create_of_invalid h
  simp only [step, sendSync, hcreate]

/-- The message of a valid request is sent. -/
theorem step_of_valid {m : Message} (h : a.message? = some m) :
    p.step s (.send a) = (p.dispatch m s).2 := by
  simp only [step, sendSync, SendRequest.create_of_valid h]

/-- A request that makes no message leaves the world. -/
theorem run_of_invalid {l : List SendRequest} (h : ∀ a ∈ l, a.message? = none) :
    p.run s (l.map .send) = s := by
  induction l with
  | nil => rfl
  | cons a l ih =>
    obtain ⟨hfirst, hrest⟩ := List.forall_mem_cons.mp h
    show p.run (p.step s (.send a)) (l.map .send) = s
    rw [step_of_invalid hfirst, ih hrest]

end Producer

namespace ProducerRun

open WorkerPool (Reachable Lone)

variable {p : Producer σ η} {s : σ} {c : PoolConfig} {es : List (Event σ)}
  {r r' : ProducerRun σ η}

/-- Whether an event is a valid request that finds the pool saturated. -/
def findsSaturated (r : ProducerRun σ η) : Event σ → Bool
  | .send _ a => a.message?.isSome && r.pool.any fun pool => pool.Saturated
  | _ => false

/-- Whether no valid request of a run finds the pool saturated. -/
def neverSaturated (r : ProducerRun σ η) : List (Event σ) → Bool
  | [] => true
  | e :: es => !r.findsSaturated e && (r.step e).all fun r' => r'.neverSaturated es

/-! ## Requests -/

theorem requests_append (es es' : List (Event σ)) :
    requests (es ++ es') = requests es ++ requests es' :=
  List.filterMap_append

theorem besides_append (es es' : List (Event σ)) :
    besides (es ++ es') = besides es ++ besides es' :=
  List.filterMap_append

/-- An invalid request is dropped. -/
theorem sendAsync_of_invalid {a : SendRequest} (h : a.message? = none) (context : LogContext) :
    r.sendAsync context a.topic a.tag a.key a.body a.delay = r := by
  obtain ⟨e, hcreate⟩ := SendRequest.create_of_invalid h
  simp only [sendAsync, hcreate]

/-- The message of a valid request is handed on. -/
theorem sendAsync_of_valid {a : SendRequest} {m : Message} (h : a.message? = some m)
    (context : LogContext) :
    r.sendAsync context a.topic a.tag a.key a.body a.delay = r.sendMessageAsync context m := by
  simp only [sendAsync, SendRequest.create_of_valid h]

/-- A message that the pool does not give back is not sent yet. -/
theorem sendMessageAsync_of_taken {pool : WorkerPool Message Unit} {m : Message}
    {context : LogContext} (hpool : r.pool = some pool)
    (htaken : ∀ n, (pool.offer m context).1 ≠ .toCaller n) :
    r.sendMessageAsync context m = { r with pool := some (pool.offer m context).2 } := by
  -- all other places are treated alike
  simp only [sendMessageAsync, hpool]

/-! ## Steps -/

/-- A producer that sends at once, from a world `s`, has come to the world of a producer with a pool
after some events. -/
structure Matches (p : Producer σ η) (s : σ) (c : PoolConfig) (es : List (Event σ))
    (r : ProducerRun σ η) (pool : WorkerPool Message Unit) (ds : List (Producer.Event σ))
    (waiting : List SendRequest) : Prop where
  producer : r.producer = p
  hasPool : r.pool = some pool
  reached : Reachable c pool
  isOpen : pool.isShutDown = false
  requests : Producer.requests ds ++ waiting = requests es
  besides : Producer.besides ds = besides es
  world : p.run s ds = r.world
  /-- The valid requests that are waiting are the backlog of the pool. -/
  waiting : waiting.filterMap SendRequest.message? = pool.backlog.map (·.task)

section Step

variable {pool : WorkerPool Message Unit} {ds : List (Producer.Event σ)}
  {waiting : List SendRequest}

/-- An event of the pool that leaves its backlog as it is. -/
theorem Matches.poolStep (h : Matches p s c es r pool ds waiting) {e : Event σ}
    {pe : WorkerPool.Event Message Unit} (hstep : r.poolStep pe = some r')
    (hsilent : ProducerRun.requests [e] = [] ∧ ProducerRun.besides [e] = [])
    (hkept : ∀ {q}, pool.step pe = some q →
      q.isShutDown = pool.isShutDown ∧ q.backlog = pool.backlog) :
    ∃ pool, Matches p s c (es ++ [e]) r' pool ds waiting := by
  unfold ProducerRun.poolStep at hstep
  rw [h.hasPool, Option.bind_some] at hstep
  obtain ⟨q, hq, rfl⟩ := Option.map_eq_some_iff.mp hstep
  obtain ⟨hopen, hbacklog⟩ := hkept hq
  -- the same producer and the same waiting requests, as the backlog is the same
  exact ⟨q, {
    producer := h.producer
    hasPool := rfl
    reached := h.reached.step hq
    isOpen := hopen.trans h.isOpen
    requests := by rw [requests_append, hsilent.1, List.append_nil, h.requests]
    besides := by rw [besides_append, hsilent.2, List.append_nil, h.besides]
    world := h.world
    waiting := by rw [hbacklog, h.waiting] }⟩

variable (lone : Lone pool) (hmax : pool.config.maxSize = 1)

include lone hmax in
/-- A request that comes while the pool is not saturated waits. -/
theorem Matches.send (h : Matches p s c es r pool ds waiting) (context : LogContext)
    (a : SendRequest) (hroom : a.message?.isSome → ¬ pool.Saturated) :
    ∃ pool, Matches p s c (es ++ [.send context a])
      (r.sendAsync context a.topic a.tag a.key a.body a.delay) pool ds (waiting ++ [a]) := by
  -- the request is one more on both sides, and nothing happened beside it
  have hrequests : Producer.requests ds ++ (waiting ++ [a]) =
      ProducerRun.requests (es ++ [.send context a]) := by
    rw [requests_append, ← h.requests, List.append_assoc]
    rfl
  have hbesides : Producer.besides ds = ProducerRun.besides (es ++ [.send context a]) := by
    rw [besides_append, h.besides]
    exact (List.append_nil _).symm
  cases hmessage : a.message? with
  | none =>
    rw [sendAsync_of_invalid hmessage]
    refine ⟨pool, { h with requests := hrequests, besides := hbesides, waiting := ?_ }⟩
    rw [List.filterMap_append, h.waiting]
    simp [hmessage]
  | some m =>
    -- the pool has room, so the message is at the end of the backlog
    obtain ⟨htaken, hopen, hbacklog⟩ :=
      WorkerPool.backlog_offer lone hmax h.isOpen (hroom (by simp [hmessage])) m context
    rw [sendAsync_of_valid hmessage, sendMessageAsync_of_taken h.hasPool htaken]
    exact ⟨_, {
      producer := h.producer
      hasPool := rfl
      reached := h.reached.step (e := .offer m context) rfl
      isOpen := hopen
      requests := hrequests
      besides := hbesides
      world := h.world
      waiting := by rw [List.filterMap_append, h.waiting, hbacklog]; simp [hmessage] }⟩

include lone in
/-- **The worker makes the first of the sends that are waiting**, and those before it were
invalid. -/
theorem Matches.work (h : Matches p s c es r pool ds waiting) {n : Nat}
    (hstep : r.work n = some r') :
    ∃ pool ds waiting, Matches p s c (es ++ [.work n]) r' pool ds waiting := by
  unfold ProducerRun.work at hstep
  rw [h.hasPool] at hstep
  obtain ⟨w, hfound, hrest⟩ := Option.bind_eq_some_iff.mp hstep
  obtain ⟨⟨j, guard⟩, hrunning, rfl⟩ := Option.map_eq_some_iff.mp hrest
  -- how the send ended is told to the pool, and plays no part in what is left for it
  let outcome := (sendTask r.producer j.task w.context r.world).1
  have hfinish : pool.step (.finish n outcome) = some (pool.finish n outcome) := by
    refine WorkerPool.step_eq_some_iff.mpr ⟨?_, rfl⟩
    simp [WorkerPool.allows, WorkerPool.hasBusy, hfound, Worker.isIdle, hrunning]
  obtain ⟨hopen, hbacklog⟩ := WorkerPool.backlog_finished lone
    (WorkerPool.transition_of_step lone.sound hfinish) hfound hrunning
  -- the job at the head of the backlog is the first valid request that waits
  have hwaiting := h.waiting
  rw [hbacklog, List.map_cons] at hwaiting
  obtain ⟨invalid, a, later, rfl, hinvalid, hmessage, hlater⟩ :=
    List.filterMap_eq_cons_iff.mp hwaiting
  refine ⟨_, ds ++ (invalid ++ [a]).map .send, later, {
    producer := h.producer
    hasPool := rfl
    reached := h.reached.step hfinish
    isOpen := hopen.trans h.isOpen
    requests := ?_
    besides := ?_
    world := ?_
    waiting := hlater }⟩
  · rw [Producer.requests_append, Producer.requests_sends, requests_append, ← h.requests]
    simp [ProducerRun.requests]
  · rw [Producer.besides_append, Producer.besides_sends, besides_append, h.besides]
    rfl
  · rw [List.map_append, Producer.run_append, Producer.run_append, h.world,
      Producer.run_of_invalid hinvalid]
    show p.step r.world (.send a) = _
    rw [Producer.step_of_valid hmessage, ← h.producer]
    rfl

/-- Whatever happens to the world happens to both. -/
theorem Matches.elsewhere (h : Matches p s c es r pool ds waiting) (f : σ → σ) :
    Matches p s c (es ++ [.elsewhere f]) { r with world := f r.world } pool
      (ds ++ [.elsewhere f]) waiting := by
  refine { h with requests := ?_, besides := ?_, world := ?_ }
  · rw [Producer.requests_append, requests_append, ← h.requests]
    simp [Producer.requests, ProducerRun.requests]
  · rw [Producer.besides_append, besides_append, h.besides]
    rfl
  · rw [Producer.run_append, h.world]
    rfl

end Step

/-! ## Runs -/

/-- The start of a run is the start of both. -/
theorem Matches.start (valid : c.validate = .ok ()) {pool : WorkerPool Message Unit}
    (hpool : r.pool = some pool) (reached : Reachable c pool) (isOpen : pool.isShutDown = false)
    (hidle : pool.isIdle = true) : Matches r.producer r.world c [] r pool [] [] where
  producer := rfl
  hasPool := hpool
  reached := reached
  isOpen := isOpen
  requests := rfl
  besides := rfl
  world := rfl
  waiting := by
    rw [WorkerPool.backlog_of_isIdle (WorkerPool.sound_of_reachable valid reached) hidle]
    rfl

/-- Every step that finds room keeps the two together. -/
theorem Matches.step (valid : c.validate = .ok ()) (hcore : c.coreSize = 1) (hmax : c.maxSize = 1)
    {pool : WorkerPool Message Unit} {ds : List (Producer.Event σ)} {waiting : List SendRequest}
    (h : Matches p s c es r pool ds waiting) {e : Event σ} (hstep : r.step e = some r')
    (hroom : r.findsSaturated e = false) :
    ∃ pool ds waiting, Matches p s c (es ++ [e]) r' pool ds waiting := by
  have lone := WorkerPool.lone_of_reachable valid hcore hmax h.reached
  cases e with
  | send context a =>
    cases hstep
    have hunsaturated : a.message?.isSome → ¬ pool.Saturated := by
      simpa [findsSaturated, h.hasPool] using hroom
    obtain ⟨pool', h'⟩ := h.send lone ((WorkerPool.config_of_reachable valid h.reached) ▸ hmax)
      context a hunsaturated
    exact ⟨pool', ds, waiting ++ [a], h'⟩
  -- a worker that takes a job or leaves does not change the backlog
  | pick n =>
    obtain ⟨pool', h'⟩ := h.poolStep (e := .pick n) hstep ⟨rfl, rfl⟩ fun hq =>
      WorkerPool.backlog_picked lone (WorkerPool.transition_of_step lone.sound hq)
    exact ⟨pool', ds, waiting, h'⟩
  | work n => exact h.work lone hstep
  | retire n =>
    obtain ⟨pool', h'⟩ := h.poolStep (e := .retire n) hstep ⟨rfl, rfl⟩ fun hq =>
      WorkerPool.backlog_retired (WorkerPool.transition_of_step lone.sound hq)
    exact ⟨pool', ds, waiting, h'⟩
  | elsewhere f =>
    cases hstep
    exact ⟨pool, _, waiting, h.elsewhere f⟩

/-- **Through one worker, a producer makes the sends in order.** A run in which the pool is never
saturated comes to the world that a producer comes to which sends at once; induction on the events
that are left. -/
theorem Matches.run (valid : c.validate = .ok ()) (hcore : c.coreSize = 1) (hmax : c.maxSize = 1)
    {pool : WorkerPool Message Unit} {ds : List (Producer.Event σ)} {waiting : List SendRequest}
    (h : Matches p s c es r pool ds waiting) {later : List (Event σ)}
    (hrun : r.run later = some r') (hroom : r.neverSaturated later = true) :
    ∃ pool ds waiting, Matches p s c (es ++ later) r' pool ds waiting := by
  induction later generalizing es r pool ds waiting with
  | nil =>
    cases hrun
    exact ⟨pool, ds, waiting, by rwa [List.append_nil]⟩
  | cons e later ih =>
    rw [ProducerRun.run, List.foldlM_cons] at hrun
    obtain ⟨q, hstep, hrest⟩ := Option.bind_eq_some_iff.mp hrun
    -- room is needed at every step, so the condition is read along with the run
    rw [neverSaturated, hstep, Option.all_some, Bool.and_eq_true, Bool.not_eq_true'] at hroom
    obtain ⟨pool', ds', waiting', h'⟩ := h.step valid hcore hmax hstep hroom.1
    rw [List.append_cons]
    exact ih h' hrest hroom.2

/-- Once the pool is idle, no valid request is waiting, and all can be made at once. -/
theorem Matches.all {pool : WorkerPool Message Unit} {ds : List (Producer.Event σ)}
    {waiting : List SendRequest} (h : Matches p s c es r pool ds waiting)
    (valid : c.validate = .ok ()) (hidle : r.isIdle = true) :
    ∃ ds, Producer.requests ds = ProducerRun.requests es ∧
      Producer.besides ds = ProducerRun.besides es ∧ p.run s ds = r.world := by
  have hpool : pool.isIdle = true := by
    rw [ProducerRun.isIdle, h.hasPool] at hidle
    exact hidle
  -- an idle pool has no backlog, so what is waiting makes no message
  have hwaiting := h.waiting
  rw [WorkerPool.backlog_of_isIdle (WorkerPool.sound_of_reachable valid h.reached) hpool,
    List.map_nil, List.filterMap_eq_nil_iff] at hwaiting
  refine ⟨ds ++ waiting.map .send, ?_, ?_, ?_⟩
  · rw [Producer.requests_append, Producer.requests_sends, h.requests]
  · rw [Producer.besides_append, Producer.besides_sends, List.append_nil, h.besides]
  · rw [Producer.run_append, Producer.run_of_invalid hwaiting, h.world]

/-! ## Rest -/

/-- What happens by itself to a pool of an open producer is a step of a worker. -/
theorem step_of_served {pool : WorkerPool Message Unit} (hpool : r.pool = some pool)
    (isOpen : pool.isShutDown = false) {next : WorkerPool Message Unit × σ}
    (h : WorkerPool.Served (sendTask r.producer) pool r.world next) :
    ∃ e, requests [e] = [] ∧ besides [e] = [] ∧
      r.step e = some { r with pool := some next.1, world := next.2 } := by
  cases h with
  | @finished w j guard found running hstep =>
    refine ⟨.work w.number, rfl, rfl, ?_⟩
    simp only [step, work, hpool, found, running, Option.bind_some, Option.map_some]
  | picked n hstep =>
    refine ⟨.pick n, rfl, rfl, ?_⟩
    simp only [step, poolStep, hpool, Option.bind_some, hstep, Option.map_some]
  -- no worker leaves while the pool is open
  | left n closed hstep =>
    rw [isOpen] at closed
    cases closed

/-- Letting the workers go on for some time is a run; induction on the time. -/
theorem run_serveSteps (valid : c.validate = .ok ()) (n : Nat) {pool : WorkerPool Message Unit}
    (hpool : r.pool = some pool) (reached : Reachable c pool) (isOpen : pool.isShutDown = false) :
    let served := pool.serveSteps (sendTask r.producer) n r.world
    Reachable c served.1 ∧ ∃ es, requests es = [] ∧ besides es = [] ∧
      r.run es = some { r with pool := some served.1, world := served.2 } := by
  have hstay : r.run [] = some { r with pool := some pool, world := r.world } := by
    rw [← hpool]
    rfl
  induction n generalizing r pool with
  | zero => exact ⟨reached, [], rfl, rfl, hstay⟩
  | succ n ih =>
    rw [WorkerPool.serveSteps]
    cases hserve : pool.serveStep (sendTask r.producer) r.world with
    | none => exact ⟨reached, [], rfl, rfl, hstay⟩
    | some next =>
      have sound := WorkerPool.sound_of_reachable valid reached
      -- one thing more is served: a pick or the end of a job, each an event of the run
      have hserved := WorkerPool.served_of_serveStep sound _ _ hserve
      obtain ⟨e, hrequests, hbesides, hstep⟩ := step_of_served hpool isOpen hserved
      obtain ⟨pe, -, hpe⟩ := hserved.event
      obtain ⟨hreached, es, hrequests', hbesides', hrun⟩ :=
        ih (r := { r with pool := some next.1, world := next.2 }) rfl (reached.step hpe)
          ((hserved.isShutDown sound).trans isOpen) rfl
      refine ⟨hreached, [e] ++ es, ?_, ?_, ?_⟩
      · rw [requests_append, hrequests, hrequests']
        rfl
      · rw [besides_append, hbesides, hbesides']
        rfl
      · rw [List.singleton_append, run, List.foldlM_cons, hstep]
        exact hrun

/-- **Letting the pool rest is a run of its workers**, after which the pool is idle. -/
theorem run_rest (valid : c.validate = .ok ()) (hcore : 0 < c.coreSize)
    {pool : WorkerPool Message Unit} (hpool : r.pool = some pool) (reached : Reachable c pool)
    (isOpen : pool.isShutDown = false) :
    r.rest.isIdle = true ∧
      ∃ es, requests es = [] ∧ besides es = [] ∧ r.run es = some r.rest := by
  have hrest : r.rest = { r with
      pool := some (pool.serve (sendTask r.producer) r.world).1
      world := (pool.serve (sendTask r.producer) r.world).2 } := by
    simp only [rest, hpool]
  obtain ⟨hreached, hrun⟩ := run_serveSteps valid _ hpool reached isOpen
  rw [hrest]
  refine ⟨?_, hrun⟩
  exact WorkerPool.isIdle_of_rest (WorkerPool.sound_of_reachable valid hreached)
    (WorkerPool.attended_of_core valid hcore hreached) _ _
    (WorkerPool.serve_at_rest _ (WorkerPool.sound_of_reachable valid reached) _)

end ProducerRun

end KeyedDelivery
