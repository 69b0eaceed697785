import KeyedDelivery.Consumer.Session
import KeyedDelivery.Proofs.Broker.Logs
import KeyedDelivery.Proofs.Consumer.Docket

/-!
# A consumer and its broker

What a session does is what its consumer does, and what happens to the broker and the client
meanwhile. This module says what each of them is to the other.

* **`Deployment.reaction_eq`** — what is done about a failure depends on the count, on the limit and
  on whether the client was shut down.
* **`Deployment.advance_world`** — a stage changes nothing of the broker and the sink's letters but by
  what is done about a failure.
* **`Session.step_cases`** — a step of a session is a step of its consumer and a move of its delivery
  thread.
* **`Logbook.Reachable.workplace`** — so every law of consumers holds of sessions.
* **`Kept`** — what no step changes of the client: its group, and that it was shut down.
* **`Effect`** — what a step does to the broker and to the letters of the sink: nothing, a use of the
  broker, a take, or the reaction to a failure.
-/

namespace KeyedDelivery

variable {ω : Type}

/-- What is done about a failure, done to the world. -/
def Site.react (s : Site ω) (d : Delivery) : Reaction → Site ω
  | .requested level => s.withBroker (s.broker.scheduleRedelivery s.now s.client.group d level)
  | .refused => s
  | .gaveUp letter => { s with letters := s.letters ++ letter.toList }

namespace Deployment

variable (D : Deployment ω)

theorem decide_eq (count : UInt32) :
    D.consumer.retry.decide count =
      if count < D.config.maxRetryTimes then .redeliver (.forRetry count) else .giveUp := rfl

/-- **What is done about a failure.** -/
theorem reaction_eq (d : Delivery) (reason : String) (s : Site ω) :
    D.consumer.reaction d reason s =
      if d.reconsumed < D.config.maxRetryTimes then
        if s.client.isShutDown then .refused else .requested (.forRetry d.reconsumed)
      else .gaveUp (D.sink.map fun _ => .ofDelivery d reason) := by
  unfold Consumer.reaction
  rw [decide_eq]
  -- below the limit the client decides, and from the limit on the sink does
  by_cases hlimit : d.reconsumed < D.config.maxRetryTimes
  · rw [if_pos hlimit, if_pos hlimit]
    cases hclosed : s.client.isShutDown <;>
      simp [consumer, Site.transport, ConsumerTransport.inMemory, ConsumerClient.reconsumeLater,
        hclosed, Except.mapError]
  · rw [if_neg hlimit, if_neg hlimit]
    simp [consumer, Option.map_map, Function.comp_def]

/-- What is done about a failure is done to the world, and the sink may act on its own part. -/
theorem afterFailure_world (d : Delivery) (reason : String) (k : Desk) (s : Site ω) :
    ∃ own, (D.consumer.afterFailure d reason k s).2.2 =
      { s.react d (D.consumer.reaction d reason s) with own } := by
  rw [reaction_eq]
  unfold Consumer.afterFailure
  rw [decide_eq]
  by_cases hlimit : d.reconsumed < D.config.maxRetryTimes
  · rw [if_pos hlimit, if_pos hlimit]
    refine ⟨s.own, ?_⟩
    cases hclosed : s.client.isShutDown <;>
      simp [consumer, Site.transport, ConsumerTransport.inMemory, ConsumerClient.reconsumeLater,
        hclosed, Except.mapError, Site.react, Site.withBroker]
  · rw [if_neg hlimit, if_neg hlimit]
    cases hsink : D.sink with
    | none => exact ⟨s.own, by simp [consumer, Consumer.giveUp, hsink, Site.react]⟩
    -- the sink may change its own world, whether it returns or panics
    | some sink =>
      refine ⟨(sink (.ofDelivery d reason) s.own).2, ?_⟩
      rcases hletter : sink (.ofDelivery d reason) s.own with ⟨_ | _, own⟩ <;>
        simp [consumer, Consumer.giveUp, hsink, Site.sink, hletter, Site.react]

/-- **What a stage does to the world.** A failure is reacted to; any other stage is a matter of the
handler alone. -/
theorem advance_world {d : Delivery} {stage stage' : Stage} {k k' : Desk} {s s' : Site ω}
    (h : D.consumer.advance d stage k s = (.at stage', k', s')) :
    ∃ own, s' = { s with own } ∧ stage.isFailing = false ∨
      ∃ reason, stage = .failing reason ∧
        s' = { s.react d (D.consumer.reaction d reason s) with own } := by
  cases stage with
  | waiting =>
    simp only [Consumer.advance] at h
    split at h
    · cases h
    · cases h
      exact ⟨s.own, .inl ⟨rfl, rfl⟩⟩
  | asking hook =>
    cases h
    exact ⟨_, .inl ⟨rfl, rfl⟩⟩
  | judged v =>
    cases h
    exact ⟨s.own, .inl ⟨rfl, rfl⟩⟩
  -- the only stage that reaches the broker
  | failing reason =>
    obtain ⟨own, hworld⟩ := D.afterFailure_world d reason k s
    simp only [Consumer.advance] at h
    cases h
    exact ⟨own, .inr ⟨reason, rfl, hworld⟩⟩
  | leaving outcome => cases h

end Deployment

/-! ## What is kept of the client -/

/-- What no step changes of the client: its group, and that it was shut down. -/
structure Kept (c c' : ConsumerClient) : Prop where
  group : c'.group = c.group
  closed : c.isShutDown = true → c'.isShutDown = true

theorem Kept.of_eq {c c' : ConsumerClient} (h : c' = c) : Kept c c' := by
  subst h
  exact ⟨rfl, id⟩

/-- A reaction changes nothing of the client. -/
theorem Site.react_client (s : Site ω) (d : Delivery) (r : Reaction) :
    (s.react d r).client = s.client := by
  cases r <;> rfl

/-- A subscription may open its topic. -/
theorem subscribe_cases (c : ConsumerClient) (b : Broker) (topic tags : String) :
    ∃ b', (b' = b ∨ b' = (b.openTopic topic).2) ∧
      ((∃ e, c.subscribe b topic tags = (.error e, b')) ∨
        c.subscribe b topic tags =
          (.ok { c with subscription := some ⟨topic, TagFilter.parse tags⟩ }, b')) := by
  unfold ConsumerClient.subscribe
  split
  · exact ⟨b, .inl rfl, .inl ⟨_, rfl⟩⟩
  · -- asking for the queues opens the topic, also when this fails
    have hnames := Broker.queueNames_snd b topic
    rcases hopened : b.queueNames topic with ⟨e | qs, b'⟩
    · rw [hopened] at hnames
      exact ⟨b', .inr hnames, .inl ⟨_, rfl⟩⟩
    · rw [hopened] at hnames
      exact ⟨b', .inr hnames, .inr rfl⟩

/-- A client that is started runs, or refuses. -/
theorem client_start_cases (c : ConsumerClient) :
    (∃ e, c.start = .error e) ∨ ∃ s, c.start = .ok ({ c with running := true }, s) := by
  unfold ConsumerClient.start
  split
  · exact .inl ⟨_, rfl⟩
  split
  · exact .inl ⟨_, rfl⟩
  split
  · exact .inr ⟨_, rfl⟩
  · exact .inl ⟨_, rfl⟩

/-- **What a start does to the world.** The topic may be opened on the broker, and the client may be
subscribed and started. -/
theorem start_world {D : Deployment ω} {r : ConsumerRun (Site ω)} (hconsumer : r.consumer = D.consumer)
    (s : Site ω) :
    ∃ client broker, (r.start s).2.2 = { s with client, broker } ∧ Kept s.client client ∧
      (broker = s.broker ∨ broker = (s.broker.openTopic D.config.topic).2) := by
  unfold ConsumerRun.start
  split
  · exact ⟨s.client, s.broker, rfl, .of_eq rfl, .inl rfl⟩
  -- a subscription that fails may have opened the topic all the same
  obtain ⟨b', hb', hsubscribe⟩ :=
    subscribe_cases s.client s.broker D.config.topic D.config.tagFilter
  rcases hsubscribe with ⟨e, herror⟩ | hok
  · have htransport : D.consumer.transport.subscribe D.consumer.config.topic
        D.consumer.config.tagFilter s = (.error e.message, s.withBroker b') := by
      simp only [Deployment.consumer, Site.transport, ConsumerTransport.inMemory, herror]
    simp only [hconsumer, htransport]
    exact ⟨s.client, b', rfl, .of_eq rfl, hb'⟩
  · set client : ConsumerClient :=
      { s.client with subscription := some ⟨D.config.topic, TagFilter.parse D.config.tagFilter⟩ }
      with hclient
    have htransport : D.consumer.transport.subscribe D.consumer.config.topic
        D.consumer.config.tagFilter s = (.ok (), { s.withBroker b' with client }) := by
      simp only [Deployment.consumer, Site.transport, ConsumerTransport.inMemory, hok]
    simp only [hconsumer, htransport]
    rcases client_start_cases client.listen with ⟨e, herror⟩ | ⟨sub, hrunning⟩
    · have hstart : D.consumer.transport.start
          (D.consumer.transport.listen { s.withBroker b' with client }) =
            (.error e.message, { s.withBroker b' with client := client.listen }) := by
        simp only [Deployment.consumer, Site.transport, ConsumerTransport.inMemory, herror]
      simp only [hstart]
      exact ⟨client.listen, b', rfl, ⟨rfl, id⟩, hb'⟩
    · have hstart : D.consumer.transport.start
          (D.consumer.transport.listen { s.withBroker b' with client }) =
            (.ok (), { s.withBroker b' with client := { client.listen with running := true } }) := by
        simp only [Deployment.consumer, Site.transport, ConsumerTransport.inMemory, hrunning]
      simp only [hstart]
      exact ⟨{ client.listen with running := true }, b', rfl, ⟨rfl, id⟩, hb'⟩

/-- What stopping does to the world: the client may be shut down. -/
theorem stop_world {D : Deployment ω} {r : ConsumerRun (Site ω)} (hconsumer : r.consumer = D.consumer)
    (s : Site ω) : ∃ client, (r.stop s).2 = { s with client } ∧ Kept s.client client := by
  unfold ConsumerRun.stop
  split
  · exact ⟨s.client, rfl, .of_eq rfl⟩
  · rw [hconsumer]
    exact ⟨s.client.shutdown, rfl, ⟨rfl, fun _ => rfl⟩⟩

/-! ## One step -/

namespace Session

variable {x y : Session ω} {e : Event ω}

/-- A step of a session is a step of its consumer and a move of its delivery thread. -/
theorem step_cases (h : x.step e = some y) :
    ∃ inner, x.inner e = some inner ∧ x.toWorkplace.step inner = some y.toWorkplace ∧
      x.threadAfter e = some y.thread := by
  obtain ⟨thread, hthread, h⟩ := Option.bind_eq_some_iff.mp h
  obtain ⟨inner, hinner, h⟩ := Option.bind_eq_some_iff.mp h
  obtain ⟨work, hwork, h⟩ := Option.bind_eq_some_iff.mp h
  cases h
  exact ⟨inner, hinner, hwork, hthread⟩

/-- What others do is no matter of the client. -/
theorem client_of_elsewhere {f : Site ω → Site ω} (h : x.inner e = some (.elsewhere f)) (s : Site ω) :
    (f s).client = s.client := by
  -- an event beside the consumer is one of these functions of the world
  have hpure {g : Site ω → Site ω} (h : some (Workplace.Event.elsewhere g) = some (.elsewhere f))
      (hg : (g s).client = s.client) : (f s).client = s.client := by
    cases h
    exact hg
  cases e with
  | look => exact hpure h rfl
  | others b => exact hpure h rfl
  | clock now => exact hpure h rfl
  | own g => exact hpure h rfl
  | take =>
    obtain ⟨batch, -, hbatch⟩ := Option.map_eq_some_iff.mp h
    cases hbatch
    rfl
  | answer =>
    rw [inner] at h
    split at h
    · exact hpure h rfl
    · cases h
  | offer | offerUnstarted reason =>
    rw [inner] at h
    split at h
    · obtain ⟨d, -, hd⟩ := Option.map_eq_some_iff.mp h
      cases hd
    · cases h
  | _ => cases h

/-- **No step changes the group of a client**, or opens one that was shut down. -/
theorem kept_of_step {D : Deployment ω} (tracked : x.toWorkplace.Tracked)
    (hconsumer : x.run.consumer = D.consumer) (h : x.step e = some y) :
    Kept x.world.client y.world.client := by
  obtain ⟨inner, hinner, hstep, -⟩ := step_cases h
  obtain ⟨hallows, happly⟩ := Workplace.step_eq_some_iff.mp hstep
  -- most changes leave the whole world as it is
  have hsame (hworld : y.world = x.world) : Kept x.world.client y.world.client :=
    .of_eq (congrArg _ hworld)
  cases Workplace.change_of_step tracked hstep with
  | advanced hhandling hadvance hdocket =>
    rw [hconsumer] at hadvance
    obtain ⟨own, ⟨hworld, -⟩ | ⟨reason, -, hworld⟩⟩ := D.advance_world hadvance
    · exact .of_eq (by rw [hworld])
    · exact .of_eq (by rw [hworld]; exact Site.react_client _ _ _)
  | quiet hquiet hdocket =>
    rw [← happly]
    cases inner with
    | start =>
      obtain ⟨client, broker, hworld, kept, -⟩ := start_world hconsumer x.world
      simp only [Workplace.apply, hworld]
      exact kept
    | stop =>
      obtain ⟨client, hworld, kept⟩ := stop_world hconsumer x.world
      simp only [Workplace.apply, hworld]
      exact kept
    | elsewhere f => exact .of_eq (client_of_elsewhere hinner x.world)
    | retire n => exact .of_eq rfl
    | leave n => exact .of_eq rfl
    | shutdownPool => exact .of_eq rfl
    | _ => cases hquiet
  | refused _ hworld => exact hsame hworld
  | unstarted _ _ hworld => exact hsame hworld
  | begun _ hworld => exact hsame hworld
  | queued _ hworld => exact hsame hworld
  | evicted _ hworld => exact hsame hworld
  | dropped _ hworld => exact hsame hworld
  | picked _ hworld => exact hsame hworld
  | ended hworld => exact hsame hworld
  | discardedQueue hworld => exact hsame hworld

/-- What a step does to the broker and to the letters of the sink. -/
inductive Effect (D : Deployment ω) (x y : Session ω) (e : Event ω) : Prop where
  | silent (hbroker : y.world.broker = x.world.broker) (hletters : y.world.letters = x.world.letters)
      (haccepted : x.acceptedBy e = []) (hreports : ∀ r ∈ x.reportsBy e, r.reaction? = none) :
      Effect D x y e
  /-- The broker is used, but not to react to a failure. -/
  | used (b : Broker.Event) (hbroker : y.world.broker = x.world.broker.apply b)
      (hletters : y.world.letters = x.world.letters)
      (haccepted : x.acceptedBy e = x.world.broker.accepted b)
      (hshares : b.group? = some x.world.client.group → x.sharesBy e = true)
      (hreports : x.reportsBy e = []) : Effect D x y e
  /-- The delivery thread takes a batch. -/
  | took {s : Subscription} (he : e = .take)
      (hbatch : x.batch? =
        some (x.world.broker.takeBatch x.world.now s.topic x.world.client.group s.filter))
      (hbroker : y.world.broker =
        (x.world.broker.takeBatch x.world.now s.topic x.world.client.group s.filter).2)
      (hletters : y.world.letters = x.world.letters) (hreports : x.reportsBy e = []) : Effect D x y e
  | reacted {d : Delivery} {reason : String} {own : ω}
      (hworld : y.world = { x.world.react d (D.consumer.reaction d reason x.world) with own })
      (haccepted : x.acceptedBy e = [])
      (hreports : x.reportsBy e = [.reacted d (D.consumer.reaction d reason x.world)]) :
      Effect D x y e

theorem reportsBy_eq {inner : Workplace.Event (Site ω)} (h : x.inner e = some inner) :
    x.reportsBy e = x.toWorkplace.reports inner := by
  unfold reportsBy
  rw [h]

/-- Only what happens elsewhere can be that a message is accepted. -/
theorem acceptedBy_eq_nil {inner : Workplace.Event (Site ω)} (h : x.inner e = some inner)
    (hne : ∀ f, inner ≠ .elsewhere f) : x.acceptedBy e = [] := by
  cases e with
  | others b =>
    cases h
    exact absurd rfl (hne _)
  | _ => rfl

/-- A take hands over a batch of the subscription. -/
theorem inner_take {act : Workplace.Event (Site ω)} (h : x.inner .take = some act) :
    ∃ s, x.world.client.subscription = some s ∧
      x.batch? = some (x.world.broker.takeBatch x.world.now s.topic x.world.client.group s.filter) ∧
      act = .elsewhere (·.withBroker
        (x.world.broker.takeBatch x.world.now s.topic x.world.client.group s.filter).2) := by
  cases hs : x.world.client.subscription with
  | none => simp [inner, batch?, hs] at h
  | some s =>
    have hbatch : x.batch? =
        some (x.world.broker.takeBatch x.world.now s.topic x.world.client.group s.filter) := by
      rw [batch?, hs]
      rfl
    rw [inner, hbatch] at h
    exact ⟨s, rfl, hbatch, (Option.some.inj h).symm⟩

/-- What happens elsewhere is that the broker is used, or nothing. -/
theorem effect_of_elsewhere (D : Deployment ω) {f : Site ω → Site ω}
    (hinner : x.inner e = some (.elsewhere f)) (hworld : y.world = f x.world) : Effect D x y e := by
  have hreports : x.reportsBy e = [] :=
    (reportsBy_eq hinner).trans (Workplace.reports_of_isQuiet rfl)
  -- an event that leaves the broker and the letters as they are
  have silent (hbroker : (f x.world).broker = x.world.broker)
      (hletters : (f x.world).letters = x.world.letters) (haccepted : x.acceptedBy e = []) :
      Effect D x y e := by
    rw [← hworld] at hbroker hletters
    refine .silent hbroker hletters haccepted ?_
    rw [hreports]
    exact fun r hr => absurd hr List.not_mem_nil
  cases e with
  | take =>
    obtain ⟨s, -, hbatch, hf⟩ := inner_take hinner
    have hf := Workplace.Event.elsewhere.inj hf
    refine .took rfl hbatch ?_ ?_ hreports
    · rw [hworld, hf]
      rfl
    · rw [hworld, hf]
      rfl
  | others b =>
    cases hinner
    refine .used b ?_ ?_ rfl (fun h => by simpa [sharesBy] using h) hreports
    · rw [hworld]
      rfl
    · rw [hworld]
      rfl
  | answer =>
    rw [inner] at hinner
    split at hinner
    · cases hinner
      exact silent rfl rfl rfl
    · cases hinner
  | offer | offerUnstarted reason =>
    rw [inner] at hinner
    split at hinner
    · obtain ⟨d, -, hd⟩ := Option.map_eq_some_iff.mp hinner
      cases hd
    · cases hinner
  | look | clock now | own g =>
    cases hinner
    exact silent rfl rfl rfl
  | _ => cases hinner

/-- **What a step does to the broker and to the letters.** -/
theorem effect_of_step {D : Deployment ω} (tracked : x.toWorkplace.Tracked)
    (hconsumer : x.run.consumer = D.consumer) (h : x.step e = some y) : Effect D x y e := by
  obtain ⟨inner, hinner, hstep, -⟩ := step_cases h
  obtain ⟨hallows, happly⟩ := Workplace.step_eq_some_iff.mp hstep
  have hreports := reportsBy_eq hinner
  have silent (hbroker : y.world.broker = x.world.broker)
      (hletters : y.world.letters = x.world.letters) (hne : ∀ f, inner ≠ .elsewhere f)
      (hnone : x.toWorkplace.reports inner = []) : Effect D x y e := by
    refine .silent hbroker hletters (acceptedBy_eq_nil hinner hne) ?_
    rw [hreports, hnone]
    exact fun r hr => absurd hr List.not_mem_nil
  have same (hworld : y.world = x.world) (hne : ∀ f, inner ≠ .elsewhere f)
      (hnone : x.toWorkplace.reports inner = []) : Effect D x y e :=
    silent (by rw [hworld]) (by rw [hworld]) hne hnone
  cases Workplace.change_of_step tracked hstep with
  | @advanced _ d stage _ _ _ hhandling hadvance hdocket hreported hjob =>
    rw [hconsumer] at hadvance hreported
    have haccepted : x.acceptedBy e = [] := by
      refine acceptedBy_eq_nil hinner ?_
      rintro f rfl
      cases hjob
    obtain ⟨own, ⟨hworld, hstage⟩ | ⟨reason, rfl, hworld⟩⟩ := D.advance_world hadvance
    · -- an answer of a hook may be reported, which is no reaction
      refine .silent (by rw [hworld]) (by rw [hworld]) haccepted ?_
      rw [hreports, hreported]
      intro r hr
      cases stage with
      | asking hook => rw [List.mem_singleton.mp hr]; rfl
      | failing reason => cases hstage
      | _ => cases hr
    · exact .reacted hworld haccepted (hreports.trans hreported)
  | quiet hquiet hdocket =>
    have hnone := Workplace.reports_of_isQuiet (x := x.toWorkplace) hquiet
    cases inner with
    | start =>
      obtain ⟨client, broker, hworld, -, hbroker⟩ := start_world hconsumer x.world
      have hy : y.world = { x.world with client, broker } := by
        rw [← happly]
        exact hworld
      -- a subscription asks for the queues of its topic
      rcases hbroker with hbroker | hbroker
      · exact silent (by rw [hy, hbroker]) (by rw [hy]) nofun hnone
      · refine .used (.askQueues D.config.topic) ?_ (by rw [hy]) (acceptedBy_eq_nil hinner nofun)
          nofun (hreports.trans hnone)
        rw [hy, hbroker, Broker.apply, Broker.queueNames_snd]
    | stop =>
      obtain ⟨client, hworld, -⟩ := stop_world hconsumer x.world
      have hy : y.world = { x.world with client } := by
        rw [← happly]
        exact hworld
      exact silent (by rw [hy]) (by rw [hy]) nofun hnone
    | elsewhere f =>
      refine effect_of_elsewhere D hinner ?_
      rw [← happly]
      rfl
    | retire n | leave n | shutdownPool =>
      have hy : y.world = x.world := by
        rw [← happly]
        rfl
      exact same hy nofun hnone
    | _ => cases hquiet
  | refused _ hworld => exact same hworld nofun rfl
  | unstarted _ _ hworld => exact same hworld nofun rfl
  | begun _ hworld => exact same hworld nofun rfl
  | queued _ hworld => exact same hworld nofun rfl
  | evicted _ hworld => exact same hworld nofun rfl
  | dropped _ hworld => exact same hworld nofun rfl
  | picked _ hworld => exact same hworld nofun rfl
  | ended hworld _ _ hnone hjob =>
    refine same hworld ?_ hnone
    rintro f rfl
    cases hjob
  | discardedQueue hworld => exact same hworld nofun rfl

end Session

/-! ## Logbooks -/

namespace Logbook

variable {D : Deployment ω} {l l' : Logbook ω} {e : Session.Event ω}

/-- The logbook after a step to another session. -/
def extend (l : Logbook ω) (e : Session.Event ω) (y : Session ω) : Logbook ω where
  session := y
  accepted := l.accepted ++ l.session.acceptedBy e
  handed := l.handed ++ l.session.handedBy e
  reports := l.reports ++ l.session.reportsBy e
  shared := l.shared || l.session.sharesBy e

/-- A step of a logbook is one of its session, with what is noted of it. -/
theorem step_eq_some_iff :
    l.step e = some l' ↔ ∃ y, l.session.step e = some y ∧ l' = l.extend e y := by
  unfold step
  rw [Option.map_eq_some_iff]
  constructor
  · rintro ⟨y, hy, rfl⟩
    exact ⟨y, hy, rfl⟩
  · rintro ⟨y, hy, rfl⟩
    exact ⟨y, hy, rfl⟩

/-- **The consumer of a session is a consumer at work.** -/
theorem Reachable.workplace (h : Reachable D l) :
    Workplace.Reachable D.consumer D.pool l.session.toWorkplace := by
  induction h with
  | start own hpool hrun => exact .start _ hpool hrun
  | step reached next ih =>
    obtain ⟨y, hy, rfl⟩ := step_eq_some_iff.mp next
    obtain ⟨inner, -, hstep, -⟩ := Session.step_cases hy
    exact ih.step hstep

/-- What a list of events leads to from a reachable logbook is reachable. -/
theorem Reachable.run (h : Reachable D l) {es : List (Session.Event ω)}
    (hrun : l.run es = some l') : Reachable D l' :=
  Runs.keeps (I := fun _ l => Reachable D l) h (fun _ hstep reached => reached.step hstep) hrun

/-- **Invariants of a session.** What holds of a session that nothing has happened in and is kept by
every step holds of every logbook that is reached. -/
theorem invariant_of_reachable (I : Logbook ω → Prop)
    (start : ∀ (run : ConsumerRun (Site ω)) (own : ω), run.consumer = D.consumer →
      run.docket = { queued := [], handling := 0, desk := run.desk, discarded := 0 } →
      run.desk.stats = {} → run.state = .stopped → I { session := { run, world := D.site own } })
    (step : ∀ {l : Logbook ω} {y : Session ω} {e : Session.Event ω}, Reachable D l →
      l.session.step e = some y → I l → I (l.extend e y))
    (h : Reachable D l) : I l := by
  induction h with
  | start own hpool hrun =>
    -- the pool and the consumer that are started are new
    obtain ⟨valid, rfl⟩ := Workplace.pool_of_ofConfig hpool
    obtain rfl := Workplace.run_of_create hrun
    exact start _ own rfl rfl rfl rfl
  | step reached next ih =>
    obtain ⟨y, hy, rfl⟩ := step_eq_some_iff.mp next
    exact step reached hy ih

end Logbook

end KeyedDelivery
