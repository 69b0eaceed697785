import KeyedDelivery.Producer.PostOffice
import KeyedDelivery.Proofs.Broker.Uniform
import KeyedDelivery.Proofs.Producer.Stage
import KeyedDelivery.Proofs.Producer.Traffic

/-!
# What producers make a broker go through

Whatever any number of producers do, and whatever else the broker is asked for, the broker goes
through a run of its own events. What the senders are told and what the takes hand over are what
this run accepts and hands over.

* **`Moves`** — what one event is to the broker: nothing, or one event of its own
  (`moves_step`).
* **`Addressed`** — a send that tries a queue tries the one that belongs to its key. Every event
  keeps it, because every topic has the same number of queues whenever it is asked.
* **`told_run`** — after every run there is a run of the broker that explains what was told.
* **`fits_acceptances`** — every message that was accepted is in the queue that belongs to its key.
-/

namespace KeyedDelivery

/-- The queue that a send tries. -/
def SendStage.target? : SendStage → Option Queue
  | .trying q .. => some q
  | _ => none

def SendPoint.target? : SendPoint → Option Queue
  | .sending _ stage => stage.target?
  | _ => none

namespace PostOffice

/-! ## What an event is to the broker -/

/-- A broker does nothing, or goes through one event; what it accepts and hands over with that. -/
inductive Moves (b : Broker) : Broker → List Delivery → List Broker.Take → Prop where
  | still : Moves b b [] []
  | event (e : Broker.Event) : Moves b (b.apply e) (b.accepted e) (b.took e).toList

/-- A lookup is an event of the broker, or nothing if the client is not started. -/
theorem moves_queues (client : ProducerClient) (b : Broker) (topic : String) :
    Moves b (client.queues b topic).2 [] [] := by
  unfold ProducerClient.queues
  split
  · exact .still
  · exact .event (.askQueues topic)

/-- So is a send, with what the broker accepts of it. -/
theorem moves_send (client : ProducerClient) (b : Broker) (now : Nat) (m : Message) (q : Queue) :
    Moves b (client.send b now m q).2
      ((client.send b now m q).1.toOption.map (stamped m)).toList [] := by
  unfold ProducerClient.send
  split
  · exact .still
  · have haccepted : b.accepted (.accept now m q) =
        ((b.accept now m q).1.toOption.map (stamped m)).toList := by
      rw [Broker.accepted]
      cases (b.accept now m q).1 <;> rfl
    rw [← haccepted]
    exact .event (.accept now m q)

/-- One call of a client's transport to send a message, and its answer. -/
theorem transport_send (n : Nat) (m : Message) (q : Queue) (s : PostOffice) :
    (transport n).send m q s =
      (.returned (((s.client n).send s.broker s.brokerNow m q).1.mapError (·.message)),
        s.setBroker ((s.client n).send s.broker s.brokerNow m q).2) := rfl

/-- A stage of a send is one event of the broker at most. -/
theorem moves_stage (n : Nat) (c : ProducerConfig) (m : Message) (stage : SendStage)
    (s : PostOffice) :
    Moves s.broker (stage.advance c (transport n) m s).2.broker
      ((stage.receipt? (transport n) m s).map (stamped m)).toList [] := by
  have hstep := SendStage.staged_advance c (transport n) m stage s
  -- the next state, the call and the receipt belong to one step
  generalize stage.advance c (transport n) m s = next, stage.call? (transport n) m s = call,
    stage.receipt? (transport n) m s = receipt at hstep ⊢
  cases hstep with
  | asked => exact moves_queues (s.client n) s.broker m.topic
  | tried q deadline left made last =>
    have hsend := moves_send (s.client n) s.broker s.brokerNow m q
    rw [transport_send]
    generalize (s.client n).send s.broker s.brokerNow m q = reply at hsend ⊢
    obtain ⟨_ | r, b⟩ := reply <;> exact hsend
  | ended result => exact .still

variable {x : Traffic PostOffice} {s : Sending PostOffice}

/-- Whether a send is made by a producer on a client of the broker. -/
def IsOurs (s : Sending PostOffice) : Prop := ∃ n c patience, s.sender = sender n c patience

/-- **A step of a send** is one event of the broker at most. -/
theorem moves_advance (ours : IsOurs s) {point : SendPoint} {locks : Contention} {w : PostOffice}
    (h : Traffic.Advanced x s point locks w) :
    Moves x.world.broker w.broker ((s.receipt? x.world).map (stamped s.message)).toList [] := by
  -- without a call there is no receipt
  have silent (hnone : s.receipt? x.world = none) : Moves x.world.broker x.world.broker
      ((s.receipt? x.world).map (stamped s.message)).toList [] := by
    rw [hnone]
    exact .still
  cases h with
  | began point | refused _ point | came _ point | rested point =>
    exact silent (by rw [Sending.receipt?, point])
  | ended point | released point => exact silent (by rw [Sending.receipt?, point]; rfl)
  | looked e acts owns before =>
    refine silent ?_
    rw [Sending.receipt?]
    split
    · next point => rw [point] at before; cases before
    · rfl
  | @called hold stage point =>
    obtain ⟨n, c, patience, hsender⟩ := ours
    simp only [Sending.receipt?, point, hsender]
    exact moves_stage n c s.message stage x.world

/-- **Every event** is one event of the broker at most. -/
theorem moves_step (ours : ∀ s ∈ x.sends, IsOurs s) (e : Event) :
    Moves x.world.broker (step x e).world.broker (accepted x e) (took x e).toList := by
  cases e with
  | send client c patience m => exact .still
  | proceed i =>
    rw [step, accepted, Event.inTraffic, Traffic.step, Traffic.receipt?]
    cases hs : x.sends[i]? with
    | none => exact .still
    | some s =>
      have hmoves := moves_advance (ours s (List.mem_of_getElem? hs))
        (Traffic.advanced_of_advance x s)
      rw [Option.bind_some, Option.map_map]
      exact hmoves
  | locks e =>
    rw [step, Event.inTraffic, Traffic.step]
    split <;> exact .still
  -- the events of the broker are those that no send makes: here they happen as they are
  | broker e =>
    cases e with
    | accept now m queue => exact .still
    | createTopic topic => exact .event (.createTopic topic)
    | askQueues topic => exact .event (.askQueues topic)
    | failSends n => exact .event (.failSends n)
    | promote now => exact .event (.promote now)
    | redeliver now group d level => exact .event (.redeliver now group d level)
    | take now topic group filter => exact .event (.take now topic group filter)
    | drain topic group filter room => exact .event (.drain topic group filter room)
  | start client => exact .still
  | shutdown client => exact .still
  | clocks brokerNow now => exact .still

/-! ## The queue that a send tries -/

/-- A queue is the one that belongs to a message's key. -/
def Fits (c : BrokerConfig) (m : Message) (q : Queue) : Prop :=
  q.topic = m.topic ∧ q.id.toNat = keyIndex m.key (max c.queuesPerTopic 1)

/-- A send that tries a queue tries the one that belongs to its key. -/
structure Addressed (c : BrokerConfig) (s : Sending PostOffice) : Prop where
  ours : IsOurs s
  fits : ∀ q, s.point.target? = some q → Fits c s.message q

variable {c : BrokerConfig}

/-- The queue of a key that a send chooses when it is told the queues of the topic. -/
theorem fits_afterQueues {s : PostOffice} (uniform : Broker.Uniform c s.broker) (n : Nat)
    (config : ProducerConfig) (m : Message) (deadline : Nat) {q : Queue}
    (h : (SendStage.afterQueues config m deadline ((transport n).queues m.topic s).1).target? =
      some q) : Fits c m q := by
  have hanswer : ((transport n).queues m.topic s).1 =
      .returned (((s.client n).queues s.broker m.topic).1.mapError (·.message)) := rfl
  rw [hanswer] at h
  cases hqueues : ((s.client n).queues s.broker m.topic).1 with
  | error e =>
    rw [hqueues] at h
    cases h
  | ok queues =>
    -- a client that answers has asked the broker
    have hnames : (s.broker.queueNames m.topic).1 = .ok queues := by
      unfold ProducerClient.queues at hqueues
      split at hqueues
      · cases hqueues
      · exact hqueues
    rw [hqueues] at h
    simp only [Except.mapError, SendStage.afterQueues] at h
    cases hselect : selectQueue queues m.key with
    | none =>
      rw [hselect] at h
      cases h
    | some q' =>
      rw [hselect] at h
      cases h
      -- all topics have the same number of queues, so the index is that of the key
      rw [uniform.queueNames hnames] at hselect
      exact Broker.eq_of_selectQueue hselect

/-- **A stage of a send** leads to the queue of the key, or stays with the queue it tries. -/
theorem fits_stage {s : PostOffice} (uniform : Broker.Uniform c s.broker) (n : Nat)
    (config : ProducerConfig) (m : Message) {stage : SendStage}
    (hfits : ∀ q, stage.target? = some q → Fits c m q) {q : Queue}
    (h : (stage.advance config (transport n) m s).1.target? = some q) : Fits c m q := by
  have hstep := SendStage.staged_advance config (transport n) m stage s
  generalize stage.advance config (transport n) m s = next, stage.call? (transport n) m s = call,
    stage.receipt? (transport n) m s = receipt at hstep h
  cases hstep with
  | asked => exact fits_afterQueues uniform n config m _ h
  | tried q' deadline left made last =>
    rw [transport_send] at h
    generalize (s.client n).send s.broker s.brokerNow m q' = reply at h
    obtain ⟨e | r, b⟩ := reply
    · -- a refused attempt goes on with its queue
      exact hfits q h
    · cases h
  | ended result => cases h

/-- **A step of a send** keeps it addressed. -/
theorem Addressed.advance {x : Traffic PostOffice} {s : Sending PostOffice}
    (uniform : Broker.Uniform c x.world.broker) (h : Addressed c s) {point : SendPoint}
    {locks : Contention} {w : PostOffice} (hadvance : Traffic.Advanced x s point locks w) :
    Addressed c { s with point } where
  ours := h.ours
  fits q hq := by
    cases hadvance with
    | @called hold stage before =>
      obtain ⟨n, config, patience, hsender⟩ := h.ours
      have hstage : ∀ q, stage.target? = some q → Fits c s.message q := fun q hq =>
        h.fits q (by rw [before]; exact hq)
      simp only [hsender] at hq
      exact fits_stage uniform n config s.message hstage hq
    | @looked token e acts owns before =>
      -- where a look leads, no queue is tried yet
      rcases SendPoint.afterLook_cases token x.locks.now (x.locks.step e).1 with
        ⟨_, -, hpoint⟩ | ⟨_, hpoint⟩ | hpoint
      all_goals
        simp only [hpoint] at hq
        cases hq
    | _ => cases hq

/-- **Every event** keeps all sends addressed. -/
theorem addressed_step {x : Traffic PostOffice} (uniform : Broker.Uniform c x.world.broker)
    (h : ∀ s ∈ x.sends, Addressed c s) (e : Event) : ∀ s ∈ (step x e).sends, Addressed c s := by
  intro s hs
  obtain ⟨i, hi⟩ := List.getElem?_of_mem hs
  -- a send that was there, one that advanced, and a new one, which has no queue yet
  rcases Traffic.sends_step hi with hold | ⟨s', hs', -, rfl⟩ | ⟨sender, m, hbegin, rfl⟩
  · exact h s (List.mem_of_getElem? hold)
  · exact (h s' (List.mem_of_getElem? hs')).advance uniform (Traffic.advanced_of_advance x s')
  · refine ⟨?_, fun q hq => nomatch hq⟩
    cases e with
    | send client config patience m' =>
      cases hbegin
      exact ⟨client, config, patience, rfl⟩
    | _ => cases hbegin

/-- A receipt names the queue that was tried. -/
theorem queue_of_send {client : ProducerClient} {b : Broker} {now : Nat} {m : Message} {q : Queue}
    {r : Receipt} (h : (client.send b now m q).1 = .ok r) : r.queue = q := by
  unfold ProducerClient.send at h
  split at h
  · cases h
  · rcases b.accept_cases now m q with ⟨e, b', haccept, -⟩ | ⟨b', slots, slot, -, -, -, -, haccept⟩
    · rw [haccept] at h
      cases h
    · rw [haccept] at h
      cases h
      rfl

/-- A receipt is for the queue that the send was trying. -/
theorem target?_of_receipt? {n : Nat} {m : Message} {stage : SendStage} {s : PostOffice}
    {r : Receipt} (h : stage.receipt? (transport n) m s = some r) :
    stage.target? = some r.queue := by
  obtain ⟨q, deadline, left, made, last, rfl, hsend⟩ := SendStage.send_of_receipt? h
  rw [transport_send] at hsend
  cases hanswer : ((s.client n).send s.broker s.brokerNow m q).1 with
  | error e =>
    rw [hanswer] at hsend
    cases hsend
  | ok r' =>
    rw [hanswer] at hsend
    cases hsend
    rw [queue_of_send hanswer]
    rfl

/-- **What is accepted is in the queue of its key.** -/
theorem fits_accepted {x : Traffic PostOffice} (h : ∀ s ∈ x.sends, Addressed c s) {e : Event}
    {d : Delivery} (hd : d ∈ accepted x e) : Fits c d.message d.queue := by
  rw [accepted, Option.mem_toList, Option.map_eq_some_iff] at hd
  obtain ⟨⟨m, r⟩, hreceipt, rfl⟩ := hd
  cases e with
  | proceed i =>
    obtain ⟨s, hs, hsend⟩ := Option.bind_eq_some_iff.mp hreceipt
    obtain ⟨r', hr', heq⟩ := Option.map_eq_some_iff.mp hsend
    cases heq
    -- what is accepted is a receipt of some send, and that send is addressed
    have haddressed := h s (List.mem_of_getElem? hs)
    obtain ⟨n, config, patience, hsender⟩ := haddressed.ours
    unfold Sending.receipt? at hr'
    split at hr'
    · next hold stage point =>
      rw [hsender] at hr'
      exact haddressed.fits r.queue (by rw [point]; exact target?_of_receipt? hr')
    · cases hr'
  | _ => cases hreceipt

/-! ## Runs -/

theorem run_concat (x : Traffic PostOffice) (es : List Event) (e : Event) :
    run x (es ++ [e]) = step (run x es) e := by
  rw [run, List.foldl_append]
  rfl

theorem acceptances_concat (x : Traffic PostOffice) (es : List Event) (e : Event) :
    acceptances x (es ++ [e]) = acceptances x es ++ accepted (run x es) e := by
  induction es generalizing x with
  | nil => simp [acceptances, run]
  | cons e' es ih => rw [List.cons_append, acceptances, ih, acceptances, List.append_assoc]; rfl

theorem takes_concat (x : Traffic PostOffice) (es : List Event) (e : Event) :
    takes x (es ++ [e]) = takes x es ++ (took (run x es) e).toList := by
  induction es generalizing x with
  | nil => simp [takes, run]
  | cons e' es ih => rw [List.cons_append, takes, ih, takes, List.append_assoc]; rfl

/-- A run of a broker explains what the senders were told and what the takes handed over. -/
structure Explains (c : BrokerConfig) (x : Traffic PostOffice) (ds : List Delivery)
    (ks : List Broker.Take) (bes : List Broker.Event) : Prop where
  broker : x.world.broker = (Broker.ofConfig c).run bes
  accepted : ds = (Broker.ofConfig c).acceptances bes
  taken : ks = (Broker.ofConfig c).takes bes

/-- One event more is explained by one event of the broker more at most. -/
theorem Explains.step {x y : Traffic PostOffice} {ds ds' : List Delivery}
    {ks ks' : List Broker.Take} {bes : List Broker.Event} (h : Explains c x ds ks bes)
    (hmoves : Moves x.world.broker y.world.broker ds' ks') :
    ∃ bes', Explains c y (ds ++ ds') (ks ++ ks') bes' := by
  obtain ⟨hbroker, rfl, rfl⟩ := h
  rw [hbroker] at hmoves
  generalize hy : y.world.broker = b at hmoves
  cases hmoves with
  | still => exact ⟨bes, hy, by rw [List.append_nil], by rw [List.append_nil]⟩
  | event e =>
    refine ⟨bes ++ [e], ?_, ?_, ?_⟩
    · rw [hy, Broker.run_concat]
    · rw [Broker.acceptances_concat]
    · rw [Broker.takes_concat]

/-- **After every run** all sends are addressed, and a run of the broker explains what was told. -/
theorem told_run (c : BrokerConfig) (l : LockConfig) (es : List Event) :
    (∀ s ∈ (run (opened c l) es).sends, Addressed c s) ∧
      ∃ bes, Explains c (run (opened c l) es) (acceptances (opened c l) es)
        (takes (opened c l) es) bes := by
  induction es using List.reverseRecOn with
  | nil => exact ⟨nofun, [], rfl, rfl, rfl⟩
  | append_singleton es e ih =>
    obtain ⟨haddressed, bes, hexplains⟩ := ih
    -- the broker of this run is that of a run of its own, which is uniform
    have uniform : Broker.Uniform c (run (opened c l) es).world.broker := by
      rw [hexplains.broker]
      exact Broker.uniform_run c bes
    rw [run_concat, acceptances_concat, takes_concat]
    exact ⟨addressed_step uniform haddressed e,
      hexplains.step (moves_step (fun s hs => (haddressed s hs).ours) e)⟩

/-- **What was accepted in a run** is in the queue of its key. -/
theorem fits_acceptances {l : LockConfig} {es : List Event} {d : Delivery}
    (hd : d ∈ acceptances (opened c l) es) : Fits c d.message d.queue := by
  induction es using List.reverseRecOn with
  | nil => cases hd
  | append_singleton es e ih =>
    rw [acceptances_concat] at hd
    rcases List.mem_append.mp hd with hd | hd
    · exact ih hd
    · exact fits_accepted (told_run c l es).1 hd

end PostOffice

end KeyedDelivery
