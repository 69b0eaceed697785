import KeyedDelivery.Proofs.Broker.Backlog

/-!
# Which tags a batch holds

A take checks the tags of what it reads in the logs, and of nothing else: the copies in the retry
queue of a group go to whichever client of the group takes next, with the tags they have.

* **`batch_cases`** — what one take hands over is a redelivered copy, or stands in a log of its topic
  and has a tag that it takes.
* **`first_of_batch`** — when a group asks again only for what it was handed, every copy goes back to a
  first delivery that a take of the same group on the same topic handed over.
* **`batch_tags`** — so the batches of some clients keep to what each subscribed to exactly when the
  clients of one group that are subscribed to one topic take the same tags.
-/

namespace KeyedDelivery.Broker

/-! ## Runs that clients make -/

/-- The redeliveries that are asked for in a run are of deliveries that the group was handed before,
in a batch of one of its takes. -/
def AsksForHanded (b : Broker) (es : List Event) : Prop :=
  ∀ past e, past ++ [e] <+: es → ∀ r, e.request? = some r →
    ∃ k ∈ b.takes past, k.group = r.group ∧ r.delivery ∈ k.batch

/-- The takes of a run are made by some clients, each with its subscription. -/
def TakenBy (b : Broker) (clients : List ConsumerClient) (es : List Event) : Prop :=
  ∀ k ∈ b.takes es, ∃ client ∈ clients,
    client.group = k.group ∧ client.subscription = some ⟨k.topic, k.filter⟩

/-- Every delivery in a batch has a tag that was subscribed to by the client that took the batch. -/
def KeepsToTags (b : Broker) (es : List Event) : Prop :=
  ∀ k ∈ b.takes es, ∀ d ∈ k.batch, k.filter.accepts d.message.tag

/-- The clients of one group that are subscribed to one topic take the same tags. -/
def AgreeOnTags (clients : List ConsumerClient) : Prop :=
  ∀ x ∈ clients, ∀ y ∈ clients, x.group = y.group →
    ∀ s s', x.subscription = some s → y.subscription = some s' → s.topic = s'.topic →
      ∀ tag, s.filter.accepts tag → s'.filter.accepts tag

/-- A run without requests asks for nothing that was not handed over. -/
theorem asksForHanded_of_silent {b : Broker} {es : List Event} (h : ∀ e ∈ es, e.request? = none) :
    AsksForHanded b es := by
  intro past e hpre r hr
  rw [h e (hpre.subset (List.mem_append_right _ (List.mem_singleton_self e)))] at hr
  cases hr

/-- One more event may ask for what was handed over before it. -/
theorem asksForHanded_concat {b : Broker} {es : List Event} {e : Event} :
    AsksForHanded b (es ++ [e]) ↔ AsksForHanded b es ∧ ∀ r, e.request? = some r →
      ∃ k ∈ b.takes es, k.group = r.group ∧ r.delivery ∈ k.batch := by
  constructor
  · intro h
    exact ⟨fun past e' hpre => h past e' (hpre.trans (List.prefix_append _ _)),
      h es e List.prefix_rfl⟩
  · rintro ⟨hpast, hlast⟩ past e' hpre
    -- the request is the last event, or stands in the run before
    rcases List.prefix_concat_iff.mp hpre with heq | hpre
    · obtain ⟨rfl, he⟩ := List.append_inj' heq rfl
      rw [List.singleton_inj.mp he]
      exact hlast
    · exact hpast past e' hpre

/-- What a group asks for in a run was handed over to it in the run. -/
theorem AsksForHanded.of_request {b : Broker} {es : List Event} (h : AsksForHanded b es)
    {r : Request} (hr : r ∈ requests es) :
    ∃ k ∈ b.takes es, k.group = r.group ∧ r.delivery ∈ k.batch := by
  induction es using List.reverseRecOn with
  | nil => cases hr
  | append_singleton es e ih =>
    obtain ⟨hpast, hlast⟩ := asksForHanded_concat.mp h
    rw [requests_concat, List.mem_append, Option.mem_toList] at hr
    rw [takes_concat]
    -- asked for before the last event, or by it
    rcases hr with hr | hr
    · obtain ⟨k, hk, hgroup, hd⟩ := ih hpast hr
      exact ⟨k, List.mem_append_left _ hk, hgroup, hd⟩
    · obtain ⟨k, hk, hgroup, hd⟩ := hlast r hr
      exact ⟨k, List.mem_append_left _ hk, hgroup, hd⟩

/-! ## One batch -/

/-- The first loop takes copies of the topic only. -/
theorem topic_of_takeRetry {t : String} {room : Nat} {ds : List Delivery} {d : Delivery}
    (h : d ∈ (takeRetry t room ds).1) : d.message.topic = t := by
  rw [takeRetry_taken] at h
  simpa using (List.mem_filter.mp (List.mem_of_mem_take h)).2

/-- **What one take hands over** is a copy of the topic, or stands in a log of the topic and has a tag
that the take takes. -/
theorem batch_cases {c : BrokerConfig} {es : List Event} {e : Event} {k : Take}
    (h : ((ofConfig c).run es).took e = some k) {d : Delivery} (hd : d ∈ k.batch) :
    (d.reconsumed ≠ 0 ∧ d.message.topic = k.topic) ∨
      ∃ i, d ∈ ((ofConfig c).run (es ++ [e])).log k.topic i ∧ k.filter.accepts d.message.tag := by
  obtain ⟨b', room, -, filed, hk, happly⟩ := took_cases h (filed_run c es)
  have hbatch : k.batch = (b'.drainReady k.topic k.group k.filter room).1 := by rw [hk]; rfl
  obtain ⟨fresh, hfst, hlogs⟩ := drainReady_fst_logs b' k.topic k.group k.filter room
  have hmem := hd
  rw [hbatch, hfst] at hmem
  rcases List.mem_append.mp hmem with hcopy | hfresh
  · exact .inl ⟨filed.of_mem_takenCopies hcopy, topic_of_takeRetry hcopy⟩
  · obtain ⟨i, hlog⟩ := hlogs d hfresh
    have hfirst : d ∈ (b'.drainReady k.topic k.group k.filter room).1.filter
        (·.isFirstOf k.topic i) :=
      List.mem_filter.mpr ⟨hbatch ▸ hd, filed.logs k.topic i d hlog⟩
    rw [fresh_drainReady b' k.topic k.group k.filter room filed] at hfirst
    refine .inr ⟨i, ?_, (List.mem_filter.mp hfirst).2⟩
    -- the take leaves the log as it is, so that it is the log of the longer run
    rw [run_concat, happly]
    rwa [log_drainReady]

/-- What one take hands over is of the topic, and is a copy or has a tag that the take takes. -/
theorem batch_took {c : BrokerConfig} {es : List Event} {e : Event} {k : Take}
    (h : ((ofConfig c).run es).took e = some k) {d : Delivery} (hd : d ∈ k.batch) :
    d.message.topic = k.topic ∧ (d.reconsumed = 0 → k.filter.accepts d.message.tag) := by
  rcases batch_cases h hd with ⟨hcopy, htopic⟩ | ⟨i, hlog, htag⟩
  · exact ⟨htopic, fun hzero => absurd hzero hcopy⟩
  · exact ⟨(topic_of_held (List.mem_append_left _ hlog)).2, fun _ => htag⟩

/-! ## Runs -/

/-- **What a take of a run hands over** is of its topic, and if it is a first delivery, has a tag
that it takes. -/
theorem batch_run {c : BrokerConfig} {es : List Event} {k : Take} (hk : k ∈ (ofConfig c).takes es)
    {d : Delivery} (hd : d ∈ k.batch) :
    d.message.topic = k.topic ∧ (d.reconsumed = 0 → k.filter.accepts d.message.tag) := by
  induction es using List.reverseRecOn with
  | nil => cases hk
  | append_singleton es e ih =>
    rw [takes_concat, List.mem_append, Option.mem_toList] at hk
    rcases hk with hk | hk
    · exact ih hk
    · exact batch_took hk hd

/-- A copy that was handed over is of a delivery that the group asked for. -/
theorem request_of_copy {c : BrokerConfig} {es : List Event} {k : Take}
    (hk : k ∈ (ofConfig c).takes es) {d : Delivery} (hd : d ∈ k.batch) (hcopy : d.reconsumed ≠ 0) :
    ∃ r ∈ requests es, r.group = k.group ∧ d = r.delivery.again := by
  have hhanded : d ∈ (ofConfig c).copiesHanded es k.group :=
    List.mem_flatMap.mpr ⟨k, List.mem_filter.mpr ⟨hk, beq_self_eq_true _⟩,
      List.mem_filter.mpr ⟨hd, decide_eq_true hcopy⟩⟩
  have hasked := (copies_run c es k.group).mem_iff.mp (List.mem_append_left _ hhanded)
  obtain ⟨r, hr, hagain⟩ := List.mem_map.mp hasked
  obtain ⟨hr, hgroup⟩ := List.mem_filter.mp hr
  exact ⟨r, hr, beq_iff_eq.mp hgroup, hagain.symm⟩

/-- **Every copy goes back to a first delivery** that a take of the same group on the same topic
handed over. -/
theorem first_of_batch {c : BrokerConfig} {es : List Event} (h : AsksForHanded (ofConfig c) es)
    {k : Take} (hk : k ∈ (ofConfig c).takes es) {d : Delivery} (hd : d ∈ k.batch) :
    ∃ k' ∈ (ofConfig c).takes es, k'.topic = k.topic ∧ k'.group = k.group ∧ d.first ∈ k'.batch := by
  -- on the last event, as a copy is handed over after it was asked for
  induction es using List.reverseRecOn generalizing k d with
  | nil => cases hk
  | append_singleton es e ih =>
    obtain ⟨hpast, -⟩ := asksForHanded_concat.mp h
    by_cases hzero : d.reconsumed = 0
    · refine ⟨k, hk, rfl, rfl, ?_⟩
      rwa [Delivery.first, ← hzero]
    · have hlonger {k' : Take} (hk' : k' ∈ (ofConfig c).takes es) :
          k' ∈ (ofConfig c).takes (es ++ [e]) := by
        rw [takes_concat]
        exact List.mem_append_left _ hk'
      obtain ⟨r, hr, hgroup, hagain⟩ := request_of_copy hk hd hzero
      have hsame : r.delivery.message = d.message := by rw [hagain]; rfl
      have hback : d.first = r.delivery.first := by rw [hagain]; rfl
      rw [takes_concat, List.mem_append, Option.mem_toList] at hk
      rcases hk with hk | hk
      · obtain ⟨k', hk', hof⟩ := ih hpast hk hd
        exact ⟨k', hlonger hk', hof⟩
      · -- the last event is a take, so that the copy was asked for before it
        have hbefore : r ∈ requests es := by
          rw [requests_concat, List.mem_append, Option.mem_toList] at hr
          refine hr.resolve_right fun hr => ?_
          cases e <;> simp [took, Event.request?] at hk hr
        obtain ⟨k₀, hk₀, hgroup₀, hd₀⟩ := hpast.of_request hbefore
        obtain ⟨k', hk', htopic, hgroup', hfirst⟩ := ih hpast hk₀ hd₀
        refine ⟨k', hlonger hk', ?_, by rw [hgroup', hgroup₀, hgroup], hback ▸ hfirst⟩
        rw [htopic, ← (batch_run hk₀ hd₀).1, hsame, (batch_took hk hd).1]

/-! ## Two clients that do not agree -/

section Disagreement

/-- The settings of a broker with one queue per topic. -/
def narrow : BrokerConfig := { name := "b", queuesPerTopic := 1 }

variable (t g tag : String) (f f' : TagFilter)

/-- The first message that the narrow broker accepts. -/
def firstMessage : Delivery :=
  ⟨(ofConfig narrow).freshId 0, ⟨t, tag, "", [], .immediate⟩, ⟨t, "b", 0⟩, 0, 0⟩

/-- The narrow broker with its first message, which the groups have received as `groups` says. -/
def withFirst (groups : Table String GroupState) : Broker :=
  { ofConfig narrow with
    topics := [(t, [{ nextOffset := 1, log := [firstMessage t tag] }])], groups, sent := 1 }

/-- A message is accepted, and taken with a filter. -/
def readFirst : List Event :=
  [.accept 0 (firstMessage t tag).message (firstMessage t tag).queue, .take 0 t g f]

/-- What is taken with one filter is asked for again, and then taken with another filter. -/
def handedOn : List Event :=
  readFirst t g tag f ++ [.redeliver 0 g (firstMessage t tag) .immediate] ++ [.take 0 t g f']

theorem accept_firstMessage :
    ((ofConfig narrow).accept 0 (firstMessage t tag).message (firstMessage t tag).queue).2 =
      withFirst t tag [] := by
  simp [accept, openTopic, createTopic, queues?, Table.find?, Table.put, store, withFirst,
    firstMessage, ofConfig, narrow, BrokerConfig.clamped, freshId, DelayLevel.isImmediate,
    DelayLevel.immediate]

/-- The message is read out of the log when its tag is taken. -/
theorem takeBatch_withFirst (h : f.accepts tag) :
    (withFirst t tag []).takeBatch 0 t g f =
      ([firstMessage t tag], withFirst t tag [(g, { cursors := [(t, [1])] })]) := by
  have htag : f.accepts (firstMessage t tag).message.tag = true := h
  simp [takeBatch, promoteDue, drainReady, takeRetry, takeLogs, takeLog, htag, withFirst, group,
    queues?, Table.find?, Table.put, ofConfig, narrow, BrokerConfig.clamped]

/-- The copy is handed over whether its tag is taken or not. -/
theorem takeBatch_copy :
    (((withFirst t tag [(g, { cursors := [(t, [1])] })]).scheduleRedelivery 0 g
      (firstMessage t tag) .immediate).takeBatch 0 t g f').1 = [(firstMessage t tag).again] := by
  simp [takeBatch, promoteDue, promote, appendRetry, scheduleRedelivery, drainReady, takeRetry,
    takeLogs, takeLog, withFirst, group, queues?, Table.find?, Table.put, ofConfig, narrow,
    BrokerConfig.clamped, firstMessage, Delivery.again, DelayTable.duration, DelayLevel.immediate]

/-- After the first take, the group has read the log to its end. -/
theorem run_readFirst (h : f.accepts tag) :
    (ofConfig narrow).run (readFirst t g tag f) = withFirst t tag [(g, { cursors := [(t, [1])] })] := by
  simp only [readFirst, run, List.foldl_cons, List.foldl_nil, apply, accept_firstMessage,
    takeBatch_withFirst t g tag f h]

/-- The one take of this run hands over the message. -/
theorem takes_readFirst (h : f.accepts tag) :
    (ofConfig narrow).takes (readFirst t g tag f) =
      [⟨t, g, f, [], [1], [firstMessage t tag]⟩] := by
  have hunread : (withFirst t tag []).cursors t g = [] := rfl
  have hread : (withFirst t tag [(g, { cursors := [(t, [1])] })]).cursors t g = [1] := by
    simp [cursors, group, withFirst, Table.find?]
  simp only [readFirst, takes, took, apply, accept_firstMessage, recordTake,
    takeBatch_withFirst t g tag f h, Option.toList_some, Option.toList_none, List.nil_append,
    List.append_nil]
  rw [hunread, hread]

/-- The second take hands over the copy of what the first one did. -/
theorem takes_handedOn (h : f.accepts tag) :
    ∃ k, (ofConfig narrow).takes (handedOn t g tag f f') =
        [⟨t, g, f, [], [1], [firstMessage t tag]⟩, k] ∧
      k.topic = t ∧ k.group = g ∧ k.filter = f' ∧ k.batch = [(firstMessage t tag).again] := by
  rw [handedOn, takes_concat, takes_concat, takes_readFirst t g tag f h, run_concat,
    run_readFirst t g tag f h]
  exact ⟨_, rfl, rfl, rfl, rfl, by rw [recordTake, apply, takeBatch_copy]⟩

/-- The group asks for the message that it was handed. -/
theorem asksForHanded_handedOn (h : f.accepts tag) :
    AsksForHanded (ofConfig narrow) (handedOn t g tag f f') := by
  have hsilent : AsksForHanded (ofConfig narrow) (readFirst t g tag f) :=
    asksForHanded_of_silent (by simp [readFirst, Event.request?])
  have hasked : AsksForHanded (ofConfig narrow)
      (readFirst t g tag f ++ [.redeliver 0 g (firstMessage t tag) .immediate]) := by
    refine asksForHanded_concat.mpr ⟨hsilent, fun r hr => ?_⟩
    obtain rfl := Option.some.inj hr
    rw [takes_readFirst t g tag f h]
    exact ⟨_, List.mem_singleton_self _, rfl, List.mem_singleton_self _⟩
  exact asksForHanded_concat.mpr ⟨hasked, fun r hr => by cases hr⟩

/-- The run is made by two clients of the group. -/
theorem takenBy_handedOn (h : f.accepts tag) {clients : List ConsumerClient} {x y : ConsumerClient}
    (hx : x ∈ clients) (hxg : x.group = g) (hxs : x.subscription = some ⟨t, f⟩)
    (hy : y ∈ clients) (hyg : y.group = g) (hys : y.subscription = some ⟨t, f'⟩) :
    TakenBy (ofConfig narrow) clients (handedOn t g tag f f') := by
  obtain ⟨k, htakes, htopic, hgroup, hfilter, -⟩ := takes_handedOn t g tag f f' h
  rw [TakenBy, htakes]
  intro k' hk'
  rcases List.mem_cons.mp hk' with rfl | hk'
  · exact ⟨x, hx, hxg, hxs⟩
  · rw [List.mem_singleton.mp hk', htopic, hgroup, hfilter]
    exact ⟨y, hy, hyg, hys⟩

/-- The second client is handed a tag, whatever it subscribed to. -/
theorem accepts_of_keepsToTags (h : f.accepts tag)
    (hkeeps : KeepsToTags (ofConfig narrow) (handedOn t g tag f f')) : f'.accepts tag := by
  obtain ⟨k, htakes, -, -, hfilter, hbatch⟩ := takes_handedOn t g tag f f' h
  have haccepts := hkeeps k (by simp [htakes]) (firstMessage t tag).again (by simp [hbatch])
  rwa [hfilter] at haccepts

end Disagreement

/-! ## The whole -/

/-- **A batch holds what was subscribed to, but for copies.** Over all runs of all brokers:

* the first deliveries in a batch have tags that the client which took it subscribed to;
* when a group asks again only for what it was handed, every delivery in a batch goes back to a first
  delivery of the topic that a client of the group took, with a tag that this client subscribed to;
* so the runs that some clients make, asking again only for what they were handed, keep all batches
  to what each client subscribed to exactly when clients of one group with one topic agree. -/
theorem batch_tags (clients : List ConsumerClient) :
    (∀ c es, ∀ k ∈ (ofConfig c).takes es, ∀ d ∈ k.batch, d.reconsumed = 0 →
      k.filter.accepts d.message.tag) ∧
    (∀ c es, AsksForHanded (ofConfig c) es → ∀ k ∈ (ofConfig c).takes es, ∀ d ∈ k.batch,
      ∃ k' ∈ (ofConfig c).takes es, k'.topic = k.topic ∧ k'.group = k.group ∧ d.first ∈ k'.batch ∧
        k'.filter.accepts d.message.tag) ∧
    ((∀ c es, TakenBy (ofConfig c) clients es → AsksForHanded (ofConfig c) es →
      KeepsToTags (ofConfig c) es) ↔ AgreeOnTags clients) := by
  have horigin : ∀ c es, AsksForHanded (ofConfig c) es → ∀ k ∈ (ofConfig c).takes es,
      ∀ d ∈ k.batch, ∃ k' ∈ (ofConfig c).takes es, k'.topic = k.topic ∧ k'.group = k.group ∧
        d.first ∈ k'.batch ∧ k'.filter.accepts d.message.tag := by
    intro c es hasks k hk d hd
    obtain ⟨k', hk', htopic, hgroup, hfirst⟩ := first_of_batch hasks hk hd
    exact ⟨k', hk', htopic, hgroup, hfirst, (batch_run hk' hfirst).2 rfl⟩
  refine ⟨fun c es k hk d hd => (batch_run hk hd).2, horigin, ?_, ?_⟩
  · intro hkeeps x hx y hy hgroup s s' hs hs' htopic tag htag
    have htaken := takenBy_handedOn s.topic y.group tag s.filter s'.filter htag hx hgroup hs hy rfl
      (by rw [hs', htopic])
    exact accepts_of_keepsToTags s.topic y.group tag s.filter s'.filter htag
      (hkeeps narrow _ htaken (asksForHanded_handedOn s.topic y.group tag s.filter s'.filter htag))
  · -- what the client that took the first delivery accepts, every other of its group does
    intro hagree c es htaken hasks k hk d hd
    obtain ⟨k', hk', htopic, hgroup, -, htag⟩ := horigin c es hasks k hk d hd
    obtain ⟨x, hx, hxg, hxs⟩ := htaken k' hk'
    obtain ⟨y, hy, hyg, hys⟩ := htaken k hk
    exact hagree x hx y hy (by rw [hxg, hyg, hgroup]) _ _ hxs hys htopic _ htag

/-- **A copy reaches a client that did not subscribe to its tag.** Two clients of one group subscribe
to one topic, the one to tag `a` and the other to tag `b`. The first is handed a message with tag `a`
and asks for it again, and the second is handed the copy. -/
theorem copy_crosses_subscriptions :
    let first : ConsumerClient := ⟨"g", some ⟨"t", .tags ["a"]⟩, false, false, false⟩
    let second : ConsumerClient := ⟨"g", some ⟨"t", .tags ["b"]⟩, false, false, false⟩
    let es := handedOn "t" "g" "a" (.tags ["a"]) (.tags ["b"])
    (ConsumerClient.subscribe { group := "g" } (ofConfig narrow) "t" "a").1.toOption = some first ∧
    (ConsumerClient.subscribe { group := "g" } (ofConfig narrow) "t" "b").1.toOption = some second ∧
    TakenBy (ofConfig narrow) [first, second] es ∧ AsksForHanded (ofConfig narrow) es ∧
    ¬ KeepsToTags (ofConfig narrow) es := by
  have htag : (TagFilter.tags ["a"]).accepts "a" = true := by decide
  refine ⟨by decide, by decide, ?_, ?_, ?_⟩
  · exact takenBy_handedOn "t" "g" "a" _ _ htag (List.mem_cons_self ..) rfl rfl
      (List.mem_cons_of_mem _ (List.mem_singleton_self _)) rfl rfl
  · exact asksForHanded_handedOn "t" "g" "a" _ _ htag
  · -- the copy of a message tagged "a" went to the client that takes "b"
    intro hkeeps
    exact absurd (accepts_of_keepsToTags "t" "g" "a" _ _ htag hkeeps) (by decide)

end KeyedDelivery.Broker
