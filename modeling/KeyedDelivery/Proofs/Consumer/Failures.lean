import KeyedDelivery.Proofs.Consumer.Session

/-!
# What becomes of failed deliveries

A failed delivery is asked for again or given up. The client that is asked refuses once it is shut
down, and a shutdown stops the client first and has the pool finish what it has taken afterwards: a
delivery that fails in between is neither delivered again nor given up.

* **`Answered`** — the failures that were counted are those that were reacted to and those that are
  about to be; the figures for retries and exhausted messages count reactions.
* **`answered_change`** — every change keeps it.
* **`failures_answered`** — when a consumer has drained, every failure was asked for again, given up, or
  refused, and refused only after the shutdown.
* **`drain_loses_failure`** — a run in which a delivery is lost in this way.
-/

namespace KeyedDelivery

variable {σ ω : Type}

/-- The failures that were counted, by what was done about them. -/
structure Answered (stats : ConsumerStats) (handling : Multiset (Delivery × Stage))
    (reactions : List Reaction) : Prop where
  failures : stats.failed + stats.errored = reactions.length + standing Stage.isFailing handling
  retried : stats.retried = reactions.countP (·.isRequested)
  exhausted : stats.exhausted = reactions.countP (·.isGaveUp)

theorem Report.reactions_append (rs rs' : List Report) :
    reactions (rs ++ rs') = reactions rs ++ reactions rs' :=
  List.filterMap_append

/-- A reaction is a request, a refusal or a surrender. -/
theorem length_reactions (rs : List Reaction) :
    rs.length = rs.countP (·.isRequested) + rs.countP (·.isGaveUp) + rs.countP (·.isRefused) := by
  induction rs with
  | nil => rfl
  | cons r rs ih =>
    rw [List.length_cons, List.countP_cons, List.countP_cons, List.countP_cons]
    have hone : (if r.isRequested then 1 else 0) + (if r.isGaveUp then 1 else 0) +
        (if r.isRefused then 1 else 0) = 1 := by cases r <;> rfl
    omega

/-! ## One stage -/

/-- **One stage.** A failure is counted before it is reacted to. -/
theorem answered_passed {c : Consumer σ} {d : Delivery} {k k' : Desk} {s : σ}
    {stage stage' : Stage} (h : c.Passed d k s stage stage' k') :
    k'.stats.failed + k'.stats.errored + stage.isFailing.toNat =
        k.stats.failed + k.stats.errored + (Report.reactions (c.reports d stage s)).length +
          stage'.isFailing.toNat ∧
      k'.stats.retried =
        k.stats.retried + (Report.reactions (c.reports d stage s)).countP (·.isRequested) ∧
      k'.stats.exhausted =
        k.stats.exhausted + (Report.reactions (c.reports d stage s)).countP (·.isGaveUp) := by
  cases h with
  | admitted permits => exact ⟨rfl, rfl, rfl⟩
  | asked h =>
    rw [Stage.afterHook_isFailing]
    exact ⟨rfl, rfl, rfl⟩
  | counted v =>
    cases v with
    -- a failure is counted, and its reaction is about to come
    | failed =>
      refine ⟨?_, rfl, rfl⟩
      show k.stats.failed + 1 + k.stats.errored + 0 = k.stats.failed + k.stats.errored + 0 + 1
      omega
    | _ => exact ⟨rfl, rfl, rfl⟩
  | reacted reason outcome letters =>
    -- the reaction that was about to come has come
    have hreactions : Report.reactions (c.reports d (.failing reason) s) = [c.reaction d reason s] :=
      rfl
    rw [hreactions]
    refine ⟨rfl, ?_, ?_⟩
    · rw [List.countP_singleton]
      cases hr : (c.reaction d reason s).isRequested <;> simp [ConsumerStats.react, hr]
    · rw [List.countP_singleton]
      cases hr : (c.reaction d reason s).isGaveUp <;> simp [ConsumerStats.react, hr]

namespace Workplace

/-- **One change.** The failures that were counted are still those that were reacted to and those that
are about to be. -/
theorem answered_change {x y : Workplace σ} {e : Event σ} {reactions : List Reaction}
    (h : Change x y e) (answered : Answered x.docket.desk.stats x.docket.handling reactions) :
    Answered y.docket.desk.stats y.docket.handling
      (reactions ++ Report.reactions (x.reports e)) := by
  obtain ⟨hfailures, hretried, hexhausted⟩ := answered
  have silent (hreports : x.reports e = [])
      (h : Answered y.docket.desk.stats y.docket.handling reactions) :
      Answered y.docket.desk.stats y.docket.handling
        (reactions ++ Report.reactions (x.reports e)) := by
    rw [hreports]
    exact (List.append_nil reactions).symm ▸ h
  cases h with
  | quiet hquiet hdocket =>
    refine silent (reports_of_isQuiet hquiet) ?_
    rw [hdocket]
    exact ⟨hfailures, hretried, hexhausted⟩
  | refused d _ hdocket | unstarted d reason _ hdocket | queued d _ hdocket
  | evicted d _ _ hdocket | dropped d _ hdocket | discardedQueue _ hdocket =>
    refine silent rfl ?_
    rw [hdocket]
    exact ⟨hfailures, hretried, hexhausted⟩
  | begun d _ hdocket | picked n _ _ hdocket =>
    refine silent rfl ?_
    rw [hdocket]
    refine ⟨?_, hretried, hexhausted⟩
    rw [standing_cons]
    exact hfailures
  | @ended _ d outcome rest _ hhandling hdocket hreports _ =>
    -- what leaves was reacted to before
    refine silent hreports ?_
    rw [hhandling, standing_cons] at hfailures
    rw [hdocket]
    exact ⟨hfailures, hretried, hexhausted⟩
  | @advanced _ d stage stage' desk rest hhandling hadvance hdocket hreports _ =>
    obtain ⟨hf, hr, he⟩ := answered_passed (Consumer.passed_of_advance hadvance)
    have hdesk : x.run.desk = x.docket.desk := rfl
    rw [hdesk] at hf hr he
    rw [hhandling, standing_cons] at hfailures
    rw [hdocket, hreports]
    refine ⟨?_, ?_, ?_⟩
    · show desk.stats.failed + desk.stats.errored =
        (reactions ++ _).length + standing Stage.isFailing ((d, stage') ::ₘ rest)
      rw [List.length_append, standing_cons]
      omega
    · show desk.stats.retried = (reactions ++ _).countP _
      rw [List.countP_append, hr, hretried]
    · show desk.stats.exhausted = (reactions ++ _).countP _
      rw [List.countP_append, he, hexhausted]

end Workplace

namespace Logbook

variable {D : Deployment ω} {l : Logbook ω}

/-- **Every counted failure is reacted to, or about to be.** -/
theorem answered_of_reachable (h : Reachable D l) :
    Answered l.session.run.desk.stats l.session.run.docket.handling (Report.reactions l.reports) := by
  refine invariant_of_reachable
    (fun l => Answered l.session.run.desk.stats l.session.run.docket.handling
      (Report.reactions l.reports)) ?_ ?_ h
  · intro run own _ hdocket hstats _
    rw [hdocket, hstats]
    exact ⟨rfl, rfl, rfl⟩
  · intro l y e reached next answered
    obtain ⟨inner, hinner, hstep, -⟩ := Session.step_cases next
    have hchange := Workplace.change_of_step reached.workplace.tracked.1 hstep
    unfold extend
    rw [Report.reactions_append, Session.reportsBy_eq hinner]
    exact Workplace.answered_change hchange answered

/-- A client that is not shut down refuses nothing. -/
theorem not_refused {d : Delivery} {stage : Stage} {s : Site ω} (hopen : s.client.isShutDown = false) :
    ∀ r ∈ Report.reactions (D.consumer.reports d stage s), r.isRefused = false := by
  intro r hr
  cases stage with
  | failing reason =>
    have hreactions : Report.reactions (D.consumer.reports d (.failing reason) s) =
        [D.consumer.reaction d reason s] := rfl
    rw [hreactions, List.mem_singleton, D.reaction_eq, hopen] at hr
    rw [hr]
    -- a client that is open takes the request
    split <;> rfl
  | _ => cases hr

/-- **Nothing is refused before the shutdown.** -/
theorem not_refused_of_reachable (h : Reachable D l) :
    l.session.world.client.isShutDown = false →
      ∀ r ∈ Report.reactions l.reports, r.isRefused = false := by
  refine invariant_of_reachable
    (fun l => l.session.world.client.isShutDown = false →
      ∀ r ∈ Report.reactions l.reports, r.isRefused = false) ?_ ?_ h
  · intro run own _ _ _ _ _ r hr
    cases hr
  · intro l y e reached next ih hopen r hr
    obtain ⟨tracked, hconsumer⟩ := reached.workplace.tracked
    have kept := Session.kept_of_step tracked hconsumer next
    -- the client was not shut down before either
    have hbefore : l.session.world.client.isShutDown = false := by
      cases hclosed : l.session.world.client.isShutDown with
      | false => rfl
      | true => exact absurd ((kept.closed hclosed).symm.trans hopen) (by decide)
    unfold extend at hr
    rw [Report.reactions_append] at hr
    rcases List.mem_append.mp hr with hr | hr
    · exact ih hbefore r hr
    · unfold Session.reportsBy at hr
      split at hr
      · cases hr
      · unfold Workplace.reports at hr
        split at hr
        · cases hr
        · rw [hconsumer] at hr
          exact not_refused hbefore r hr

/-- **What becomes of failures.** Whenever no delivery of a consumer of an in-memory broker runs, so
also when its pool has drained, each delivery that failed or was an error was asked for again, was
given up, or was refused by the client; and the client refuses nothing before it is shut down. -/
theorem failures_answered (h : Reachable D l) (hrunning : l.session.run.pool.running = []) :
    l.session.run.desk.stats.failed + l.session.run.desk.stats.errored =
        l.session.run.desk.stats.retried + l.session.run.desk.stats.exhausted +
          (Report.reactions l.reports).countP (·.isRefused) ∧
      (l.session.world.client.isShutDown = false →
        (Report.reactions l.reports).countP (·.isRefused) = 0) := by
  obtain ⟨hfailures, hretried, hexhausted⟩ := answered_of_reachable h
  -- no job runs, so that no reaction is about to come
  have hnone : l.session.run.docket.handling = 0 := by
    unfold ConsumerRun.docket ConsumerRun.handling
    rw [hrunning]
    rfl
  constructor
  · rw [hfailures, hnone, standing_zero, length_reactions, hretried, hexhausted]
    rfl
  · intro hopen
    rw [List.countP_eq_zero]
    intro r hr
    simp [not_refused_of_reachable h hopen r hr]

/-- A consumer whose handler accepts nothing. -/
def rejecting : Deployment Unit where
  config := {}
  pool := {}
  broker := { name := "b", queuesPerTopic := 1 }
  group := "g"
  handler := .ofProcess fun _ s => (.returned (.ok false), s)

/-- The logbook of this consumer in the beginning. -/
def unused : Logbook Unit where
  session :=
    { run :=
        { consumer := rejecting.consumer, pool := { config := {} }
          desk := { permits := .full 10 } }
      world := rejecting.site () }

theorem unused_reachable : Reachable rejecting unused := .start () rfl rfl

/-- A message is accepted, delivered and begun. -/
def beginning : List (Session.Event Unit) :=
  [.start, .others (.accept 0 ⟨"package-bind-op-topic", "", "", [], .immediate⟩
    ⟨"package-bind-op-topic", "b", 0⟩), .look, .take, .offer, .answer]

/-- Its delivery goes all the way. -/
def finishing : List (Session.Event Unit) :=
  [.work 1, .work 1, .work 1, .work 1, .work 1, .work 1, .work 1]

/-- The delivery fails before the client is shut down, and is asked for again. -/
theorem failures_answered_open :
    ∃ l, unused.run (beginning ++ finishing ++ [.stop, .look, .shutdownPool]) = some l ∧
      l.session.run.desk.stats.failed = 1 ∧ l.session.run.desk.stats.retried = 1 ∧
      l.session.run.desk.stats.failed + l.session.run.desk.stats.errored =
        l.session.run.desk.stats.retried + l.session.run.desk.stats.exhausted +
          (Report.reactions l.reports).countP (·.isRefused) := by
  have hrun : unused.run (beginning ++ finishing ++ [.stop, .look, .shutdownPool]) = some _ := rfl
  exact ⟨_, hrun, rfl, rfl, (failures_answered (unused_reachable.run hrun) rfl).1⟩

/-- **A failure that the drain loses.** The delivery is with a worker when the consumer is shut down.
Its failure is counted, and nothing is done about it. -/
theorem drain_loses_failure :
    ∃ l, unused.run (beginning ++ [.stop, .look, .shutdownPool] ++ finishing) = some l ∧
      Reachable rejecting l ∧ l.session.run.pool.queue = [] ∧ l.session.run.pool.running = [] ∧
      l.session.run.desk.stats.failed = 1 ∧ l.session.run.desk.stats.errored = 0 ∧
      l.session.run.desk.stats.retried = 0 ∧ l.session.run.desk.stats.exhausted = 0 := by
  have hrun : unused.run (beginning ++ [.stop, .look, .shutdownPool] ++ finishing) = some _ := rfl
  exact ⟨_, hrun, unused_reachable.run hrun, rfl, rfl, rfl, rfl, rfl, rfl⟩

end Logbook

end KeyedDelivery
