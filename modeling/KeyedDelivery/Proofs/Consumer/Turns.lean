import KeyedDelivery.Proofs.Consumer.Course
import KeyedDelivery.Proofs.Consumer.Session

/-!
# A session takes turns

A session shows its messages through a ledger. As long as nothing is lost between the broker and the
handler, and nobody else takes part in the group, every step of a session is a turn of this ledger, so
that every message has its course.

* **`Logbook.ledger`** — what the courses of messages are about.
* **`Undisturbed`** — nothing was discarded or refused, the client was not shut down, and nobody else
  asked or took for its group.
* **`Steady`** — what holds of every logbook: the broker is in order, accepted messages have offsets that
  were given out, and nothing is delivered before the start.
* **`turn_of_step`** — every undisturbed step is a turn.
* **`course_of_reachable`** — so every message has its course.
-/

namespace KeyedDelivery

variable {σ ω : Type}

/-! ## Losses -/

/-- The figures of what was lost never fall. -/
theorem Workplace.losses_of_change {x y : Workplace σ} {e : Event σ} (h : Change x y e) :
    x.docket.discarded ≤ y.docket.discarded ∧
      x.docket.desk.stats.dropped ≤ y.docket.desk.stats.dropped := by
  cases h with
  | advanced hhandling hadvance hdocket =>
    rw [hdocket]
    refine ⟨Nat.le_refl _, ?_⟩
    have hpassed := Consumer.passed_of_advance hadvance
    have hdesk : x.run.desk = x.docket.desk := rfl
    rw [hdesk] at hpassed
    cases hpassed with
    | counted v => cases v <;> exact Nat.le_refl _
    | _ => exact Nat.le_refl _
  | quiet _ hdocket | ended _ _ hdocket | begun _ _ hdocket | queued _ _ hdocket
  | picked _ _ _ hdocket =>
    rw [hdocket]
    exact ⟨Nat.le_refl _, Nat.le_refl _⟩
  -- a delivery is dropped, and discarded it is in the cases below
  | refused _ _ hdocket | unstarted _ _ _ hdocket =>
    rw [hdocket]
    exact ⟨Nat.le_refl _, Nat.le_add_right _ _⟩
  | evicted _ _ _ hdocket | dropped _ _ hdocket | discardedQueue _ hdocket =>
    rw [hdocket]
    exact ⟨Nat.le_add_right _ _, Nat.le_refl _⟩

/-- A worker that goes on has a delivery. -/
theorem Workplace.jobOf_of_allows {x : Workplace σ} {e : Event σ} (he : e.isWork = true)
    (h : x.allows e = true) : (x.jobOf e).isSome = true := by
  cases e with
  | work n =>
    obtain ⟨j, guard, hworker, -⟩ := ConsumerRun.advanceWorker_eq h
    rw [jobOf, hworker]
    rfl
  | workOnCaller n =>
    obtain ⟨j, hcaller, -⟩ := ConsumerRun.advanceCaller_eq h
    rw [jobOf, hcaller]
    rfl
  | _ => cases he

/-! ## What is undecided -/

/-- The deliveries that wait for a worker, and those at a stage where they have still to be decided
on. -/
def undecided (waits : List Delivery) (handling : Multiset (Delivery × Stage)) :
    Multiset (Delivery × Stage) :=
  (waits.map fun d => (d, Stage.waiting) : List (Delivery × Stage)) +
    handling.filter fun x => x.2.isActive = true

section Undecided

variable {waits waits' : List Delivery} {handling : Multiset (Delivery × Stage)} {d : Delivery}
  {stage : Stage}

/-- The order of what waits plays no part. -/
theorem undecided_perm (h : waits.Perm waits') : undecided waits handling = undecided waits' handling := by
  unfold undecided
  rw [Multiset.coe_eq_coe.mpr (h.map _)]

theorem undecided_append (waits waits' : List Delivery) (handling : Multiset (Delivery × Stage)) :
    undecided (waits ++ waits') handling =
      (waits.map fun d => (d, Stage.waiting) : List (Delivery × Stage)) + undecided waits' handling := by
  unfold undecided
  rw [List.map_append, ← Multiset.coe_add, add_assoc]

/-- What waits is in hand at the first stage. -/
theorem undecided_cons (d : Delivery) (waits : List Delivery)
    (handling : Multiset (Delivery × Stage)) :
    undecided (d :: waits) handling = (d, .waiting) ::ₘ undecided waits handling :=
  undecided_append [d] waits handling

theorem undecided_of_active (h : stage.isActive = true) :
    undecided waits ((d, stage) ::ₘ handling) = (d, stage) ::ₘ undecided waits handling := by
  unfold undecided
  rw [Multiset.filter_cons_of_pos, Multiset.add_cons]
  exact h

/-- A delivery at its last stage is decided. -/
theorem undecided_of_leaving (outcome : Outcome Unit) :
    undecided waits ((d, .leaving outcome) ::ₘ handling) = undecided waits handling := by
  unfold undecided
  rw [Multiset.filter_cons_of_neg]
  exact Bool.false_ne_true

end Undecided

namespace Session

variable {x y : Session ω} {e : Event ω}

/-- The deliveries that have still to be decided on: those in hand or in the queue, and those at a stage
before the decision. -/
def active (x : Session ω) : Multiset (Delivery × Stage) :=
  undecided (x.left ++ x.docket.queued) x.docket.handling

/-- What waits for the group of the client, of one message. -/
def waiting (x : Session ω) (o : Delivery) : Multiset Delivery :=
  x.world.broker.waiting x.world.client.group o

/-! ## The delivery thread -/

/-- Whether an event leaves the deliveries in hand alone. -/
def Event.isQuiet : Event ω → Bool
  | .take | .offer | .offerUnstarted _ | .pick _ | .work _ | .workOnCaller _ | .discardQueue => false
  | _ => true

/-- Whether an event moves deliveries from the batch in hand, or into it. -/
def Event.isDelivery : Event ω → Bool
  | .take | .offer | .offerUnstarted _ => true
  | _ => false

/-- A quiet step of a session is a quiet step of its consumer. -/
theorem isQuiet_of_inner {act : Workplace.Event (Site ω)} (h : x.inner e = some act)
    (hquiet : e.isQuiet = true) : act.isQuiet = true := by
  cases e with
  | answer =>
    rw [inner] at h
    split at h <;> cases h
    rfl
  | start | look | retire n | leave n | stop | shutdownPool | others b | clock now | own f =>
    cases h
    rfl
  | _ => cases hquiet

/-- A step that delivers nothing leaves the batch of the thread as it is. -/
theorem left_of_step (habsent : x.run.state = .stopped → x.thread = .absent)
    (h : x.threadAfter e = some y.thread) (he : e.isDelivery = false) : y.left = x.left := by
  cases e with
  | start =>
    rw [threadAfter] at h
    split at h
    · next hok =>
      -- the thread is begun by the start, with an empty batch
      obtain ⟨state, -, -, hstopped⟩ := x.run.start_run x.world
      have hthread := habsent (hstopped hok)
      unfold left
      rw [← Option.some.inj h, hthread]
    · unfold left
      rw [Option.some.inj h]
  | look =>
    rw [threadAfter] at h
    split at h
    · next hthread =>
      unfold left
      rw [← Option.some.inj h, hthread]
      cases x.world.client.running <;> rfl
    · cases h
  | answer =>
    rw [threadAfter] at h
    split at h
    · next hthread =>
      unfold left
      rw [← Option.some.inj h, hthread]
    · cases h
  | take | offer | offerUnstarted reason => cases he
  | _ =>
    unfold left
    rw [← Option.some.inj h]

/-- The delivery thread is started with the consumer. -/
theorem absent_of_step (habsent : x.run.state = .stopped → x.thread = .absent)
    (next : x.step e = some y) (hstopped : y.run.state = .stopped) : y.thread = .absent := by
  obtain ⟨act, hact, hstep, h⟩ := step_cases next
  have hthread := habsent ((Workplace.frame_of_step hstep).2 hstopped)
  cases e with
  | start =>
    -- no start leaves a consumer stopped
    cases hact
    obtain ⟨-, happly⟩ := Workplace.step_eq_some_iff.mp hstep
    obtain ⟨state, hrun, hstate, -⟩ := x.run.start_run x.world
    have hy : y.run = { x.run with state } := by
      rw [← happly]
      exact hrun
    rw [hy] at hstopped
    exact absurd hstopped hstate
  | look | take | offer | offerUnstarted reason | answer => simp [threadAfter, hthread] at h
  | _ => exact (Option.some.inj h).symm.trans hthread

/-- A take finds nothing in hand, and leaves its batch there. -/
theorem left_of_take {taken : List Delivery × Broker} (hbatch : x.batch? = some taken)
    (h : x.threadAfter .take = some y.thread) : x.left = [] ∧ y.left = taken.1 := by
  rw [threadAfter, hbatch] at h
  obtain ⟨batch, b⟩ := taken
  split at h
  · next hthread heq =>
    cases heq
    unfold left
    rw [← Option.some.inj h, hthread]
    exact ⟨rfl, rfl⟩
  · -- a batch that came out empty
    next again _ hthread heq =>
    cases heq
    unfold left
    rw [← Option.some.inj h, hthread]
    refine ⟨rfl, ?_⟩
    cases again <;> rfl
  · cases h

/-- An offer is that of the first delivery in hand. -/
theorem left_of_offer {act : Workplace.Event (Site ω)} (hinner : x.inner .offer = some act)
    (h : x.threadAfter .offer = some y.thread) : ∃ d, act = .receive d ∧ x.left = d :: y.left := by
  rw [threadAfter] at h
  split at h
  · next d ds hthread =>
    have hleft : x.left = d :: ds := by
      unfold left
      rw [hthread]
    rw [inner, hleft] at hinner
    refine ⟨d, ?_, ?_⟩
    · split at hinner
      · exact (Option.some.inj hinner).symm
      · cases hinner
    · rw [hleft]
      unfold left
      rw [← Option.some.inj h]
  · cases h

end Session

/-! ## Stages and reactions -/

/-- After a hook a delivery is still undecided. -/
theorem Stage.afterHook_isActive (h : Hook) (answer : HookAnswer) :
    (Stage.afterHook h answer).isActive = true := by
  rcases afterHook_cases h answer with ⟨next, hnext⟩ | ⟨v, hv⟩
  · rw [hnext]
    rfl
  · rw [hv]
    rfl

/-- A counted verdict is a failure, or ends the delivery. -/
theorem Stage.afterVerdict_cases (v : Verdict) :
    (∃ reason, Stage.afterVerdict v = .failing reason) ∨
      ∃ outcome, Stage.afterVerdict v = .leaving outcome ∧ (Stage.judged v).hasFailed = false := by
  cases v with
  | failed | errored reason => exact .inl ⟨_, rfl⟩
  | filtered | duplicate | succeeded => exact .inr ⟨_, rfl, rfl⟩

/-- What is done about a failure adds its copy to what waits. -/
theorem Site.waiting_react (s : Site ω) (d : Delivery) (r : Reaction) (o : Delivery) :
    (s.react d r).broker.waiting s.client.group o =
      s.broker.waiting s.client.group o + ofMessage o (r.copy d) := by
  cases r with
  | requested level =>
    show (s.broker.scheduleRedelivery s.now s.client.group d level).waiting s.client.group o = _
    rw [Broker.waiting_scheduleRedelivery, if_pos rfl]
    rfl
  | refused | gaveUp letter => exact (add_zero _).symm

/-- As long as the client is not shut down, what is done about a failure is what is due. -/
theorem Deployment.due_reaction (D : Deployment ω) {s : Site ω} (hopen : s.client.isShutDown = false)
    (d : Delivery) (reason : String) : D.Due d (D.consumer.reaction d reason s) := by
  rw [reaction_eq, hopen]
  unfold Due
  split
  · rfl
  · exact ⟨reason, rfl⟩

namespace Logbook

variable {D : Deployment ω} {l : Logbook ω} {y : Session ω} {e : Session.Event ω}

/-- What the courses of messages are about. -/
def ledger (l : Logbook ω) : Ledger where
  accepted := l.accepted
  waiting := l.session.waiting
  active := l.session.active
  handed := l.handed
  reports := l.reports

/-- Nothing that was handed over was discarded or refused, the client was not shut down, and nobody
else asked or took for its group. -/
structure Undisturbed (l : Logbook ω) : Prop where
  discarded : l.session.run.pool.discarded = 0
  dropped : l.session.run.desk.stats.dropped = 0
  running : l.session.world.client.isShutDown = false
  alone : l.shared = false

/-- What is undisturbed after a step was so before. -/
theorem Undisturbed.before (reached : Reachable D l) (next : l.session.step e = some y)
    (h : Undisturbed (l.extend e y)) : Undisturbed l ∧ l.session.sharesBy e = false := by
  obtain ⟨hdiscarded, hdropped, hrunning, halone⟩ := h
  obtain ⟨tracked, hconsumer⟩ := reached.workplace.tracked
  obtain ⟨inner, -, hstep, -⟩ := Session.step_cases next
  -- figures only grow, so that they were zero before
  obtain ⟨hdiscards, hdrops⟩ := Workplace.losses_of_change (Workplace.change_of_step tracked hstep)
  have kept := Session.kept_of_step tracked hconsumer next
  obtain ⟨hbefore, hnow⟩ := Bool.or_eq_false_iff.mp halone
  refine ⟨⟨Nat.le_zero.mp (hdiscarded ▸ hdiscards), Nat.le_zero.mp (hdropped ▸ hdrops), ?_, hbefore⟩,
    hnow⟩
  cases hclosed : l.session.world.client.isShutDown with
  | false => rfl
  | true => exact (kept.closed hclosed).symm.trans hrunning

/-! ## What holds of every logbook -/

/-- The client belongs to its group, the broker is in order, what was accepted are different first
deliveries with offsets that were given out, and the delivery thread is there after the start only. -/
structure Steady (D : Deployment ω) (l : Logbook ω) : Prop where
  group : l.session.world.client.group = D.group
  filed : l.session.world.broker.Filed
  distinct : l.accepted.Nodup
  first : ∀ d ∈ l.accepted, d.reconsumed = 0
  numbered : ∀ d ∈ l.accepted,
    d.offset < l.session.world.broker.nextOffset d.queue.topic d.queue.id.toNat
  absent : l.session.run.state = .stopped → l.session.thread = .absent

/-- A step is one event of the broker, or none. -/
theorem broker_of_effect {x : Session ω} (h : Session.Effect D x y e) :
    (y.world.broker = x.world.broker ∧ x.acceptedBy e = []) ∨
      ∃ b, y.world.broker = x.world.broker.apply b ∧ x.acceptedBy e = x.world.broker.accepted b := by
  cases h with
  | silent hbroker _ haccepted => exact .inl ⟨hbroker, haccepted⟩
  | used b hbroker _ haccepted => exact .inr ⟨b, hbroker, haccepted⟩
  | @took s he _ hbroker =>
    subst he
    exact .inr ⟨.take x.world.now s.topic x.world.client.group s.filter, hbroker, rfl⟩
  | @reacted d reason own hworld haccepted =>
    rw [hworld]
    cases D.consumer.reaction d reason x.world with
    | requested level =>
      exact .inr ⟨.redeliver x.world.now x.world.client.group d level, rfl, haccepted⟩
    | refused | gaveUp letter => exact .inl ⟨rfl, haccepted⟩

/-- A message that is accepted was not accepted before, as its offset is a new one. -/
theorem Steady.not_mem_of_accepted {b : Broker.Event} {d : Delivery} (steady : Steady D l)
    (hd : d ∈ l.session.world.broker.accepted b) : d ∉ l.accepted := by
  intro hmem
  have hlt := steady.numbered d hmem
  have hoffset := (Broker.offset_of_accepted hd).1
  omega

/-- It holds of every logbook that is reached. -/
theorem steady_of_reachable (h : Reachable D l) : Steady D l := by
  refine invariant_of_reachable (Steady D) ?_ ?_ h
  · intro run own _ _ _ _
    exact ⟨rfl, .ofConfig D.broker, .nil, nofun, nofun, fun _ => rfl⟩
  · intro l y e reached next ih
    obtain ⟨tracked, hconsumer⟩ := reached.workplace.tracked
    have habsent := Session.absent_of_step ih.absent next
    have hgroup := (Session.kept_of_step tracked hconsumer next).group.trans ih.group
    unfold extend
    rcases broker_of_effect (Session.effect_of_step tracked hconsumer next) with
      ⟨hbroker, haccepted⟩ | ⟨b, hbroker, haccepted⟩
    · rw [haccepted, List.append_nil]
      exact ⟨hgroup, hbroker ▸ ih.filed, ih.distinct, ih.first, hbroker ▸ ih.numbered, habsent⟩
    · rw [haccepted]
      refine ⟨hgroup, hbroker ▸ ih.filed.apply b, ?_, ?_, ?_, habsent⟩
      · have hone : (l.session.world.broker.accepted b).Nodup := by
          rcases Broker.accepted_le_one l.session.world.broker b with hnone | ⟨d, hd⟩
          · rw [hnone]
            exact .nil
          · rw [hd]
            exact List.nodup_singleton d
        refine ih.distinct.append hone ?_
        exact fun d hmem hd => ih.not_mem_of_accepted hd hmem
      · intro d hd
        rcases List.mem_append.mp hd with hd | hd
        · exact ih.first d hd
        · exact (Broker.offset_of_accepted hd).2
      · intro d hd
        show d.offset < y.world.broker.nextOffset d.queue.topic d.queue.id.toNat
        rw [hbroker, Broker.nextOffset_apply]
        rcases List.mem_append.mp hd with hd | hd
        · exact Nat.lt_add_right _ (ih.numbered d hd)
        · -- the queue counts it
          rw [(Broker.offset_of_accepted hd).1]
          refine Nat.lt_add_of_pos_right (List.countP_pos_iff.mpr ⟨d, hd, ?_⟩)
          simp

/-! ## Every step is a turn -/

section Turns

variable (reached : Reachable D l) (next : l.session.step e = some y)
  (undisturbed : Undisturbed (l.extend e y))

include reached next

theorem waiting_of_broker (hbroker : y.world.broker = l.session.world.broker) (o : Delivery) :
    y.waiting o = l.session.waiting o := by
  obtain ⟨tracked, hconsumer⟩ := reached.workplace.tracked
  unfold Session.waiting
  rw [hbroker, (Session.kept_of_step tracked hconsumer next).group]

omit reached next in
/-- Nothing is accepted, handed over or reported, and nothing in hand moves. -/
theorem turn_of_still (haccepted : l.session.acceptedBy e = []) (hhanded : l.session.handedBy e = [])
    (hreports : l.session.reportsBy e = []) (hactive : y.active = l.session.active)
    (hwaiting : ∀ o, y.waiting o ≤ l.session.waiting o) : Turn D l.ledger (l.extend e y).ledger := by
  have hledger : (l.extend e y).ledger = { l.ledger with waiting := y.waiting } := by
    simp only [ledger, extend, haccepted, hhanded, hreports, hactive, List.append_nil]
  rw [hledger]
  exact .idle fun o _ => hwaiting o

include undisturbed

/-- What concerns no delivery in hand may still be that a message is accepted. -/
theorem turn_of_quiet (hquiet : e.isQuiet = true) : Turn D l.ledger (l.extend e y).ledger := by
  obtain ⟨tracked, hconsumer⟩ := reached.workplace.tracked
  obtain ⟨act, hact, hstep, hthread⟩ := Session.step_cases next
  have steady := steady_of_reachable reached
  have hactquiet := Session.isQuiet_of_inner hact hquiet
  have hreports : l.session.reportsBy e = [] :=
    (Session.reportsBy_eq hact).trans (Workplace.reports_of_isQuiet hactquiet)
  have hhanded : l.session.handedBy e = [] := by
    cases e <;> first | rfl | cases hquiet
  have hactive : y.active = l.session.active := by
    have hdocket := (Workplace.change_of_step tracked hstep).docket_of_isQuiet hactquiet
    have hleft : y.left = l.session.left := by
      refine Session.left_of_step steady.absent hthread ?_
      cases e <;> first | rfl | cases hquiet
    unfold Session.active
    rw [hleft, hdocket]
  cases Session.effect_of_step tracked hconsumer next with
  | silent hbroker _ haccepted =>
    exact turn_of_still haccepted hhanded hreports hactive
      fun o => (waiting_of_broker reached next hbroker o).le
  | used b hbroker _ haccepted hshares =>
    have hgroup : b.group? ≠ some l.session.world.client.group := by
      intro h
      have halone := (undisturbed.before reached next).2
      rw [hshares h] at halone
      cases halone
    have hwaiting (o : Delivery) :
        y.waiting o ≤ l.session.waiting o + ofMessage o (l.session.acceptedBy e) := by
      unfold Session.waiting
      rw [hbroker, (Session.kept_of_step tracked hconsumer next).group, haccepted]
      exact Broker.waiting_apply l.session.world.broker b o hgroup
    -- others may have had a message accepted, one at most
    rcases Broker.accepted_le_one l.session.world.broker b with hnone | ⟨d, hd⟩
    · refine turn_of_still (haccepted.trans hnone) hhanded hreports hactive fun o => ?_
      have hle := hwaiting o
      rwa [haccepted, hnone, ofMessage_nil, add_zero] at hle
    · have hone : l.session.acceptedBy e = [d] := haccepted.trans hd
      have hmem : d ∈ l.session.world.broker.accepted b := hd ▸ List.mem_singleton_self d
      have hledger : (l.extend e y).ledger =
          { l.ledger with accepted := l.accepted ++ [d], waiting := y.waiting } := by
        simp only [ledger, extend, hone, hhanded, hreports, hactive, List.append_nil]
      rw [hledger]
      exact .accepted (Broker.offset_of_accepted hmem).2 (steady.not_mem_of_accepted hmem)
        fun o _ => hone ▸ hwaiting o
  | took he =>
    subst he
    cases hquiet
  | reacted _ _ hreacted =>
    rw [hreports] at hreacted
    cases hreacted

omit undisturbed in
/-- **A take** hands over a batch, and what it leaves waits on. -/
theorem turn_of_take (he : e = .take) : Turn D l.ledger (l.extend e y).ledger := by
  subst he
  obtain ⟨tracked, hconsumer⟩ := reached.workplace.tracked
  obtain ⟨act, hact, hstep, hthread⟩ := Session.step_cases next
  obtain ⟨s, -, hbatch, rfl⟩ := Session.inner_take hact
  generalize htaken : l.session.world.broker.takeBatch l.session.world.now s.topic
    l.session.world.client.group s.filter = taken at *
  obtain ⟨-, happly⟩ := Workplace.step_eq_some_iff.mp hstep
  obtain ⟨hbefore, hnow⟩ := Session.left_of_take hbatch hthread
  have hreports : l.session.reportsBy .take = [] :=
    (Session.reportsBy_eq hact).trans (Workplace.reports_of_isQuiet rfl)
  have hhanded : l.session.handedBy .take = taken.1 := by
    rw [Session.handedBy, hbatch, Option.map_some, Option.getD_some]
  -- the batch is in hand at the first stage, and nothing else has changed
  have hactive : y.active =
      (taken.1.map fun d => (d, Stage.waiting) : List (Delivery × Stage)) + l.session.active := by
    have hdocket : y.docket = l.session.docket :=
      (Workplace.change_of_step tracked hstep).docket_of_isQuiet rfl
    unfold Session.active
    rw [hnow, hbefore, hdocket, undecided_append, List.nil_append]
  have hledger : (l.extend .take y).ledger = l.ledger.hand taken.1 y.waiting := by
    simp only [ledger, extend, Ledger.hand, hhanded, hreports, hactive, Session.acceptedBy,
      List.append_nil]
  rw [hledger]
  refine .handed fun o _ => ?_
  -- the group is the same, and what waits for it is read off the broker
  have hwaiting : y.waiting o = taken.2.waiting l.session.world.client.group o := by
    unfold Session.waiting
    rw [(Session.kept_of_step tracked hconsumer next).group, ← happly]
    rfl
  rw [hwaiting, ← htaken]
  exact Broker.waiting_takeBatch (steady_of_reachable reached).filed _ _

/-- **A delivery that is offered** to the pool is undecided before and afterwards. -/
theorem turn_of_offer (he : e = .offer) : Turn D l.ledger (l.extend e y).ledger := by
  subst he
  obtain ⟨tracked, hconsumer⟩ := reached.workplace.tracked
  obtain ⟨act, hact, hstep, hthread⟩ := Session.step_cases next
  obtain ⟨d, rfl, hleft⟩ := Session.left_of_offer hact hthread
  have hreports : l.session.reportsBy .offer = [] :=
    (Session.reportsBy_eq hact).trans (Workplace.reports_of_jobOf_none rfl)
  have still (hworld : y.world = l.session.world) (hactive : y.active = l.session.active) :
      Turn D l.ledger (l.extend .offer y).ledger :=
    turn_of_still rfl rfl hreports hactive
      fun o => (waiting_of_broker reached next (congrArg _ hworld) o).le
  have hdiscarded : y.docket.discarded = 0 := undisturbed.discarded
  have hdropped : y.docket.desk.stats.dropped = 0 := undisturbed.dropped
  cases Workplace.change_of_step tracked hstep with
  | begun d hworld hdocket =>
    -- it waits for its permit now, and not in the batch any more
    refine still hworld ?_
    have hy : y.active = undecided (y.left ++ l.session.docket.queued)
        ((d, .waiting) ::ₘ l.session.docket.handling) := by
      unfold Session.active
      rw [hdocket]
      rfl
    rw [hy, undecided_of_active rfl, Session.active, hleft, List.cons_append, undecided_cons]
  | queued d hworld hdocket =>
    refine still hworld ?_
    unfold Session.active
    rw [hleft, hdocket]
    refine undecided_perm ?_
    show (y.left ++ (l.session.docket.queued ++ [d])).Perm _
    rw [← List.append_assoc]
    exact List.perm_append_singleton d _
  | refused d hworld hdocket =>
    -- each kind of loss would have been counted
    rw [hdocket] at hdropped
    cases hdropped
  | evicted d hworld hqueued hdocket | dropped d hworld hdocket =>
    rw [hdocket] at hdiscarded
    cases hdiscarded
  | quiet hquiet => cases hquiet
  | advanced _ _ _ _ hjob | ended _ _ _ _ hjob => cases hjob

omit reached next undisturbed in
/-- A delivery whose worker cannot be started would be refused. -/
theorem not_unstarted (reached : Reachable D l) {reason : String}
    (undisturbed : Undisturbed (l.extend (.offerUnstarted reason) y)) :
    l.session.step (.offerUnstarted reason) ≠ some y := by
  intro next
  obtain ⟨act, hact, hstep, -⟩ := Session.step_cases next
  have hdropped : y.docket.desk.stats.dropped = 0 := undisturbed.dropped
  rw [Session.inner] at hact
  split at hact
  · -- a delivery for which no thread could be started is counted as dropped
    obtain ⟨d, -, rfl⟩ := Option.map_eq_some_iff.mp hact
    cases Workplace.change_of_step reached.workplace.tracked.1 hstep with
    | unstarted d reason hworld hdocket =>
      rw [hdocket] at hdropped
      cases hdropped
    | quiet hquiet => cases hquiet
    | advanced _ _ _ _ hjob | ended _ _ _ _ hjob => cases hjob
  · cases hact

omit undisturbed in
/-- So is one that a worker picks. -/
theorem turn_of_pick {n : Nat} (he : e = .pick n) : Turn D l.ledger (l.extend e y).ledger := by
  subst he
  obtain ⟨tracked, hconsumer⟩ := reached.workplace.tracked
  obtain ⟨act, hact, hstep, hthread⟩ := Session.step_cases next
  cases hact
  have hreports : l.session.reportsBy (.pick n) = [] :=
    (Session.reportsBy_eq rfl).trans (Workplace.reports_of_jobOf_none rfl)
  have hleft := Session.left_of_step (steady_of_reachable reached).absent hthread rfl
  cases Workplace.change_of_step tracked hstep with
  | @picked _ d rest hworld hqueued hdocket =>
    refine turn_of_still rfl rfl hreports ?_
      fun o => (waiting_of_broker reached next (congrArg _ hworld) o).le
    -- the delivery leaves the queue and is in hand at the same stage
    have hy : y.active = undecided (l.session.left ++ rest)
        ((d, .waiting) ::ₘ l.session.docket.handling) := by
      unfold Session.active
      rw [hleft, hdocket]
    rw [hy, undecided_of_active rfl, Session.active, hqueued, undecided_perm List.perm_middle,
      undecided_cons]
  | quiet hquiet => cases hquiet
  | advanced _ _ _ _ hjob | ended _ _ _ _ hjob => cases hjob

/-- The queue is discarded only while it is empty. -/
theorem turn_of_discardQueue (he : e = .discardQueue) : Turn D l.ledger (l.extend e y).ledger := by
  subst he
  obtain ⟨tracked, hconsumer⟩ := reached.workplace.tracked
  obtain ⟨act, hact, hstep, hthread⟩ := Session.step_cases next
  cases hact
  have hreports : l.session.reportsBy .discardQueue = [] :=
    (Session.reportsBy_eq rfl).trans (Workplace.reports_of_jobOf_none rfl)
  have hleft := Session.left_of_step (steady_of_reachable reached).absent hthread rfl
  have hdiscarded : y.docket.discarded = 0 := undisturbed.discarded
  cases Workplace.change_of_step tracked hstep with
  | discardedQueue hworld hdocket =>
    refine turn_of_still rfl rfl hreports ?_
      fun o => (waiting_of_broker reached next (congrArg _ hworld) o).le
    -- what is discarded is counted, and nothing was
    have hqueued : l.session.docket.queued = [] := by
      rw [hdocket] at hdiscarded
      exact List.length_eq_zero_iff.mp (Nat.eq_zero_of_add_eq_zero hdiscarded).2
    unfold Session.active
    rw [hleft, hdocket, hqueued]
  | quiet hquiet => cases hquiet
  | advanced _ _ _ _ hjob | ended _ _ _ _ hjob => cases hjob

/-- **A stage of a job** is a turn of its delivery. -/
theorem turn_of_work (hdelivery : e.isDelivery = false) {act : Workplace.Event (Site ω)}
    (hact : l.session.inner e = some act) (hjob : (l.session.jobOf act).isSome = true) :
    Turn D l.ledger (l.extend e y).ledger := by
  obtain ⟨tracked, hconsumer⟩ := reached.workplace.tracked
  obtain ⟨act', hact', hstep, hthread⟩ := Session.step_cases next
  obtain rfl := Option.some.inj (hact.symm.trans hact')
  have hleft := Session.left_of_step (steady_of_reachable reached).absent hthread hdelivery
  have haccepted : l.session.acceptedBy e = [] := by
    refine Session.acceptedBy_eq_nil hact ?_
    rintro f rfl
    cases hjob
  have hhanded : l.session.handedBy e = [] := by
    cases e <;> first | rfl | cases hdelivery
  have hreports := Session.reportsBy_eq hact
  cases Workplace.change_of_step tracked hstep with
  | @ended _ d outcome rest hworld hhandling hdocket hnone =>
    refine turn_of_still haccepted hhanded (hreports.trans hnone) ?_
      fun o => (waiting_of_broker reached next (congrArg _ hworld) o).le
    unfold Session.active
    rw [hleft, hdocket, hhandling, undecided_of_leaving]
  | @advanced _ d stage stage' desk rest hhandling hadvance hdocket hreported =>
    rw [hconsumer] at hadvance hreported
    set waits := l.session.left ++ l.session.docket.queued with hwaits
    have hbefore : l.session.active = undecided waits ((d, stage) ::ₘ rest) := by
      unfold Session.active
      rw [hhandling]
    have hafter : y.active = undecided waits ((d, stage') ::ₘ rest) := by
      unfold Session.active
      rw [hleft, hdocket]
    have hledger : (l.extend e y).ledger = { l.ledger with
        active := undecided waits ((d, stage') ::ₘ rest)
        waiting := y.waiting
        reports := l.reports ++ D.consumer.reports d stage l.session.world } := by
      simp only [ledger, extend, haccepted, hhanded, hreports, hreported, hafter, List.append_nil]
    rw [hledger]
    obtain ⟨own, hworld⟩ := D.advance_world hadvance
    -- only a failure has an effect on what waits
    have hwaiting (h : stage.isFailing = false) : y.waiting = l.session.waiting := by
      rcases hworld with ⟨hworld, -⟩ | ⟨reason, rfl, -⟩
      · exact funext fun o => waiting_of_broker reached next (by rw [hworld]) o
      · cases h
    cases Consumer.passed_of_advance hadvance with
    | admitted permits =>
      have hsilent : D.consumer.reports d .waiting l.session.world = [] := rfl
      rw [hwaiting rfl, undecided_of_active rfl, hsilent, List.append_nil]
      exact .admitted (hbefore.trans (undecided_of_active rfl))
    | asked hook =>
      rw [hwaiting rfl, undecided_of_active (Stage.afterHook_isActive hook _)]
      exact .answered _ (hbefore.trans (undecided_of_active rfl))
    | counted v =>
      have hsilent : D.consumer.reports d (.judged v) l.session.world = [] := rfl
      have hactive := hbefore.trans (undecided_of_active rfl)
      rw [hwaiting rfl, hsilent, List.append_nil]
      rcases Stage.afterVerdict_cases v with ⟨reason, hv⟩ | ⟨outcome, hv, hpassed⟩
      · rw [hv, undecided_of_active rfl]
        exact .failed hactive hv
      · rw [hv, undecided_of_leaving]
        exact .passed hactive hpassed
    | reacted reason outcome letters =>
      have hrunning := (undisturbed.before reached next).1.running
      have hcopy : y.waiting = fun o => l.session.waiting o +
          ofMessage o ((D.consumer.reaction d reason l.session.world).copy d) := by
        rcases hworld with ⟨-, hfailing⟩ | ⟨reason', hreason, hworld⟩
        · cases hfailing
        · cases hreason
          refine funext fun o => ?_
          unfold Session.waiting
          rw [(Session.kept_of_step tracked hconsumer next).group, hworld]
          exact Site.waiting_react _ _ _ _
      rw [hcopy, undecided_of_leaving]
      exact .reacted (hbefore.trans (undecided_of_active rfl)) (D.due_reaction hrunning d reason)
  | quiet hquiet => cases act <;> first | cases hjob | cases hquiet
  | _ => cases hjob

/-- **Every undisturbed step is a turn.** -/
theorem turn_of_step : Turn D l.ledger (l.extend e y).ledger := by
  obtain ⟨act, hact, hstep, -⟩ := Session.step_cases next
  obtain ⟨hallows, -⟩ := Workplace.step_eq_some_iff.mp hstep
  cases e with
  | take => exact turn_of_take reached next rfl
  | offer => exact turn_of_offer reached next undisturbed rfl
  | offerUnstarted reason => exact absurd next (not_unstarted reached undisturbed)
  | pick n => exact turn_of_pick reached next rfl
  | discardQueue => exact turn_of_discardQueue reached next undisturbed rfl
  | work n | workOnCaller n =>
    cases hact
    exact turn_of_work reached next undisturbed rfl rfl (Workplace.jobOf_of_allows rfl hallows)
  | _ => exact turn_of_quiet reached next undisturbed rfl

end Turns

/-- **Every message of an undisturbed session has its course.** -/
theorem course_of_reachable (h : Reachable D l) :
    Undisturbed l → ∀ o : Delivery, o.reconsumed = 0 → Course D l.ledger o := by
  refine invariant_of_reachable
    (fun l => Undisturbed l → ∀ o : Delivery, o.reconsumed = 0 → Course D l.ledger o) ?_ ?_ h
  · intro run own _ hdocket _ _ _ o _
    refine .start (Broker.waiting_ofConfig D.broker _ o) ?_ rfl rfl
    show undecided ([] ++ run.docket.queued) run.docket.handling = 0
    rw [hdocket]
    rfl
  · intro l y e reached next ih undisturbed o ho
    -- an undisturbed logbook was undisturbed before its last step
    exact (ih (undisturbed.before reached next).1 o ho).turn ho
      (turn_of_step reached next undisturbed)

end Logbook

end KeyedDelivery
