import KeyedDelivery.Proofs.Consumer.Exhaustion
import KeyedDelivery.Proofs.Consumer.Failures

/-!
# How often a message is delivered

A message that keeps failing is delivered with the counts 0, 1, 2 and so on up to the limit of retries,
and is given up then.

* **`Session.Decided`** — what was to be done about a delivery was done.
* **`Logbook.requested`**, **`Logbook.givenUp`** — the deliveries that were asked for again, and those
  that were given up.
* **`fate`** — what happens to a delivery: nothing as long as it is undecided or has not failed, and one
  reaction otherwise.
* **`recorded_of_effect`**, **`letters_of_effect`** — what one step adds to the record of the broker and
  to the letters of the sink.
* **`recorded_of_reachable`**, **`letters_of_reachable`** — so the record holds the requests, and the
  sink has what was given up.
* **`retries_escalate`** — the deliveries of a message, the requests that the broker recorded, and what
  was given up.
-/

namespace KeyedDelivery

variable {ω : Type}

/-! ## Reactions by kind -/

namespace Report

/-- The delivery that a report is a reaction of some kind to, if it is. -/
def reactedTo? (p : Reaction → Bool) : Report → Option Delivery
  | .answered .. => none
  | .reacted d r => if p r then some d else none

/-- The deliveries with a reaction of some kind, in the order of the reactions. -/
def reactedTo (p : Reaction → Bool) (reports : List Report) : List Delivery :=
  reports.filterMap (·.reactedTo? p)

variable {p : Reaction → Bool} {d : Delivery} {reports rs : List Report}

/-- The deliveries that were reacted to in one way, earlier and later. -/
theorem reactedTo_append (p : Reaction → Bool) (reports rs : List Report) :
    reactedTo p (reports ++ rs) = reactedTo p reports ++ reactedTo p rs :=
  List.filterMap_append

theorem reactedTo_singleton (p : Reaction → Bool) (d : Delivery) (r : Reaction) :
    reactedTo p [.reacted d r] = if p r then [d] else [] := by
  by_cases hp : p r = true <;> simp [reactedTo, reactedTo?, hp]

/-- Reports without a reaction name none. -/
theorem reactedTo_of_silent (h : ∀ r ∈ rs, r.reaction? = none) : reactedTo p rs = [] := by
  refine List.filterMap_eq_nil_iff.mpr fun r hr => ?_
  cases r with
  | answered d h answer => rfl
  | reacted d r => cases h _ hr

theorem reactions_cons (r : Report) (rs : List Report) :
    reactions (r :: rs) = reactions [r] ++ reactions rs :=
  reactions_append [r] rs

/-- There are as many of them as reactions of this kind. -/
theorem length_reactedTo (p : Reaction → Bool) (reports : List Report) :
    (reactedTo p reports).length = (reactions reports).countP p := by
  induction reports with
  | nil => rfl
  | cons r rs ih =>
    rw [reactions_cons, List.countP_append, ← ih, ← List.singleton_append, reactedTo_append,
      List.length_append]
    cases r with
    | answered d h answer => rfl
    | reacted d r =>
      rw [reactedTo_singleton]
      by_cases hp : p r = true <;> simp [reactions, reaction?, hp]

/-- A delivery is there as often as there are such reactions to it. -/
theorem count_reactedTo (p : Reaction → Bool) (d : Delivery) (reports : List Report) :
    (reactedTo p reports).count d = (reactionsTo d reports).countP p := by
  induction reports with
  | nil => rfl
  | cons r rs ih =>
    have hreactions : reactionsTo d (r :: rs) = reactionsTo d [r] ++ reactionsTo d rs := by
      unfold reactionsTo
      rw [← reactions_append, ← on_append, List.singleton_append]
    rw [hreactions, List.countP_append, ← ih, ← List.singleton_append, reactedTo_append,
      List.count_append]
    -- the first report is about this delivery or another, and is a reaction or not
    congr 1
    cases r with
    | answered d' h answer =>
      by_cases hd : d' = d <;>
        simp [reactionsTo, on, delivery, hd, reactions, reaction?, reactedTo, reactedTo?]
    | reacted d' r =>
      rw [reactedTo_singleton]
      by_cases hd : d' = d <;> by_cases hp : p r = true <;>
        simp [reactionsTo, on, delivery, hd, reactions, reaction?, hp]

/-- A delivery is among them if one of the reactions to it is of the kind. -/
theorem mem_reactedTo : d ∈ reactedTo p reports ↔ ∃ r ∈ reactionsTo d reports, p r = true := by
  rw [← List.count_pos_iff, count_reactedTo, List.countP_pos_iff]

end Report

/-! ## The fate of a delivery -/

namespace Session

/-- What was to be done about a delivery was done: it is not in the batch in hand, not queued, and at no
stage but the last. -/
def Decided (x : Session ω) (d : Delivery) : Prop :=
  d ∉ x.left ∧ d ∉ x.docket.queued ∧
    ∀ stage, (d, stage) ∈ x.docket.handling → stage.isActive = false

/-- A delivery is decided when it is in hand at no stage any more. -/
theorem decided_iff {x : Session ω} {d : Delivery} :
    x.Decided d ↔ ∀ z ∈ x.active, z.1 ≠ d := by
  unfold Decided active undecided
  constructor
  · rintro ⟨hleft, hqueued, hstage⟩ z hz rfl
    rcases Multiset.mem_add.mp hz with hz | hz
    · obtain ⟨d, hd, rfl⟩ := List.mem_map.mp (Multiset.mem_coe.mp hz)
      rcases List.mem_append.mp hd with hd | hd
      · exact hleft hd
      · exact hqueued hd
    · obtain ⟨hz, hactive⟩ := Multiset.mem_filter.mp hz
      exact absurd hactive (by rw [hstage z.2 hz]; exact Bool.false_ne_true)
  · intro h
    -- what waits is in hand at the first stage
    have hwaits (hd : d ∈ x.left ++ x.docket.queued) : False :=
      h (d, .waiting) (Multiset.mem_add.mpr (.inl (List.mem_map.mpr ⟨d, hd, rfl⟩))) rfl
    refine ⟨fun hd => hwaits (List.mem_append_left _ hd),
      fun hd => hwaits (List.mem_append_right _ hd), fun stage hstage => ?_⟩
    cases hactive : stage.isActive with
    | false => rfl
    | true =>
      exact absurd rfl (h (d, stage) (Multiset.mem_add.mpr
        (.inr (Multiset.mem_filter.mpr ⟨hstage, hactive⟩))))

end Session

namespace Logbook

variable {D : Deployment ω} {l : Logbook ω} {d o : Delivery}

/-- What was handed over of a message, given by its first delivery. -/
def deliveriesOf (l : Logbook ω) (o : Delivery) : List Delivery := l.handed.filter (·.first = o)

/-- The deliveries that were asked for again. -/
def requested (l : Logbook ω) : List Delivery := Report.reactedTo (·.isRequested) l.reports

/-- The deliveries that were given up. -/
def givenUp (l : Logbook ω) : List Delivery := Report.reactedTo (·.isGaveUp) l.reports

/-- A delivery that was handed over and has failed, when everything was done about it. -/
def Failed (l : Logbook ω) (d : Delivery) : Prop :=
  d ∈ l.handed ∧ l.session.Decided d ∧ Report.failed d l.reports = true

/-- **The fate of a delivery.** There is one reaction to a failure, which is the one that is due, and
none to anything else. -/
theorem fate (h : Reachable D l) (undisturbed : Undisturbed l) (d : Delivery) :
    (¬ l.Failed d ∧ Report.reactionsTo d l.reports = []) ∨
      (l.Failed d ∧ ∃ r, Report.reactionsTo d l.reports = [r] ∧ D.Due d r) := by
  have course := course_of_reachable h undisturbed d.first rfl
  by_cases hhanded : d ∈ l.handed
  · by_cases hdecided : l.session.Decided d
    · have hd : d ∈ l.ledger.deliveries d.first := List.mem_filter.mpr ⟨hhanded, by simp⟩
      have settled := course.settled d hd (Session.decided_iff.mp hdecided)
      unfold Deployment.Settled at settled
      split at settled
      · next hfailed => exact .inr ⟨⟨hhanded, hdecided, hfailed⟩, settled⟩
      · next hfailed => exact .inl ⟨fun h => hfailed h.2.2, settled⟩
    · -- it is still somewhere before the decision
      have hactive : ∃ z ∈ l.session.active, z.1 = d := by
        simpa [Session.decided_iff] using hdecided
      obtain ⟨z, hz, rfl⟩ := hactive
      exact .inl ⟨fun h => hdecided h.2.1, (course.pending z hz rfl).2⟩
  · have hunheard : Report.on d l.reports = [] := course.unheard d rfl hhanded
    refine .inl ⟨fun h => hhanded h.1, ?_⟩
    rw [Report.reactionsTo, hunheard]
    rfl

/-- No delivery has two reactions. -/
theorem nodup_reactedTo (h : Reachable D l) (undisturbed : Undisturbed l) (p : Reaction → Bool) :
    (Report.reactedTo p l.reports).Nodup := by
  rw [List.nodup_iff_count_le_one]
  intro d
  rw [Report.count_reactedTo]
  refine List.countP_le_length.trans ?_
  -- there is no more than one reaction to a delivery
  rcases fate h undisturbed d with ⟨-, hnone⟩ | ⟨-, r, hone, -⟩
  · rw [hnone]
    exact Nat.zero_le 1
  · rw [hone]
    exact Nat.le_refl 1

/-- **What was asked for again** is what failed below the limit of retries. -/
theorem mem_requested (h : Reachable D l) (undisturbed : Undisturbed l) (d : Delivery) :
    d ∈ l.requested ↔ l.Failed d ∧ d.reconsumed < D.config.maxRetryTimes := by
  unfold requested
  rw [Report.mem_reactedTo]
  rcases fate h undisturbed d with ⟨hnot, hnone⟩ | ⟨hfailed, r, hone, due⟩
  · simp [hnot, hnone]
  · unfold Deployment.Due at due
    split at due
    · -- below the limit the one reaction is a request, and at the limit it is not
      next hlt => simp [hfailed, hone, due, hlt, Reaction.isRequested]
    · next hge =>
      obtain ⟨reason, rfl⟩ := due
      simp [hfailed, hone, hge, Reaction.isRequested]

/-- No delivery has a count beyond the limit. -/
theorem count_le_limit (h : Reachable D l) (undisturbed : Undisturbed l) (hd : d ∈ l.handed) :
    d.reconsumed ≤ D.config.maxRetryTimes :=
  UInt32.le_iff_toNat_le.mpr
    ((course_of_reachable h undisturbed d.first rfl).limit d (List.mem_filter.mpr ⟨hd, by simp⟩))

/-- **What was given up** is what failed at the limit. -/
theorem mem_givenUp (h : Reachable D l) (undisturbed : Undisturbed l) (d : Delivery) :
    d ∈ l.givenUp ↔ l.Failed d ∧ d.reconsumed = D.config.maxRetryTimes := by
  unfold givenUp
  rw [Report.mem_reactedTo]
  rcases fate h undisturbed d with ⟨hnot, hnone⟩ | ⟨hfailed, r, hone, due⟩
  · simp [hnot, hnone]
  · -- no delivery is above the limit, so that one not below it is at it
    have hlimit := count_le_limit h undisturbed hfailed.1
    unfold Deployment.Due at due
    split at due
    · next hlt =>
      have hne : d.reconsumed ≠ D.config.maxRetryTimes := UInt32.ne_of_lt hlt
      simp [hfailed, hone, due, hne, Reaction.isGaveUp]
    · next hge =>
      obtain ⟨reason, rfl⟩ := due
      have heq : d.reconsumed = D.config.maxRetryTimes := UInt32.le_antisymm hlimit (UInt32.not_lt.mp hge)
      simp [hfailed, hone, heq, Reaction.isGaveUp]

end Logbook

/-! ## What the broker and the sink have of it -/

/-- An event of others adds nothing to the record of a group. -/
theorem Broker.recorded_apply (b : Broker) {e : Event} {g : String} (h : e.group? ≠ some g) :
    (b.apply e).redeliveries.filter (·.group = g) = b.redeliveries.filter (·.group = g) := by
  rw [redeliveries_apply, List.filter_append]
  cases e with
  | redeliver now g' d level =>
    have hne : g' ≠ g := fun hg => h (congrArg some hg)
    simp [Event.request?, Request.record, hne]
  | _ => exact List.append_nil _

namespace Logbook

variable {D : Deployment ω} {l : Logbook ω} {d o : Delivery}

theorem requested_extend (l : Logbook ω) (e : Session.Event ω) (y : Session ω) :
    (l.extend e y).requested =
      l.requested ++ Report.reactedTo (·.isRequested) (l.session.reportsBy e) :=
  Report.reactedTo_append _ _ _

theorem givenUp_extend (l : Logbook ω) (e : Session.Event ω) (y : Session ω) :
    (l.extend e y).givenUp = l.givenUp ++ Report.reactedTo (·.isGaveUp) (l.session.reportsBy e) :=
  Report.reactedTo_append _ _ _

/-- How the broker records that a group asked for a delivery again. -/
def recordOf (group : String) (d : Delivery) : Redelivery :=
  ⟨group, d.id, d.message.key, d.again.reconsumed, .forRetry d.reconsumed⟩

/-- A step adds the requests of the consumer to the record of its group, and nothing else. -/
theorem recorded_of_effect {x y : Session ω} {e : Session.Event ω} (h : Session.Effect D x y e)
    (hgroup : x.world.client.group = D.group) (halone : x.sharesBy e = false) :
    y.world.broker.redeliveries.filter (·.group = D.group) =
      x.world.broker.redeliveries.filter (·.group = D.group) ++
        (Report.reactedTo (·.isRequested) (x.reportsBy e)).map (recordOf D.group) := by
  cases h with
  | silent hbroker _ _ hsilent =>
    rw [Report.reactedTo_of_silent hsilent, hbroker, List.map_nil, List.append_nil]
  | used b hbroker _ _ hshares hreports =>
    have hother : b.group? ≠ some D.group := by
      intro hb
      rw [hshares (hgroup ▸ hb)] at halone
      cases halone
    rw [hreports, hbroker, Broker.recorded_apply _ hother]
    exact (List.append_nil _).symm
  | took _ _ hbroker _ hreports =>
    rw [hreports, hbroker, Broker.takeBatch, Broker.redeliveries_drainReady,
      Broker.redeliveries_promoteDue]
    exact (List.append_nil _).symm
  | @reacted d reason own hworld _ hreports =>
    rw [hreports, Report.reactedTo_singleton, hworld, D.reaction_eq]
    split
    · -- below the limit the client asks, unless it is shut down
      split
      · exact (List.append_nil _).symm
      · show (x.world.broker.redeliveries ++ [recordOf x.world.client.group d]).filter _ = _
        rw [hgroup, List.filter_append]
        simp [recordOf, Reaction.isRequested]
    · exact (List.append_nil _).symm

/-- **The broker records what was asked for again**, in the order of the requests. -/
theorem recorded_of_reachable (h : Reachable D l) :
    l.shared = false → l.session.world.broker.redeliveries.filter (·.group = D.group) =
      l.requested.map (recordOf D.group) := by
  refine invariant_of_reachable
    (fun l => l.shared = false → l.session.world.broker.redeliveries.filter (·.group = D.group) =
      l.requested.map (recordOf D.group)) ?_ ?_ h
  · intro run own _ _ _ _ _
    rfl
  · intro l y e reached next ih hshared
    -- nobody else has asked before, and nobody asks now
    obtain ⟨hbefore, hnow⟩ := Bool.or_eq_false_iff.mp hshared
    obtain ⟨tracked, hconsumer⟩ := reached.workplace.tracked
    have effect := Session.effect_of_step tracked hconsumer next
    rw [requested_extend, List.map_append, ← ih hbefore]
    exact recorded_of_effect effect (steady_of_reachable reached).group hnow

/-- What a sink is told of deliveries that are given up, if there is one. -/
def told (D : Deployment ω) (ds : List Delivery) : List (Delivery × UInt32) :=
  if D.sink.isSome then ds.map fun d => (d, DelayLevel.increment d.reconsumed) else []

/-- The letters about some deliveries and about others. -/
theorem told_append (D : Deployment ω) (ds ds' : List Delivery) :
    told D (ds ++ ds') = told D ds ++ told D ds' := by
  unfold told
  split
  · exact List.map_append
  · rfl

theorem told_nil (D : Deployment ω) : told D [] = [] := by
  unfold told
  split <;> rfl

/-- A step adds the letters of what is given up, and nothing else. -/
theorem letters_of_effect {x y : Session ω} {e : Session.Event ω} (h : Session.Effect D x y e) :
    y.world.letters.map (fun z => (z.delivery, z.attempts)) =
      x.world.letters.map (fun z => (z.delivery, z.attempts)) ++
        told D (Report.reactedTo (·.isGaveUp) (x.reportsBy e)) := by
  have silent (hletters : y.world.letters = x.world.letters)
      (hnone : Report.reactedTo (·.isGaveUp) (x.reportsBy e) = []) :
      y.world.letters.map (fun z => (z.delivery, z.attempts)) =
        x.world.letters.map (fun z => (z.delivery, z.attempts)) ++
          told D (Report.reactedTo (·.isGaveUp) (x.reportsBy e)) := by
    rw [hnone, told_nil, List.append_nil, hletters]
  cases h with
  | silent _ hletters _ hsilent => exact silent hletters (Report.reactedTo_of_silent hsilent)
  | used b _ hletters _ _ hreports => exact silent hletters (by rw [hreports]; rfl)
  | took _ _ _ hletters hreports => exact silent hletters (by rw [hreports]; rfl)
  | @reacted d reason own hworld _ hreports =>
    rw [D.reaction_eq] at hworld hreports
    split at hworld
    · next hlt =>
      -- the request, and also its refusal, is no matter of the sink
      rw [if_pos hlt] at hreports
      refine silent ?_ ?_
      · rw [hworld]
        split <;> rfl
      · rw [hreports]
        split <;> rfl
    · next hge =>
      rw [if_neg hge] at hreports
      have hletters : y.world.letters =
          x.world.letters ++ (D.sink.map fun _ => DeadLetter.ofDelivery d reason).toList := by
        rw [hworld]
        rfl
      rw [hreports, Report.reactedTo_singleton, hletters, List.map_append]
      cases hsink : D.sink <;> simp [told, hsink, Reaction.isGaveUp, DeadLetter.ofDelivery]

/-- **The sink gets what was given up**, in the order of the surrenders. -/
theorem letters_of_reachable (h : Reachable D l) :
    l.session.world.letters.map (fun x => (x.delivery, x.attempts)) = told D l.givenUp := by
  refine invariant_of_reachable
    (fun l => l.session.world.letters.map (fun x => (x.delivery, x.attempts)) = told D l.givenUp)
    ?_ ?_ h
  · intro run own _ _ _ _
    exact (told_nil D).symm
  · intro l y e reached next ih
    obtain ⟨tracked, hconsumer⟩ := reached.workplace.tracked
    rw [givenUp_extend, told_append, ← ih]
    exact letters_of_effect (Session.effect_of_step tracked hconsumer next)

/-! ## The law -/

/-- A count below another one can be raised. -/
theorem increment_of_lt {n m : UInt32} (h : n < m) : DelayLevel.increment n = n + 1 := by
  refine if_neg ?_
  rintro rfl
  have hlt : 4294967295 < m.toNat := UInt32.lt_iff_toNat_lt.mp h
  have hmax := m.toNat_lt
  omega

/-- A message is given up once. -/
theorem nodup_first_givenUp (h : Reachable D l) (undisturbed : Undisturbed l) :
    (l.givenUp.map (·.first)).Nodup := by
  refine (nodup_reactedTo h undisturbed _).map_on fun d hd d' hd' hfirst => ?_
  -- both have the count of the limit
  have hcount := ((mem_givenUp h undisturbed d).mp hd).2
  have hcount' := ((mem_givenUp h undisturbed d').mp hd').2
  obtain ⟨id, message, queue, offset, n⟩ := d
  obtain ⟨id', message', queue', offset', n'⟩ := d'
  simp only [Delivery.first, Delivery.mk.injEq, and_true] at hfirst
  simp only at hcount hcount'
  simp [hfirst, hcount, hcount']

/-- What was given up was delivered last. -/
theorem getLast_of_givenUp (h : Reachable D l) (undisturbed : Undisturbed l) (hd : d ∈ l.givenUp) :
    (l.deliveriesOf d.first).getLast? = some d := by
  have course := course_of_reachable h undisturbed d.first rfl
  obtain ⟨⟨hhanded, -⟩, hcount⟩ := (mem_givenUp h undisturbed d).mp hd
  have hcounts : (l.deliveriesOf d.first).map (·.reconsumed.toNat) =
      List.range (l.deliveriesOf d.first).length := course.counts
  have hlimit : ∀ d' ∈ l.deliveriesOf d.first,
      d'.reconsumed.toNat ≤ D.config.maxRetryTimes.toNat := course.limit
  generalize hds : l.deliveriesOf d.first = ds at hcounts hlimit
  -- each stands at the place that its count says
  have hplace (i : Nat) (hi : i < ds.length) : ds[i].reconsumed.toNat = i := by
    have hi' : i < (ds.map (·.reconsumed.toNat)).length := by rwa [List.length_map]
    have hget : (ds.map (·.reconsumed.toNat))[i] = i := by
      simp only [hcounts, List.getElem_range]
    rwa [List.getElem_map] at hget
  have hmem : d ∈ ds := hds ▸ List.mem_filter.mpr ⟨hhanded, by simp⟩
  obtain ⟨i, hi, rfl⟩ := List.getElem_of_mem hmem
  have hlast := hlimit ds[ds.length - 1] (List.getElem_mem (by omega))
  rw [hplace, ← hcount, hplace] at hlast
  rw [List.getLast?_eq_getElem?, show ds.length - 1 = i by omega, List.getElem?_eq_getElem hi]

/-- **The course of retries.** A consumer of an in-memory broker is not shut down, its pool discards and
refuses nothing, and nobody else takes part in its group. What is handed over are deliveries of accepted
messages; those of one message have the counts 0, 1, 2 and so on, up to the limit at most. A delivery is
asked for again if and only if it failed below the limit, which is recorded with the next count as its
count and its level. It is given up if and only if it failed at the limit, which happens to no message
twice; then it was the last delivery of its message, counts as exhausted, and is what the sink gets, if
there is one, with the number of its attempts, which ends at the largest 32-bit number. -/
theorem retries_escalate (h : Reachable D l) (undisturbed : Undisturbed l) :
    (l.accepted.Nodup ∧ ∀ d ∈ l.handed, d.first ∈ l.accepted) ∧
    (∀ o ∈ l.accepted,
      (l.deliveriesOf o).map (·.reconsumed.toNat) = List.range (l.deliveriesOf o).length ∧
      ∀ d ∈ l.deliveriesOf o, d.reconsumed ≤ D.config.maxRetryTimes) ∧
    (∀ d, d ∈ l.requested ↔ l.Failed d ∧ d.reconsumed < D.config.maxRetryTimes) ∧
    l.requested.Nodup ∧
    l.session.world.broker.redeliveries.filter (·.group = D.group) = l.requested.map (fun d =>
      ⟨D.group, d.id, d.message.key, d.reconsumed + 1, ⟨d.reconsumed + 1⟩⟩) ∧
    (∀ d, d ∈ l.givenUp ↔ l.Failed d ∧ d.reconsumed = D.config.maxRetryTimes) ∧
    (l.givenUp.map (·.first)).Nodup ∧
    (∀ d ∈ l.givenUp, (l.deliveriesOf d.first).getLast? = some d) ∧
    l.session.run.desk.stats.exhausted = l.givenUp.length ∧
    l.session.world.letters.map (fun x => (x.delivery, x.attempts.toNat)) =
      if D.sink.isSome then
        l.givenUp.map fun d => (d, min (D.config.maxRetryTimes.toNat + 1) 4294967295)
      else [] := by
  refine ⟨⟨(steady_of_reachable h).distinct, ?accepted⟩, ?deliveries, mem_requested h undisturbed,
    nodup_reactedTo h undisturbed _, ?recorded, mem_givenUp h undisturbed,
    nodup_first_givenUp h undisturbed, fun d => getLast_of_givenUp h undisturbed, ?exhausted,
    ?letters⟩
  case accepted =>
    -- a message that was not accepted has no deliveries
    intro d hd
    by_contra hnew
    have hnone := ((course_of_reachable h undisturbed d.first rfl).known hnew).2
    have hmem : d ∈ l.ledger.deliveries d.first := List.mem_filter.mpr ⟨hd, by simp⟩
    rw [hnone] at hmem
    cases hmem
  case deliveries =>
    intro o ho
    have hzero : o.reconsumed = 0 := (steady_of_reachable h).first o ho
    refine ⟨(course_of_reachable h undisturbed o hzero).counts, fun d hd => ?_⟩
    exact count_le_limit h undisturbed (List.mem_filter.mp hd).1
  case recorded =>
    rw [recorded_of_reachable h undisturbed.alone]
    refine List.map_congr_left fun d hd => ?_
    have hlt := ((mem_requested h undisturbed d).mp hd).2
    rw [recordOf, Delivery.again, DelayLevel.forRetry, increment_of_lt hlt]
  case exhausted =>
    rw [(answered_of_reachable h).exhausted]
    exact (Report.length_reactedTo _ _).symm
  case letters =>
    have hletters := congrArg (List.map fun x : Delivery × UInt32 => (x.1, x.2.toNat))
      (letters_of_reachable h)
    rw [List.map_map] at hletters
    refine Eq.trans hletters ?_
    unfold told
    split
    · rw [List.map_map]
      refine List.map_congr_left fun d hd => ?_
      have hcount := ((mem_givenUp h undisturbed d).mp hd).2
      simp only [Function.comp_apply, DelayLevel.toNat_increment_min, hcount]
    · rfl

/-- A message whose two deliveries fail, where the limit is one retry. -/
theorem retries_escalate_twice :
    ∃ l, (Stubborn.unused 1).run (beginning ++ finishing ++
        [.clock (Time.seconds 1), .look, .take, .offer, .answer, .pick 1] ++ finishing) = some l ∧
      l.Undisturbed ∧ l.deliveriesOf (Stubborn.attempt 0) = [Stubborn.attempt 0, Stubborn.attempt 1] ∧
      l.requested = [Stubborn.attempt 0] ∧ l.givenUp = [Stubborn.attempt 1] ∧
      l.session.world.letters.map (fun x => (x.delivery, x.attempts.toNat)) =
        l.givenUp.map fun d => (d, min ((1 : UInt32).toNat + 1) 4294967295) := by
  have hrun : (Stubborn.unused 1).run (beginning ++ finishing ++
      [.clock (Time.seconds 1), .look, .take, .offer, .answer, .pick 1] ++ finishing) = some _ := rfl
  have hlaw := retries_escalate ((Stubborn.unused_reachable 1).run hrun) ⟨rfl, rfl, rfl, rfl⟩
  obtain ⟨-, -, -, -, -, -, -, -, -, hletters⟩ := hlaw
  exact ⟨_, hrun, ⟨rfl, rfl, rfl, rfl⟩, rfl, rfl, rfl, hletters⟩

/-- **The count of attempts saturates.** With the largest limit there is a run in which the last delivery
fails, and the sink is told of as many attempts as there were retries, not of one more. -/
theorem attempts_saturate :
    ∃ l d, Reachable (stubborn 4294967295) l ∧ l.Undisturbed ∧ l.Failed d ∧
      d.reconsumed = (stubborn 4294967295).config.maxRetryTimes ∧
      l.session.world.letters.map (fun x => (x.delivery, x.attempts.toNat)) = [(d, 4294967295)] ∧
      4294967295 ≠ (stubborn 4294967295).config.maxRetryTimes.toNat + 1 := by
  obtain ⟨l, reached, undisturbed, hletters⟩ := Stubborn.gives_up 4294967295
  have hmap : [Stubborn.letter 4294967295].map (fun x => (x.delivery, x.attempts)) =
      l.givenUp.map fun d => (d, DelayLevel.increment d.reconsumed) := by
    rw [← hletters]
    exact letters_of_reachable reached
  -- the only letter is that of the only delivery that was given up
  obtain ⟨d, hgivenUp, hletter⟩ := List.map_eq_singleton_iff.mp hmap.symm
  obtain ⟨hfailed, hcount⟩ :=
    (mem_givenUp reached undisturbed d).mp (hgivenUp ▸ List.mem_singleton_self d)
  refine ⟨l, d, reached, undisturbed, hfailed, hcount, ?_, by decide⟩
  have hd : d = (Stubborn.letter 4294967295).delivery := congrArg Prod.fst hletter
  rw [hletters, hd]
  rfl

end Logbook

end KeyedDelivery
