import KeyedDelivery.Consumer.Session
import KeyedDelivery.Proofs.Broker.Waiting
import Mathlib.Data.Multiset.Count

/-!
# The course of a message

Seen from one message, a consumer of a broker does little: the message waits for the group, is handed
to the listener, goes through the hooks to a verdict, and if it failed it waits again, one count
higher, or is given up. Everything else that happens only concerns other messages.

* **`Ledger`** — what has to be known of a session to follow its messages: what waits, what is in hand
  and at which stage, what was handed over, and what was reported.
* **`Turn`** — what can happen to a ledger, one constructor for each step of a message.
* **`Course`** — the invariant of one message: it is in one place at most, and what was handed over of
  it has the counts 0, 1, 2 and so on.
* **`Course.turn`** — every turn keeps it.
-/

namespace KeyedDelivery

variable {ω : Type}

/-- Whether a delivery at this stage has still to be decided on. -/
def Stage.isActive : Stage → Bool
  | .leaving _ => false
  | _ => true

/-- Whether a delivery at this stage has failed. -/
def Stage.hasFailed : Stage → Bool
  | .judged .failed => true
  | .judged (.errored _) => true
  | .failing _ => true
  | _ => false

/-- The answer of a hook leads to a failure if it is one. -/
theorem Stage.afterHook_hasFailed (h : Hook) (answer : HookAnswer) :
    (Stage.afterHook h answer).hasFailed = h.fails answer := by
  rcases answer with (chain | b) | p
  · rfl
  · cases h <;> cases b <;> rfl
  · rfl

/-- The copy that a reaction has the broker schedule. -/
def Reaction.copy (r : Reaction) (d : Delivery) : List Delivery :=
  if r.isRequested then [d.again] else []

/-- The reaction that is due to the failure of a delivery. -/
def Deployment.Due (D : Deployment ω) (d : Delivery) (r : Reaction) : Prop :=
  if d.reconsumed < D.config.maxRetryTimes then r = .requested (.forRetry d.reconsumed)
  else ∃ reason, r = .gaveUp (D.sink.map fun _ => .ofDelivery d reason)

/-- What has to be known of a session to follow its messages. -/
structure Ledger where
  accepted : List Delivery
  /-- What waits for the group, of the message with a given first delivery. -/
  waiting : Delivery → Multiset Delivery
  /-- The deliveries in hand that have still to be decided on. -/
  active : Multiset (Delivery × Stage)
  handed : List Delivery
  reports : List Report

namespace Ledger

def deliveries (k : Ledger) (o : Delivery) : List Delivery := k.handed.filter (·.first = o)

/-- The ledger after a batch was handed over. -/
def hand (k : Ledger) (batch : List Delivery) (waiting : Delivery → Multiset Delivery) : Ledger :=
  { k with
    waiting
    handed := k.handed ++ batch
    active := (batch.map fun d => (d, Stage.waiting) : List (Delivery × Stage)) + k.active }

end Ledger

/-- What can happen to a ledger. -/
inductive Turn (D : Deployment ω) (k : Ledger) : Ledger → Prop where
  /-- Nothing happens to a message, or what waited is lost. -/
  | idle {waiting : Delivery → Multiset Delivery}
      (hwaiting : ∀ o, o.reconsumed = 0 → waiting o ≤ k.waiting o) : Turn D k { k with waiting }
  | accepted {d : Delivery} {waiting : Delivery → Multiset Delivery} (hfirst : d.reconsumed = 0)
      (hnew : d ∉ k.accepted)
      (hwaiting : ∀ o, o.reconsumed = 0 → waiting o ≤ k.waiting o + ofMessage o [d]) :
      Turn D k { k with accepted := k.accepted ++ [d], waiting }
  | handed {batch : List Delivery} {waiting : Delivery → Multiset Delivery}
      (hwaiting : ∀ o, o.reconsumed = 0 → ofMessage o batch + waiting o ≤ k.waiting o) :
      Turn D k (k.hand batch waiting)
  | admitted {d : Delivery} {rest : Multiset (Delivery × Stage)}
      (hactive : k.active = (d, .waiting) ::ₘ rest) :
      Turn D k { k with active := (d, .asking .filter) ::ₘ rest }
  | answered {d : Delivery} {h : Hook} {rest : Multiset (Delivery × Stage)} (answer : HookAnswer)
      (hactive : k.active = (d, .asking h) ::ₘ rest) :
      Turn D k { k with
        active := (d, .afterHook h answer) ::ₘ rest
        reports := k.reports ++ [.answered d h answer] }
  /-- A failure is counted. -/
  | failed {d : Delivery} {v : Verdict} {reason : String} {rest : Multiset (Delivery × Stage)}
      (hactive : k.active = (d, .judged v) ::ₘ rest) (hv : Stage.afterVerdict v = .failing reason) :
      Turn D k { k with active := (d, .failing reason) ::ₘ rest }
  /-- Any other verdict is counted. -/
  | passed {d : Delivery} {v : Verdict} {rest : Multiset (Delivery × Stage)}
      (hactive : k.active = (d, .judged v) ::ₘ rest)
      (hv : (Stage.judged v).hasFailed = false) : Turn D k { k with active := rest }
  | reacted {d : Delivery} {reason : String} {r : Reaction} {rest : Multiset (Delivery × Stage)}
      (hactive : k.active = (d, .failing reason) ::ₘ rest) (due : D.Due d r) :
      Turn D k { k with
        active := rest
        reports := k.reports ++ [.reacted d r]
        waiting := fun o => k.waiting o + ofMessage o (r.copy d) }

/-- A delivery was decided on: nothing was done about it, unless it failed. -/
def Deployment.Settled (D : Deployment ω) (reports : List Report) (d : Delivery) : Prop :=
  if Report.failed d reports then ∃ r, Report.reactionsTo d reports = [r] ∧ D.Due d r
  else Report.reactionsTo d reports = []

/-- The course of the message with a given first delivery. -/
structure Course (D : Deployment ω) (k : Ledger) (o : Delivery) : Prop where
  single : (k.waiting o).card + k.active.countP (·.1.first = o) ≤ 1
  counts : (k.deliveries o).map (·.reconsumed.toNat) = List.range (k.deliveries o).length
  limit : ∀ d ∈ k.deliveries o, d.reconsumed.toNat ≤ D.config.maxRetryTimes.toNat
  awaited : ∀ d ∈ k.waiting o, d.first = o ∧ d.reconsumed.toNat = (k.deliveries o).length ∧
    d.reconsumed.toNat ≤ D.config.maxRetryTimes.toNat
  latest : ∀ x ∈ k.active, x.1.first = o →
    x.1 ∈ k.handed ∧ x.1.reconsumed.toNat + 1 = (k.deliveries o).length
  pending : ∀ x ∈ k.active, x.1.first = o →
    Report.failed x.1 k.reports = x.2.hasFailed ∧ Report.reactionsTo x.1 k.reports = []
  settled : ∀ d ∈ k.deliveries o, (∀ x ∈ k.active, x.1 ≠ d) → D.Settled k.reports d
  unheard : ∀ d, d.first = o → d ∉ k.handed → Report.on d k.reports = []
  known : o ∉ k.accepted → k.waiting o = 0 ∧ k.deliveries o = []

/-! ## Reports -/

namespace Report

variable {d d' : Delivery} {reports rs : List Report}

/-- What was reported of a delivery earlier and later. -/
theorem on_append (d : Delivery) (reports rs : List Report) :
    on d (reports ++ rs) = on d reports ++ on d rs :=
  List.filter_append reports rs

/-- A report about one delivery says nothing of another. -/
theorem on_append_of_ne (habout : ∀ r ∈ rs, r.delivery = d) (h : d' ≠ d) :
    on d' (reports ++ rs) = on d' reports := by
  have hnone : on d' rs = [] := by
    rw [on, List.filter_eq_nil_iff]
    intro r hr
    rw [habout r hr]
    simpa using Ne.symm h
  rw [on_append, hnone, List.append_nil]

/-- New reports about the delivery join those that there are of it. -/
theorem on_append_self (habout : ∀ r ∈ rs, r.delivery = d) :
    on d (reports ++ rs) = on d reports ++ rs := by
  have hall : on d rs = rs := List.filter_eq_self.mpr fun r hr => by simpa using habout r hr
  rw [on_append, hall]

theorem failed_append_self (habout : ∀ r ∈ rs, r.delivery = d) :
    failed d (reports ++ rs) = (failed d reports || rs.any (·.isFailure)) := by
  unfold failed
  rw [on_append_self habout, List.any_append]

theorem reactionsTo_append_self (habout : ∀ r ∈ rs, r.delivery = d) :
    reactionsTo d (reports ++ rs) = reactionsTo d reports ++ reactions rs := by
  unfold reactionsTo reactions
  rw [on_append_self habout, List.filterMap_append]

/-- Whether a delivery failed, and which reactions there were, is read off the reports about it. -/
theorem failed_congr (h : on d reports = on d rs) : failed d reports = failed d rs := by
  unfold failed
  rw [h]

theorem reactionsTo_congr (h : on d reports = on d rs) : reactionsTo d reports = reactionsTo d rs := by
  unfold reactionsTo
  rw [h]

end Report

/-- Whether a delivery was settled is a matter of the reports about it. -/
theorem Deployment.Settled.congr {D : Deployment ω} {reports rs : List Report} {d : Delivery}
    (settled : D.Settled reports d) (h : Report.on d rs = Report.on d reports) : D.Settled rs d := by
  unfold Settled at settled ⊢
  rwa [Report.failed_congr h, Report.reactionsTo_congr h]

/-! ## One turn -/

namespace Course

variable {D : Deployment ω} {k : Ledger} {o d d' : Delivery} {stage stage' : Stage}
  {rest : Multiset (Delivery × Stage)} {rs : List Report}

/-- At the start nothing is known of the message. -/
theorem start (hwaiting : k.waiting o = 0) (hactive : k.active = 0) (hhanded : k.handed = [])
    (hreports : k.reports = []) : Course D k o := by
  have hdeliveries : k.deliveries o = [] := by
    unfold Ledger.deliveries
    rw [hhanded]
    rfl
  -- every clause is about deliveries that wait, are in hand or were handed over, and there are
  -- none
  have hinactive (x : Delivery × Stage) : x ∉ k.active := by
    rw [hactive]
    exact Multiset.notMem_zero x
  refine
    { single := by rw [hwaiting, hactive]; exact Nat.zero_le 1
      counts := by rw [hdeliveries]; rfl
      limit := fun d hd => by rw [hdeliveries] at hd; cases hd
      awaited := fun d hd => by rw [hwaiting] at hd; exact absurd hd (Multiset.notMem_zero d)
      latest := fun x hx => absurd hx (hinactive x)
      pending := fun x hx => absurd hx (hinactive x)
      settled := fun d hd => by rw [hdeliveries] at hd; cases hd
      unheard := fun d _ _ => by rw [hreports]; rfl
      known := fun _ => ⟨hwaiting, hdeliveries⟩ }

/-- What waits may become less, as when others take of it. -/
theorem idle (course : Course D k o) {waiting : Delivery → Multiset Delivery}
    (h : waiting o ≤ k.waiting o) : Course D { k with waiting } o :=
  { course with
    single := Nat.le_trans (Nat.add_le_add_right (Multiset.card_le_card h) _) course.single
    awaited := fun d hd => course.awaited d (Multiset.mem_of_le h hd)
    known := fun hnew => ⟨Multiset.le_zero.mp ((course.known hnew).1 ▸ h), (course.known hnew).2⟩ }

section InHand

variable (course : Course D k o) (hactive : k.active = (d, stage) ::ₘ rest)

include course hactive

/-- A message that is in hand is nowhere else. -/
theorem only (hd : d.first = o) : k.waiting o = 0 ∧ ∀ x ∈ rest, x.1.first ≠ o := by
  have hsingle := course.single
  rw [hactive, Multiset.countP_cons, if_pos hd] at hsingle
  constructor
  · exact Multiset.card_eq_zero.mp (by omega)
  · have hrest : rest.countP (·.1.first = o) = 0 := by omega
    exact fun x hx => Multiset.countP_eq_zero.mp hrest x hx

/-- What is in hand was handed over last. -/
theorem last (hd : d.first = o) :
    d ∈ k.handed ∧ d.reconsumed.toNat + 1 = (k.deliveries o).length :=
  course.latest (d, stage) (hactive ▸ Multiset.mem_cons_self _ _) hd

/-- What is reported of a delivery in hand changes nothing for the others in hand. -/
theorem pending_others (habout : ∀ r ∈ rs, r.delivery = d) {x : Delivery × Stage} (hx : x ∈ rest)
    (hfirst : x.1.first = o) : Report.failed x.1 (k.reports ++ rs) = x.2.hasFailed ∧
      Report.reactionsTo x.1 (k.reports ++ rs) = [] := by
  have hne : x.1 ≠ d := fun h => (course.only hactive (h ▸ hfirst)).2 x hx hfirst
  have hsame : Report.on x.1 (k.reports ++ rs) = Report.on x.1 k.reports :=
    Report.on_append_of_ne habout hne
  rw [Report.failed_congr hsame, Report.reactionsTo_congr hsame]
  exact course.pending x (hactive ▸ Multiset.mem_cons_of_mem hx) hfirst

/-- It changes nothing for what was decided on. -/
theorem settled_others (habout : ∀ r ∈ rs, r.delivery = d) (hd' : d' ∈ k.deliveries o)
    (hne : d' ≠ d) (hdone : ∀ x ∈ rest, x.1 ≠ d') : D.Settled (k.reports ++ rs) d' := by
  refine (course.settled d' hd' fun x hx => ?_).congr (Report.on_append_of_ne habout hne)
  rw [hactive] at hx
  rcases Multiset.mem_cons.mp hx with rfl | hx
  · exact Ne.symm hne
  · exact hdone x hx

/-- It is no report of what was not handed over. -/
theorem unheard_others (habout : ∀ r ∈ rs, r.delivery = d) (hfirst : d'.first = o)
    (hd' : d' ∉ k.handed) : Report.on d' (k.reports ++ rs) = [] := by
  have hne : d' ≠ d := by
    rintro rfl
    exact hd' (course.last hactive hfirst).1
  rw [Report.on_append_of_ne habout hne]
  exact course.unheard d' hfirst hd'

/-- A delivery in hand moves to a stage where it has still to be decided on. -/
theorem moved (habout : ∀ r ∈ rs, r.delivery = d)
    (hself : d.first = o → Report.failed d (k.reports ++ rs) = stage'.hasFailed ∧
      Report.reactionsTo d (k.reports ++ rs) = []) :
    Course D { k with active := (d, stage') ::ₘ rest, reports := k.reports ++ rs } o := by
  refine
    { counts := course.counts
      limit := course.limit
      awaited := course.awaited
      known := course.known
      single := ?_
      latest := ?_
      pending := ?_
      settled := ?_
      unheard := fun d' => course.unheard_others hactive habout }
  · have hsingle := course.single
    rw [hactive, Multiset.countP_cons] at hsingle
    rw [Multiset.countP_cons]
    exact hsingle
  · intro x hx hfirst
    rcases Multiset.mem_cons.mp hx with rfl | hx
    · exact course.last hactive hfirst
    · exact course.latest x (hactive ▸ Multiset.mem_cons_of_mem hx) hfirst
  · intro x hx hfirst
    rcases Multiset.mem_cons.mp hx with rfl | hx
    · exact hself hfirst
    · exact course.pending_others hactive habout hx hfirst
  · intro d' hd' hdone
    -- this delivery is not settled, as it is still in hand
    have hne : d' ≠ d := fun h => hdone _ (Multiset.mem_cons_self _ _) h.symm
    exact course.settled_others hactive habout hd' hne
      fun x hx => hdone x (Multiset.mem_cons_of_mem hx)

/-- A stage is passed without a report. -/
theorem advanced (hstage : stage'.hasFailed = stage.hasFailed) :
    Course D { k with active := (d, stage') ::ₘ rest } o := by
  have moved : Course D { k with active := (d, stage') ::ₘ rest, reports := k.reports ++ [] } o := by
    refine course.moved hactive (by simp) fun hfirst => ?_
    rw [List.append_nil, hstage]
    exact course.pending (d, stage) (hactive ▸ Multiset.mem_cons_self _ _) hfirst
  rwa [List.append_nil] at moved

/-- A delivery in hand was decided on; a copy of it may wait afterwards. -/
theorem done (habout : ∀ r ∈ rs, r.delivery = d)
    (hsettled : d.first = o → D.Settled (k.reports ++ rs) d) {copies : List Delivery}
    (hcopies : ∀ c ∈ copies, c.reconsumed.toNat = d.reconsumed.toNat + 1 ∧
      c.reconsumed.toNat ≤ D.config.maxRetryTimes.toNat ∧ c.first = d.first)
    (hone : copies.length ≤ 1) :
    Course D { k with
      active := rest
      reports := k.reports ++ rs
      waiting := fun o => k.waiting o + ofMessage o copies } o := by
  -- the copies are of the message of the delivery
  have hmine {c : Delivery} (hc : c ∈ ofMessage o copies) : c ∈ copies ∧ d.first = o := by
    obtain ⟨hc, hfirst⟩ := List.mem_filter.mp (Multiset.mem_coe.mp hc)
    exact ⟨hc, (hcopies c hc).2.2.symm.trans (by simpa using hfirst)⟩
  have hnone (h : d.first ≠ o) : ofMessage o copies = 0 :=
    Multiset.eq_zero_of_forall_notMem fun c hc => h (hmine hc).2
  refine
    { counts := course.counts
      limit := course.limit
      awaited := ?_
      known := ?_
      single := ?_
      latest := fun x hx => course.latest x (hactive ▸ Multiset.mem_cons_of_mem hx)
      pending := fun x hx => course.pending_others hactive habout hx
      settled := ?_
      unheard := fun d' => course.unheard_others hactive habout }
  · show (k.waiting o + ofMessage o copies).card + rest.countP _ ≤ 1
    by_cases hfirst : d.first = o
    · obtain ⟨hwaiting, hothers⟩ := course.only hactive hfirst
      rw [hwaiting, zero_add, Multiset.countP_eq_zero.mpr hothers, Nat.add_zero]
      exact (List.length_filter_le _ _).trans hone
    · have hsingle := course.single
      rw [hactive, Multiset.countP_cons, if_neg hfirst] at hsingle
      rw [hnone hfirst, add_zero]
      exact hsingle
  · intro c hc
    rcases Multiset.mem_add.mp hc with hc | hc
    · exact course.awaited c hc
    · obtain ⟨hc, hfirst⟩ := hmine hc
      obtain ⟨hcount, hlimit, hsame⟩ := hcopies c hc
      exact ⟨hsame.trans hfirst, hcount.trans (course.last hactive hfirst).2, hlimit⟩
  · intro d' hd' hdone
    by_cases hd : d' = d
    · subst hd
      exact hsettled (by simpa using (List.mem_filter.mp hd').2)
    · exact course.settled_others hactive habout hd' hd hdone
  · intro hnew
    obtain ⟨hwaiting, hdeliveries⟩ := course.known hnew
    -- nothing of a message that is not known is in hand
    have hne : d.first ≠ o := by
      intro hfirst
      have hlength := (course.last hactive hfirst).2
      rw [hdeliveries] at hlength
      cases hlength
    exact ⟨by simp only [hwaiting, hnone hne, add_zero], hdeliveries⟩

end InHand

/-- A delivery has a count below the number of deliveries so far. -/
theorem lt_length (course : Course D k o) (hd : d ∈ k.deliveries o) :
    d.reconsumed.toNat < (k.deliveries o).length := by
  have hmem := List.mem_map_of_mem (f := fun d : Delivery => d.reconsumed.toNat) hd
  rw [course.counts] at hmem
  exact List.mem_range.mp hmem

section Handed

variable {batch : List Delivery} {waiting : Delivery → Multiset Delivery}

theorem deliveries_hand : (k.hand batch waiting).deliveries o =
    k.deliveries o ++ batch.filter (·.first = o) :=
  List.filter_append k.handed batch

/-- What is handed over begins at the first stage. -/
theorem mem_active_hand {x : Delivery × Stage} :
    x ∈ (k.hand batch waiting).active ↔ (x.1 ∈ batch ∧ x.2 = .waiting) ∨ x ∈ k.active := by
  unfold Ledger.hand
  simp only [Multiset.mem_add, Multiset.mem_coe, List.mem_map, Prod.ext_iff]
  constructor
  · rintro (⟨d, hd, rfl, hstage⟩ | hx)
    · exact .inl ⟨hd, hstage.symm⟩
    · exact .inr hx
  · rintro (⟨hd, hstage⟩ | hx)
    · exact .inl ⟨x.1, hd, rfl, hstage.symm⟩
    · exact .inr hx

theorem countP_active_hand : (k.hand batch waiting).active.countP (·.1.first = o) =
    (batch.filter (·.first = o)).length + k.active.countP (·.1.first = o) := by
  unfold Ledger.hand
  rw [Multiset.countP_add, Multiset.coe_countP, List.countP_map, ← List.countP_eq_length_filter]
  rfl

/-- A batch without the message. -/
theorem handed_none (course : Course D k o) (hnone : batch.filter (·.first = o) = [])
    (h : waiting o ≤ k.waiting o) : Course D (k.hand batch waiting) o := by
  have hdeliveries : (k.hand batch waiting).deliveries o = k.deliveries o := by
    rw [deliveries_hand, hnone, List.append_nil]
  -- what is in hand of the message was so before
  have hbefore {x : Delivery × Stage} (hx : x ∈ (k.hand batch waiting).active)
      (hfirst : x.1.first = o) : x ∈ k.active := by
    rcases mem_active_hand.mp hx with ⟨hx, -⟩ | hx
    · have hne := List.filter_eq_nil_iff.mp hnone x.1 hx
      exact absurd hfirst (by simpa using hne)
    · exact hx
  obtain ⟨hsingle, hcounts, hlimit, hawaited, -, -, -, -, hknown⟩ := course.idle h
  refine
    { counts := hdeliveries ▸ hcounts
      limit := hdeliveries ▸ hlimit
      awaited := hdeliveries ▸ hawaited
      known := hdeliveries ▸ hknown
      single := ?_
      latest := ?_
      pending := fun x hx hfirst => course.pending x (hbefore hx hfirst) hfirst
      settled := ?_
      unheard := ?_ }
  · rw [countP_active_hand, hnone, List.length_nil, Nat.zero_add]
    exact hsingle
  · intro x hx hfirst
    obtain ⟨hhanded, hcount⟩ := course.latest x (hbefore hx hfirst) hfirst
    rw [hdeliveries]
    exact ⟨List.mem_append_left _ hhanded, hcount⟩
  · intro d hd hdone
    exact course.settled d (hdeliveries ▸ hd) fun x hx => hdone x (mem_active_hand.mpr (.inr hx))
  · intro d hfirst hd
    exact course.unheard d hfirst fun hhanded => hd (List.mem_append_left _ hhanded)

/-- A batch with the message takes the only copy that waited. -/
theorem handed_one (course : Course D k o) (hone : batch.filter (·.first = o) = [d])
    (hd : d ∈ k.waiting o) (h : waiting o = 0) : Course D (k.hand batch waiting) o := by
  have hdeliveries : (k.hand batch waiting).deliveries o = k.deliveries o ++ [d] := by
    rw [deliveries_hand, hone]
  obtain ⟨hfirst, hcount, hlimit⟩ := course.awaited d hd
  have hwaits : 0 < (k.waiting o).card := Multiset.card_pos_iff_exists_mem.mpr ⟨d, hd⟩
  have hsingle := course.single
  have hnone : k.active.countP (·.1.first = o) = 0 := by omega
  -- nothing is in hand of the message but this delivery
  have hself {x : Delivery × Stage} (hx : x ∈ (k.hand batch waiting).active)
      (hxfirst : x.1.first = o) : x = (d, .waiting) := by
    rcases mem_active_hand.mp hx with ⟨hx, hstage⟩ | hx
    · have hmem : x.1 ∈ batch.filter (·.first = o) := List.mem_filter.mpr ⟨hx, by simpa⟩
      rw [hone, List.mem_singleton] at hmem
      exact Prod.ext hmem hstage
    · exact absurd hxfirst (Multiset.countP_eq_zero.mp hnone x hx)
  have hmem : d ∈ batch :=
    (List.mem_filter.mp (hone ▸ List.mem_singleton_self d : d ∈ batch.filter (·.first = o))).1
  -- it cannot have been handed over before, as its count is new
  have hunheard : Report.on d k.reports = [] := by
    refine course.unheard d hfirst fun hhanded => ?_
    have hlt := course.lt_length (List.mem_filter.mpr ⟨hhanded, by simpa using hfirst⟩)
    omega
  have hlength : ((k.hand batch waiting).deliveries o).length = (k.deliveries o).length + 1 := by
    rw [hdeliveries, List.length_append, List.length_singleton]
  have hwaiting : (k.hand batch waiting).waiting o = 0 := h
  refine
    { counts := ?_
      limit := ?_
      awaited := ?_
      known := ?_
      single := ?_
      latest := ?_
      pending := ?_
      settled := ?_
      unheard := ?_ }
  · rw [hwaiting, countP_active_hand, hone, hnone]
    rfl
  · rw [hlength, List.range_succ, hdeliveries, List.map_append, course.counts, List.map_singleton,
      hcount]
  · intro d' hd'
    rw [hdeliveries] at hd'
    rcases List.mem_append.mp hd' with hd' | hd'
    · exact course.limit d' hd'
    · exact (List.mem_singleton.mp hd') ▸ hlimit
  · intro d' hd'
    rw [hwaiting] at hd'
    exact absurd hd' (Multiset.notMem_zero d')
  · intro x hx hxfirst
    rw [hself hx hxfirst, hlength, hcount]
    exact ⟨List.mem_append_right _ hmem, rfl⟩
  · intro x hx hxfirst
    have hempty : Report.on d (k.hand batch waiting).reports = [] := hunheard
    rw [hself hx hxfirst, Report.failed, Report.reactionsTo, hempty]
    exact ⟨rfl, rfl⟩
  · intro d' hd' hdone
    rw [hdeliveries] at hd'
    rcases List.mem_append.mp hd' with hd' | hd'
    · exact course.settled d' hd' fun x hx => hdone x (mem_active_hand.mpr (.inr hx))
    · rw [List.mem_singleton.mp hd'] at hdone
      exact absurd rfl (hdone (d, .waiting) (mem_active_hand.mpr (.inl ⟨hmem, rfl⟩)))
  · intro d' hfirst hd'
    exact course.unheard d' hfirst fun hhanded => hd' (List.mem_append_left _ hhanded)
  · intro hnew
    rw [(course.known hnew).1] at hd
    exact absurd hd (Multiset.notMem_zero d)

/-- **A batch is handed over.** It holds the message once at most, as no more than that waited. -/
theorem handed (course : Course D k o) (h : ofMessage o batch + waiting o ≤ k.waiting o) :
    Course D (k.hand batch waiting) o := by
  have hsingle := course.single
  have hcard : (batch.filter (·.first = o)).length + (waiting o).card ≤ (k.waiting o).card := by
    have hle := Multiset.card_le_card h
    rwa [Multiset.card_add] at hle
  match hbatch : batch.filter (·.first = o) with
  | [] => exact course.handed_none hbatch ((Multiset.le_add_left _ _).trans h)
  | [d] =>
    have hd : d ∈ ofMessage o batch := by
      rw [ofMessage, hbatch]
      exact Multiset.mem_coe.mpr (List.mem_singleton_self d)
    refine course.handed_one hbatch (Multiset.mem_of_le h (Multiset.mem_add.mpr (.inl hd))) ?_
    rw [hbatch, List.length_singleton] at hcard
    exact Multiset.card_eq_zero.mp (by omega)
  | d :: d' :: ds =>
    -- one delivery waited at most
    rw [hbatch, List.length_cons, List.length_cons] at hcard
    omega

end Handed

/-- **A message is accepted.** It may be the one that is looked at, of which nothing was known
before. -/
theorem accepted (course : Course D k o) {waiting : Delivery → Multiset Delivery}
    (hzero : d.reconsumed = 0) (hnew : d ∉ k.accepted)
    (hwaiting : waiting o ≤ k.waiting o + ofMessage o [d]) :
    Course D { k with accepted := k.accepted ++ [d], waiting } o := by
  have hfirst : d.first = d := by
    unfold Delivery.first
    rw [← hzero]
  rw [ofMessage_singleton, hfirst] at hwaiting
  by_cases hd : d = o
  · -- nothing was known of the message
    subst hd
    obtain ⟨hnone, hdeliveries⟩ := course.known hnew
    rw [if_pos rfl, hnone, zero_add] at hwaiting
    have hinactive (x : Delivery × Stage) (hx : x ∈ k.active) : x.1.first ≠ d := by
      intro hxfirst
      have hlength := (course.latest x hx hxfirst).2
      rw [hdeliveries] at hlength
      cases hlength
    refine
      { course with
        single := ?_
        awaited := ?_
        known := fun h => absurd (List.mem_append_right _ (List.mem_singleton_self d)) h }
    · show (waiting d).card + k.active.countP (·.1.first = d) ≤ 1
      rw [Multiset.countP_eq_zero.mpr hinactive, Nat.add_zero]
      exact (Multiset.card_le_card hwaiting).trans (Multiset.card_singleton d).le
    · intro d' hd'
      obtain rfl := Multiset.mem_singleton.mp (Multiset.mem_of_le hwaiting hd')
      refine ⟨hfirst, ?_, ?_⟩
      · show d'.reconsumed.toNat = (k.deliveries d').length
        rw [hdeliveries, hzero]
        rfl
      · rw [hzero]
        exact Nat.zero_le _
  · rw [if_neg hd, add_zero] at hwaiting
    have idle := course.idle hwaiting
    exact { idle with known := fun h => idle.known fun hmem => h (List.mem_append_left _ hmem) }

/-- What is due to a failure asks for one copy at most, which is within the limit. -/
theorem copy_of_due {r : Reaction} (due : D.Due d r) :
    (r.copy d).length ≤ 1 ∧ ∀ c ∈ r.copy d, c.reconsumed.toNat = d.reconsumed.toNat + 1 ∧
      c.reconsumed.toNat ≤ D.config.maxRetryTimes.toNat ∧ c.first = d.first := by
  unfold Deployment.Due at due
  split at due
  · next hlt =>
    subst due
    refine ⟨Nat.le_refl 1, fun c hc => ?_⟩
    obtain rfl := List.mem_singleton.mp hc
    have hlt : d.reconsumed.toNat < D.config.maxRetryTimes.toNat := UInt32.lt_iff_toNat_lt.mp hlt
    -- below the limit the count of the copy does not stop at its greatest value
    have hcount : d.again.reconsumed.toNat = d.reconsumed.toNat + 1 := by
      have hmax := D.config.maxRetryTimes.toNat_lt
      rw [Delivery.again, DelayLevel.toNat_increment, if_neg (by omega)]
    exact ⟨hcount, hcount ▸ hlt, rfl⟩
  · obtain ⟨reason, rfl⟩ := due
    exact ⟨Nat.zero_le 1, fun c hc => absurd hc List.not_mem_nil⟩

/-- **Every turn keeps the course of a message.** -/
theorem turn {k' : Ledger} (course : Course D k o) (ho : o.reconsumed = 0) (h : Turn D k k') :
    Course D k' o := by
  -- what was known of the delivery that moves
  have before {d : Delivery} {stage : Stage} {rest : Multiset (Delivery × Stage)}
      (hactive : k.active = (d, stage) ::ₘ rest) (hfirst : d.first = o) :
      Report.failed d k.reports = stage.hasFailed ∧ Report.reactionsTo d k.reports = [] :=
    course.pending (d, stage) (hactive ▸ Multiset.mem_cons_self _ _) hfirst
  cases h with
  | idle hwaiting => exact course.idle (hwaiting o ho)
  | accepted hzero hnew hwaiting => exact course.accepted hzero hnew (hwaiting o ho)
  | handed hwaiting => exact course.handed (hwaiting o ho)
  | admitted hactive => exact course.advanced hactive rfl
  | @answered d hook rest answer hactive =>
    have habout : ∀ r ∈ [Report.answered d hook answer], r.delivery = d := by simp [Report.delivery]
    refine course.moved hactive habout fun hfirst => ?_
    obtain ⟨hfailed, hreactions⟩ := before hactive hfirst
    rw [Report.failed_append_self habout, Report.reactionsTo_append_self habout, hfailed, hreactions,
      Stage.afterHook_hasFailed]
    exact ⟨by simp [Stage.hasFailed, Report.isFailure], rfl⟩
  | @failed d v reason rest hactive hv =>
    refine course.advanced hactive ?_
    cases v <;> first | rfl | cases hv
  | @passed d v rest hactive hv =>
    have hsettled (hfirst : d.first = o) : D.Settled (k.reports ++ []) d := by
      obtain ⟨hfailed, hreactions⟩ := before hactive hfirst
      unfold Deployment.Settled
      rw [List.append_nil, hfailed, hv]
      exact hreactions
    have hcopies : ∀ c ∈ ([] : List Delivery), c.reconsumed.toNat = d.reconsumed.toNat + 1 ∧
        c.reconsumed.toNat ≤ D.config.maxRetryTimes.toNat ∧ c.first = d.first := by simp
    have done := course.done hactive (by simp) hsettled hcopies (Nat.zero_le 1)
    simpa only [List.append_nil, ofMessage_nil, add_zero] using done
  | @reacted d reason r rest hactive due =>
    have habout : ∀ r' ∈ [Report.reacted d r], r'.delivery = d := by simp [Report.delivery]
    obtain ⟨hone, hcopies⟩ := copy_of_due due
    refine course.done hactive habout (fun hfirst => ?_) hcopies hone
    obtain ⟨hfailed, hreactions⟩ := before hactive hfirst
    unfold Deployment.Settled
    rw [Report.failed_append_self habout, Report.reactionsTo_append_self habout, hfailed, hreactions]
    exact ⟨r, rfl, due⟩

end Course

end KeyedDelivery
