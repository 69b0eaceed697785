import KeyedDelivery.Proofs.Consumer.Docket

/-!
# Every delivery is counted in one place

A consumer counts what it received, what the pool refused, and the verdicts; the pool counts what it
discarded. Whatever the overload policy loses, and wherever a delivery is when the consumer or its
pool is shut down, the two sets of figures and the deliveries in hand add up.

* **`Docket.Accounted`** — the equation: every received delivery has a verdict, or was refused or
  discarded, or is queued, or runs and its verdict is still to be counted.
* **`accounted_change`** — every change keeps it.
* **`deliveries_accounted`** — so it holds in every state that a consumer reaches.
-/

namespace KeyedDelivery

variable {σ : Type}

/-- How many verdicts were counted. -/
def ConsumerStats.verdicts (s : ConsumerStats) : Nat :=
  s.filtered + s.duplicates + s.succeeded + s.failed + s.errored

/-- Each verdict is counted in one figure. -/
theorem ConsumerStats.verdicts_count (s : ConsumerStats) (v : Verdict) :
    (s.count v).verdicts = s.verdicts + 1 := by
  cases v <;> simp only [count, verdicts] <;> omega

/-- Every received delivery is counted in exactly one place. -/
def Docket.Accounted (k : Docket) : Prop :=
  k.desk.stats.received = k.desk.stats.verdicts + k.desk.stats.dropped + k.discarded +
    k.queued.length + standing Stage.isUncounted k.handling

namespace Workplace

/-- A verdict is counted when its delivery stops being uncounted. -/
theorem verdicts_passed {c : Consumer σ} {d : Delivery} {k k' : Desk} {s : σ}
    {stage stage' : Stage} (h : c.Passed d k s stage stage' k') :
    k'.stats.received = k.stats.received ∧ k'.stats.dropped = k.stats.dropped ∧
      k'.stats.verdicts + stage'.isUncounted.toNat =
        k.stats.verdicts + stage.isUncounted.toNat := by
  cases h with
  | admitted permits => exact ⟨rfl, rfl, rfl⟩
  | asked h =>
    rw [Stage.afterHook_isUncounted]
    exact ⟨rfl, rfl, rfl⟩
  -- the verdict is counted, and from now on the stage counts as one whose verdict is
  | counted v =>
    refine ⟨by cases v <;> rfl, by cases v <;> rfl, ?_⟩
    rw [Stage.afterVerdict_isUncounted, ConsumerStats.verdicts_count]
    rfl
  | reacted reason outcome letters => exact ⟨rfl, rfl, rfl⟩

/-- **One change.** Whatever happens, the figures still add up. -/
theorem accounted_change {x y : Workplace σ} {e : Event σ} (h : Change x y e)
    (accounted : x.docket.Accounted) : y.docket.Accounted := by
  unfold Docket.Accounted at accounted ⊢
  cases h with
  | quiet _ hdocket =>
    rw [hdocket]
    exact accounted
  | refused d _ hdocket | unstarted d reason _ hdocket =>
    rw [hdocket]
    show x.docket.desk.stats.received + 1 = x.docket.desk.stats.verdicts +
      (x.docket.desk.stats.dropped + 1) + x.docket.discarded + x.docket.queued.length +
      standing Stage.isUncounted x.docket.handling
    omega
  | begun d _ hdocket =>
    -- the delivery is before its permit
    rw [hdocket]
    show x.docket.desk.stats.received + 1 = x.docket.desk.stats.verdicts +
      x.docket.desk.stats.dropped + x.docket.discarded + x.docket.queued.length +
      standing Stage.isUncounted ((d, .waiting) ::ₘ x.docket.handling)
    rw [standing_cons, Stage.isUncounted, Bool.toNat_true]
    omega
  | queued d _ hdocket =>
    rw [hdocket]
    show x.docket.desk.stats.received + 1 = x.docket.desk.stats.verdicts +
      x.docket.desk.stats.dropped + x.docket.discarded + (x.docket.queued ++ [d]).length +
      standing Stage.isUncounted x.docket.handling
    rw [List.length_append, List.length_singleton]
    omega
  | @evicted d oldest rest _ hqueued hdocket =>
    -- the queue is as long as before, and its oldest delivery counts as discarded
    rw [hqueued, List.length_cons] at accounted
    rw [hdocket]
    show x.docket.desk.stats.received + 1 = x.docket.desk.stats.verdicts +
      x.docket.desk.stats.dropped + (x.docket.discarded + 1) + (rest ++ [d]).length +
      standing Stage.isUncounted x.docket.handling
    rw [List.length_append, List.length_singleton]
    omega
  | dropped d _ hdocket =>
    rw [hdocket]
    show x.docket.desk.stats.received + 1 = x.docket.desk.stats.verdicts +
      x.docket.desk.stats.dropped + (x.docket.discarded + 1) + x.docket.queued.length +
      standing Stage.isUncounted x.docket.handling
    omega
  | @picked n d rest _ hqueued hdocket =>
    rw [hqueued, List.length_cons] at accounted
    rw [hdocket]
    show x.docket.desk.stats.received = x.docket.desk.stats.verdicts +
      x.docket.desk.stats.dropped + x.docket.discarded + rest.length +
      standing Stage.isUncounted ((d, .waiting) ::ₘ x.docket.handling)
    rw [standing_cons, Stage.isUncounted, Bool.toNat_true]
    omega
  | @advanced _ d stage stage' desk rest hhandling hadvance hdocket =>
    obtain ⟨hreceived, hdropped, hverdicts⟩ := verdicts_passed (Consumer.passed_of_advance hadvance)
    rw [hhandling, standing_cons] at accounted
    rw [hdocket]
    show desk.stats.received = desk.stats.verdicts + desk.stats.dropped + x.docket.discarded +
      x.docket.queued.length + standing Stage.isUncounted ((d, stage') ::ₘ rest)
    rw [standing_cons, hreceived, hdropped]
    have hdesk : x.run.desk = x.docket.desk := rfl
    rw [hdesk] at hverdicts ⊢
    omega
  | @ended _ d outcome rest _ hhandling hdocket =>
    -- a delivery that leaves was counted before
    rw [hhandling, standing_cons] at accounted
    rw [hdocket]
    exact accounted
  | discardedQueue _ hdocket =>
    rw [hdocket]
    show x.docket.desk.stats.received = x.docket.desk.stats.verdicts +
      x.docket.desk.stats.dropped + (x.docket.discarded + x.docket.queued.length) + 0 +
      standing Stage.isUncounted x.docket.handling
    omega

variable {c : Consumer σ} {p : PoolConfig} {x : Workplace σ}

/-- **The figures of a consumer and its pool add up.** In every state that a consumer reaches, with
any transport, handler and sink, each delivery it received was filtered, or was a duplicate, or
succeeded, or failed, or was an error, or the pool refused it or discarded it, or it is queued, or it
runs and its verdict is still to be counted. -/
theorem deliveries_accounted (h : Reachable c p x) :
    x.run.desk.stats.received =
      x.run.desk.stats.filtered + x.run.desk.stats.duplicates + x.run.desk.stats.succeeded +
        x.run.desk.stats.failed + x.run.desk.stats.errored + x.run.desk.stats.dropped +
        x.run.pool.stats.discarded + x.run.pool.stats.queued +
        x.run.handling.countP (·.2.isUncounted) := by
  have haccounted : x.docket.Accounted := by
    refine invariant_of_reachable (·.docket.Accounted) ?_ (fun _ => accounted_change) h
    -- at the start nothing is in hand, and all figures are zero
    intro run world _ hdocket hstats
    show run.docket.Accounted
    rw [hdocket, Docket.Accounted, hstats]
    rfl
  have hqueued : x.docket.queued.length = x.run.pool.queue.length := List.length_map _
  have hstanding : standing Stage.isUncounted x.docket.handling =
      x.run.handling.countP (·.2.isUncounted) := standing_coe _ _
  rw [Docket.Accounted, hqueued, hstanding, ConsumerStats.verdicts] at haccounted
  exact haccounted

/-- A pool of one thread with room for one more delivery, for which the oldest makes way. -/
def narrow : PoolConfig := { queueCapacity := 1 }

/-- A consumer that accepts whatever it gets. -/
def accepting : Consumer Unit where
  config := {}
  transport :=
    { subscribe := fun _ _ s => (.ok (), s), listen := id, start := fun s => (.ok (), s)
      reconsumeLater := fun _ _ s => (.ok (), s), shutdown := id }
  handler := .ofProcess fun _ s => (.returned (.ok true), s)

def blank : Delivery := ⟨default, default, default, 0, 0⟩

/-- Three deliveries for such a consumer: one runs until its verdict is counted, one is discarded and
one is queued. Then the consumer is shut down. -/
def crush : List (Event Unit) :=
  [.start, .receive blank, .receive blank, .receive blank, .work 1, .work 1, .work 1, .work 1,
    .work 1, .stop, .shutdownPool]

def fresh : Workplace Unit where
  run :=
    { consumer := accepting, pool := { config := narrow }, desk := { permits := .full 10 } }
  world := ()

theorem fresh_reachable : Reachable accepting narrow fresh := .start () rfl rfl

theorem deliveries_accounted_crush :
    ∃ x, fresh.after crush = some x ∧ Reachable accepting narrow x ∧
      x.run.desk.stats.succeeded = 1 ∧ x.run.pool.stats.discarded = 1 ∧
      x.run.pool.stats.queued = 1 ∧ x.run.desk.stats.received =
        x.run.desk.stats.filtered + x.run.desk.stats.duplicates + x.run.desk.stats.succeeded +
          x.run.desk.stats.failed + x.run.desk.stats.errored + x.run.desk.stats.dropped +
          x.run.pool.stats.discarded + x.run.pool.stats.queued +
          x.run.handling.countP (·.2.isUncounted) := by
  have hafter : fresh.after crush = some _ := rfl
  have hreached := fresh_reachable.after hafter
  exact ⟨_, hafter, hreached, rfl, rfl, rfl, deliveries_accounted hreached⟩

end Workplace

end KeyedDelivery
