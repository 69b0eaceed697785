import KeyedDelivery.Proofs.Pool.Journal
import Mathlib.Data.List.Range

/-!
# What the journal says about the jobs

The queue of a pool is taken from its front and extended at its end, whatever the policy does in
between, and every task that is offered ends up in one place. Both are read off the journal.

* **`Moved`** — where the notes of one incident put jobs; **`Handled.moved`** proves it for each.
* **`Told`** — what the journal of a run says about the jobs of its last state: what entered the
  queue is what left it and then what it holds; every number that was given out is the number of one
  job, which has begun, is queued, was discarded or was refused. **`Told.handled`** keeps it.
* **`Answered`** — the number of a job is its place among all submissions.
-/

namespace KeyedDelivery.WorkerPool

variable {τ ρ : Type} {p q : WorkerPool τ ρ} {ns news : List (Note τ)}

/-! ## Lists that are filtered twice -/

/-- What one filter keeps, a wider one keeps in the same order. -/
theorem filterMap_sublist {α β : Type} {f g : α → Option β} (h : ∀ a b, f a = some b → g a = some b)
    (l : List α) : (l.filterMap f).Sublist (l.filterMap g) := by
  induction l with
  | nil => exact List.Sublist.refl _
  | cons a l ih =>
    rw [List.filterMap_cons, List.filterMap_cons]
    -- what the first filter keeps, the second keeps as well; it may keep more
    cases hf : f a with
    | some b => simpa [h a b hf] using ih
    | none =>
      cases g a with
      | none => exact ih
      | some b => exact ih.cons b

theorem queued_sublist_offered (ns : List (Note τ)) :
    (ns.filterMap Note.queued?).Sublist (ns.filterMap Note.offered?) := by
  refine filterMap_sublist (fun n j h => ?_) ns
  unfold Note.queued? at h
  split at h
  · exact h
  · cases h

theorem taken_sublist_released (ns : List (Note τ)) :
    (ns.filterMap Note.taken?).Sublist (ns.filterMap Note.released?) := by
  refine filterMap_sublist (fun n j h => ?_) ns
  cases n with
  | taken i => exact h
  | _ => cases h

/-! ## What the journal says about the jobs -/

/-- What is said of the jobs of a pool by the notes of its run. -/
structure Told (ns : List (Note τ)) (p : WorkerPool τ ρ) : Prop where
  /-- First in, first out. -/
  fifo : ns.filterMap Note.queued? = ns.filterMap Note.released? ++ p.queue
  offered : (ns.filterMap Note.offered?).map (·.number) = List.range p.submitted
  /-- Every job that was offered is in one place. -/
  placed : ((ns.filterMap Note.begun? ++ p.queue ++ ns.filterMap Note.discarded? ++
    ns.filterMap Note.refused?).map (·.number)).Perm (List.range p.submitted)
  running : ∀ j ∈ p.running, j ∈ ns.filterMap Note.begun?
  fates : ∀ k, p.fates.find? k = some (.error .discarded) ↔
    k ∈ (ns.filterMap Note.discarded?).map (·.number)

/-- Where the notes of one incident put the jobs of a pool. -/
structure Moved (p q : WorkerPool τ ρ) (news : List (Note τ)) : Prop where
  fifo : p.queue ++ news.filterMap Note.queued? = news.filterMap Note.released? ++ q.queue
  offered : List.range p.submitted ++ (news.filterMap Note.offered?).map (·.number) =
    List.range q.submitted
  placed : (news.filterMap Note.begun? ++ q.queue ++ news.filterMap Note.discarded? ++
    news.filterMap Note.refused?).Perm (p.queue ++ news.filterMap Note.offered?)
  running : ∀ j ∈ q.running, j ∈ p.running ∨ j ∈ news.filterMap Note.begun?

/-- A task that begins at once is neither queued nor discarded nor refused. -/
theorem Placement.eq_of_begins {place : Placement} (h : place.begins = true) (j : Job τ) :
    Note.queued? (.offered j place) = none ∧ Note.discarded? (.offered j place) = none ∧
      Note.refused? (.offered j place) = none ∧ Note.begun? (.offered j place) = some j := by
  cases place with
  | started | toCaller => exact ⟨rfl, rfl, rfl, rfl⟩
  | _ => cases h

/-- The number of a new job comes after those that were given out. -/
theorem Admitted.range {j : Job τ} (admitted : Admitted p q j) :
    List.range p.submitted ++ [j.number] = List.range q.submitted := by
  rw [admitted.number, admitted.submitted, List.range_succ]

/-- **Every incident moves jobs** as its notes say. -/
theorem Handled.moved (h : Handled p q news) : Moved p q news := by
  cases h with
  | turnedAway task context e closed same =>
    subst same
    refine ⟨List.append_nil _, List.append_nil _, ?_, fun j hj => .inl hj⟩
    show ([] ++ q.queue ++ [] ++ []).Perm (q.queue ++ [])
    simp
  | @refused j e admitted queue running fates =>
    refine ⟨?_, admitted.range, ?_, fun j hj => .inl (running ▸ hj)⟩
    · rw [queue]
      exact List.append_nil _
    · show ([] ++ q.queue ++ [] ++ [j]).Perm (p.queue ++ [j])
      simp [queue]
  | @begun j place begins room admitted queue running fates =>
    obtain ⟨hqueued, hdiscarded, hrefused, hbegun⟩ := Placement.eq_of_begins begins j
    refine ⟨?_, admitted.range, ?_, fun i hi => ?_⟩
    · simp [queue, hqueued, Note.released?]
    · simp only [List.filterMap_cons, List.filterMap_nil, hbegun, hdiscarded, hrefused,
        Note.offered?, queue, List.append_nil]
      exact List.perm_append_comm
    · rcases List.mem_cons.mp (running.mem_iff.mp hi) with rfl | hi
      · exact .inr (by simp [hbegun])
      · exact .inl hi
  | @queued j admitted queue running fates =>
    refine ⟨queue.symm, admitted.range, ?_, fun j hj => .inl (running ▸ hj)⟩
    show ([] ++ q.queue ++ [] ++ []).Perm (p.queue ++ [j])
    simp [queue]
  | @evicted oldest j rest admitted full queue running fates =>
    refine ⟨?_, admitted.range, ?_, fun j hj => .inl (running ▸ hj)⟩
    · rw [full, queue]
      rfl
    · show ([] ++ q.queue ++ [oldest] ++ []).Perm (p.queue ++ [j])
      rw [full, queue, List.append_nil]
      exact List.perm_append_singleton oldest _
  | @dropped j admitted queue running fates =>
    refine ⟨?_, admitted.range, ?_, fun j hj => .inl (running ▸ hj)⟩
    · rw [queue]
      exact List.append_nil _
    · show ([] ++ q.queue ++ [j] ++ []).Perm (p.queue ++ [j])
      simp [queue]
  | @taken j rest submitted full queue running fates =>
    refine ⟨?_, ?_, ?_, fun i hi => ?_⟩
    · rw [full, queue]
      exact List.append_nil _
    · rw [submitted]
      exact List.append_nil _
    · show ([j] ++ q.queue ++ [] ++ []).Perm (p.queue ++ [])
      simp [full, queue]
    · rcases List.mem_cons.mp (running.mem_iff.mp hi) with rfl | hi
      · exact .inr (List.mem_singleton_self _)
      · exact .inl hi
  | ended outcome submitted queue running fates =>
    refine ⟨by simp [queue], by simp [submitted], by simp [queue], fun i hi => .inl ?_⟩
    exact running.mem_iff.mpr (List.mem_cons_of_mem _ hi)
  | cleared submitted queue running fates =>
    refine ⟨?_, ?_, ?_, fun j hj => .inl (running ▸ hj)⟩
    · simp [queue, List.filterMap_map, Function.comp_def, Note.queued?, Note.released?]
    · simp [submitted, List.filterMap_map, Function.comp_def, Note.offered?]
    · simp [queue, List.filterMap_map, Function.comp_def, Note.begun?, Note.discarded?,
        Note.refused?, Note.offered?]
  | idle submitted queue running fates =>
    exact ⟨by simp [queue], by simp [submitted], by simp [queue], fun j hj => .inl (running ▸ hj)⟩

/-- What is known of a job when some were dropped. -/
theorem find?_dropAll (fates : Table Nat (Except TaskError ρ)) (jobs : List (Job τ)) (k : Nat) :
    (dropAll fates jobs).find? k =
      if k ∈ jobs.map (·.number) then some (.error .discarded) else fates.find? k := by
  induction jobs generalizing fates with
  | nil => rfl
  | cons j jobs ih =>
    have hcons :
        dropAll fates (j :: jobs) = dropAll (fates.put j.number (.error .discarded)) jobs := rfl
    rw [hcons, ih, Table.find?_put, List.map_cons]
    -- the first one is put before the rest is dropped, and a later put does not undo it
    by_cases hk : j.number = k
    · simp [hk]
    · simp [hk, Ne.symm hk]

theorem fateOf_ne_discarded (outcome : Outcome ρ) : fateOf outcome ≠ .error .discarded := by
  cases outcome <;> simp [fateOf]

/-- A job is recorded as discarded exactly when the notes say so, if no job that runs was. -/
theorem Handled.fates (h : Handled p q news)
    (hrunning : ∀ j ∈ p.running, p.fates.find? j.number ≠ some (.error .discarded)) (k : Nat) :
    q.fates.find? k = some (.error .discarded) ↔
      p.fates.find? k = some (.error .discarded) ∨
        k ∈ (news.filterMap Note.discarded?).map (·.number) := by
  -- the two ways in which the table changes: one discarded job, or none
  have hput (n : Nat) : (p.fates.put n (.error .discarded)).find? k = some (.error .discarded) ↔
      p.fates.find? k = some (.error .discarded) ∨ k ∈ [n] := by
    rw [Table.find?_put, List.mem_singleton]
    by_cases hk : n = k
    · simp [hk]
    · simp [hk, Ne.symm hk]
  have hsame (jobs : List (Job τ)) (hjobs : jobs = []) (hfates : q.fates = p.fates) :
      q.fates.find? k = some (.error .discarded) ↔
        p.fates.find? k = some (.error .discarded) ∨ k ∈ jobs.map (·.number) := by
    simp [hfates, hjobs]
  cases h with
  | turnedAway task context e closed same => exact hsame _ rfl (by rw [same])
  | refused e admitted queue running fates => exact hsame _ rfl fates
  | begun place begins room admitted queue running fates =>
    exact hsame _ (by simp [(Placement.eq_of_begins begins _).2.1]) fates
  | queued admitted queue running fates => exact hsame _ rfl fates
  | taken submitted full queue running fates => exact hsame _ rfl fates
  | idle submitted queue running fates => exact hsame _ rfl fates
  | evicted admitted full queue running fates =>
    rw [fates]
    exact hput _
  | dropped admitted queue running fates =>
    rw [fates]
    exact hput _
  | @ended j outcome submitted queue running fates =>
    -- a job that ends was not discarded before, and ends otherwise
    have hj := hrunning j (running.mem_iff.mpr List.mem_cons_self)
    rw [fates, Table.find?_put]
    by_cases hk : j.number = k
    · subst hk
      simp [hj, fateOf_ne_discarded]
    · simp [hk]
  | cleared submitted queue running fates =>
    rw [fates, find?_dropAll, ite_eq_left_iff, ← or_iff_not_imp_left, or_comm]
    simp [List.filterMap_map, Function.comp_def, Note.discarded?]

namespace Told

/-- A job that has begun was neither discarded nor refused, and is not queued. -/
theorem apart (told : Told ns p) {k : Nat} (h : k ∈ (ns.filterMap Note.begun?).map (·.number)) :
    k ∉ p.queue.map (·.number) ∧ k ∉ (ns.filterMap Note.discarded?).map (·.number) ∧
      k ∉ (ns.filterMap Note.refused?).map (·.number) := by
  have hnodup := told.placed.nodup_iff.mpr List.nodup_range
  simp only [List.map_append, List.append_assoc] at hnodup
  have happart := (List.nodup_append.mp hnodup).2.2 k h
  exact ⟨fun hk => happart k (by simp [hk]) rfl, fun hk => happart k (by simp [hk]) rfl,
    fun hk => happart k (by simp [hk]) rfl⟩

theorem start (c : PoolConfig) : Told [] ({ config := c } : WorkerPool τ ρ) where
  fifo := rfl
  offered := rfl
  placed := List.Perm.refl _
  running := fun _ h => nomatch h
  fates := fun k => by simp

/-- **One more incident.** -/
theorem handled (told : Told ns p) (h : Handled p q news) : Told (ns ++ news) q := by
  obtain ⟨hfifo, hoffered, hplaced, hrunning⟩ := h.moved
  refine ⟨?_, ?_, ?_, fun j hj => ?_, fun k => ?_⟩
  · rw [List.filterMap_append, List.filterMap_append, told.fifo, List.append_assoc, hfifo,
      List.append_assoc]
  · rw [List.filterMap_append, List.map_append, told.offered, hoffered]
  · rw [← hoffered]
    -- by counting each number, in what was told and in the news
    refine List.perm_iff_count.mpr fun k => ?_
    have hold := told.placed.count_eq k
    have hnew := (hplaced.map (·.number)).count_eq k
    simp only [List.filterMap_append, List.map_append, List.count_append] at hold hnew ⊢
    omega
  · rw [List.filterMap_append]
    exact List.mem_append.mpr ((hrunning j hj).imp (told.running j) id)
  · rw [List.filterMap_append, List.map_append, List.mem_append, ← told.fates]
    refine h.fates (fun j hj => ?_) k
    rw [Ne, told.fates]
    exact (told.apart (List.mem_map_of_mem (told.running j hj))).2.1

end Told

/-! ## The numbers of the submissions -/

/-- The number of a job is its place among the submissions, as long as the pool takes tasks. -/
structure Answered (ns : List (Note τ)) (p : WorkerPool τ ρ) : Prop where
  submitted : p.submitted ≤ (ns.filterMap Note.submission?).length
  isOpen : p.isShutDown = false → (ns.filterMap Note.submission?).length = p.submitted
  filed : ∀ {j place}, .offered j place ∈ ns →
    (ns.filterMap Note.submission?)[j.number]? = some ((j.task, j.context), place)
  late : ∀ {k s place}, p.submitted ≤ k → (ns.filterMap Note.submission?)[k]? = some (s, place) →
    ∃ e, place = .refused e

namespace Answered

theorem start (c : PoolConfig) : Answered [] ({ config := c } : WorkerPool τ ρ) where
  submitted := Nat.le_refl _
  isOpen := fun _ => rfl
  filed := fun h => nomatch h
  late := fun _ h => nomatch h

/-- An incident that offers nothing. -/
theorem same (answered : Answered ns p) (submitted : q.submitted = p.submitted)
    (hopen : q.isShutDown = false → p.isShutDown = false)
    (hnews : ∀ n ∈ news, n.submission? = none) : Answered (ns ++ news) q := by
  -- no submission among the news, so the list of them stays
  have hnone : news.filterMap Note.submission? = [] := List.filterMap_eq_nil_iff.mpr hnews
  obtain ⟨hle, hlength, hfiled, hlate⟩ := answered
  constructor
  · rwa [List.filterMap_append, hnone, List.append_nil, submitted]
  · rw [List.filterMap_append, hnone, List.append_nil, submitted]
    exact fun h => hlength (hopen h)
  · intro j place hmem
    rw [List.filterMap_append, hnone, List.append_nil]
    rcases List.mem_append.mp hmem with hmem | hmem
    · exact hfiled hmem
    · exact absurd (hnews _ hmem) (Option.some_ne_none _)
  · rw [List.filterMap_append, hnone, List.append_nil, submitted]
    exact hlate

/-- One more task is offered, after notes of jobs that were offered earlier. -/
theorem admitted {j : Job τ} (place : Placement) (answered : Answered ns p)
    (admitted : Admitted p q j) : Answered (ns ++ [.offered j place]) q := by
  obtain ⟨hle, hlength, hfiled, hlate⟩ := answered
  have hlength := hlength admitted.isOpen
  have hlast : (ns ++ [Note.offered j place]).filterMap Note.submission? =
      ns.filterMap Note.submission? ++ [((j.task, j.context), place)] := by
    rw [List.filterMap_append]
    rfl
  have hcount :
      ((ns ++ [Note.offered j place]).filterMap Note.submission?).length = q.submitted := by
    rw [hlast, List.length_append, hlength, admitted.submitted]
    rfl
  refine ⟨Nat.le_of_eq hcount.symm, fun _ => hcount, fun {i place'} hmem => ?_, fun hk hget => ?_⟩
  · rw [hlast]
    rcases List.mem_append.mp hmem with hmem | hmem
    · rw [List.getElem?_append_left (List.getElem?_eq_some_iff.mp (hfiled hmem)).1]
      exact hfiled hmem
    · cases List.mem_singleton.mp hmem
      rw [admitted.number, ← hlength, List.getElem?_concat_length]
  · -- nothing is filed under later numbers
    rw [List.getElem?_eq_none (hcount ▸ hk)] at hget
    cases hget

/-- **One more incident.** -/
theorem handled (answered : Answered ns p) (h : Handled p q news)
    (hopen : q.isShutDown = false → p.isShutDown = false) : Answered (ns ++ news) q := by
  cases h with
  | turnedAway task context e closed same =>
    subst same
    obtain ⟨hle, hlength, hfiled, hlate⟩ := answered
    -- a task that is turned away is listed, but has no number
    have hlast : (ns ++ [Note.turnedAway task context (.refused e)]).filterMap Note.submission? =
        ns.filterMap Note.submission? ++ [((task, context), .refused e)] := by
      rw [List.filterMap_append]
      rfl
    refine ⟨?_, fun h => ?_, fun {j place} hmem => ?_, fun {k s place} hk hget => ?_⟩
    · rw [hlast, List.length_append]
      exact Nat.le_add_right_of_le hle
    · rw [closed] at h
      cases h
    · have hmem : Note.offered j place ∈ ns := by simpa using hmem
      rw [hlast, List.getElem?_append_left (List.getElem?_eq_some_iff.mp (hfiled hmem)).1]
      exact hfiled hmem
    · rw [hlast] at hget
      rcases Nat.lt_or_ge k (ns.filterMap Note.submission?).length with hlt | hge
      · rw [List.getElem?_append_left hlt] at hget
        exact hlate hk hget
      · rw [List.getElem?_append_right hge] at hget
        cases List.mem_singleton.mp (List.mem_of_getElem? hget)
        exact ⟨e, rfl⟩
  | refused _ admitted | begun _ _ _ admitted | queued admitted | dropped admitted =>
    exact answered.admitted _ admitted
  | @evicted oldest j rest admitted =>
    -- the eviction first, then the new job as when it is queued
    have hevicted : Answered (ns ++ [.evicted oldest]) p :=
      answered.same rfl id fun n hn => by rw [List.mem_singleton.mp hn]; rfl
    have hboth := hevicted.admitted .queued admitted
    rwa [List.append_assoc] at hboth
  | taken submitted =>
    exact answered.same submitted hopen fun n hn => by rw [List.mem_singleton.mp hn]; rfl
  | ended outcome submitted | idle submitted =>
    exact answered.same submitted hopen fun n hn => nomatch hn
  | cleared submitted =>
    refine answered.same submitted hopen fun n hn => ?_
    obtain ⟨j, -, rfl⟩ := List.mem_map.mp hn
    rfl

end Answered

/-! ## Reading the journal -/

theorem mem_refused_iff {j : Job τ} :
    j ∈ ns.filterMap Note.refused? ↔ ∃ e, Note.offered j (.refused e) ∈ ns := by
  rw [List.mem_filterMap]
  constructor
  · rintro ⟨n, hn, hj⟩
    unfold Note.refused? at hj
    split at hj
    · cases hj
      exact ⟨_, hn⟩
    · cases hj
  · rintro ⟨e, hn⟩
    exact ⟨_, hn, rfl⟩

theorem mem_offered_iff {j : Job τ} :
    j ∈ ns.filterMap Note.offered? ↔ ∃ place, Note.offered j place ∈ ns := by
  rw [List.mem_filterMap]
  constructor
  · rintro ⟨n, hn, hj⟩
    unfold Note.offered? at hj
    split at hj
    · cases hj
      exact ⟨_, hn⟩
    · cases hj
  · rintro ⟨place, hn⟩
    exact ⟨_, hn, rfl⟩

/-- The jobs that entered the queue did so in the order of their numbers. -/
theorem Told.queued_ascending (told : Told ns p) :
    ((ns.filterMap Note.queued?).map (·.number)).Pairwise (· < ·) := by
  have hall : ((ns.filterMap Note.offered?).map (·.number)).Pairwise (· < ·) :=
    told.offered ▸ List.pairwise_lt_range
  exact hall.sublist ((queued_sublist_offered ns).map _)

/-- A job that is evicted is older than those that stay queued. -/
theorem Told.evicted_lt (told : Told ns p) (h : Handled p q news) {j : Job τ}
    (hevicted : .evicted j ∈ news) : ∀ i ∈ q.queue, j.number < i.number := by
  cases h with
  | @evicted oldest new rest admitted full queue =>
    obtain rfl : j = oldest := by simpa using hevicted
    -- the queue is in the order of the numbers, and what is evicted was at its head
    have hascending := told.queued_ascending
    rw [told.fifo, full, List.map_append, List.map_cons] at hascending
    have hrest := (List.pairwise_cons.mp (List.pairwise_append.mp hascending).2.1).1
    have hlt : j.number < p.submitted := by
      rw [← List.mem_range, ← told.placed.mem_iff, full]
      simp
    intro i hi
    rw [queue] at hi
    rcases List.mem_append.mp hi with hi | hi
    · exact hrest i.number (List.mem_map_of_mem hi)
    · rw [List.mem_singleton.mp hi, admitted.number]
      exact hlt
  | cleared =>
    obtain ⟨i, -, hi⟩ := List.mem_map.mp hevicted
    cases hi
  | _ => simp at hevicted

/-- What begins is among the tasks that were offered, at its number. -/
theorem submission_of_begun (told : Told ns p) (answered : Answered ns p) {j : Job τ}
    (hj : j ∈ ns.filterMap Note.begun?) :
    ∃ place, (ns.filterMap Note.submission?)[j.number]? = some ((j.task, j.context), place) := by
  suffices ∃ place, Note.offered j place ∈ ns by
    obtain ⟨place, hn⟩ := this
    exact ⟨place, answered.filed hn⟩
  obtain ⟨n, hn, hbegun⟩ := List.mem_filterMap.mp hj
  cases n with
  | offered i place =>
    simp only [Note.begun?, Option.ite_none_right_eq_some, Option.some.injEq] at hbegun
    exact ⟨place, hbegun.2 ▸ hn⟩
  | taken i =>
    cases hbegun
    -- a job that was taken had been queued
    have hreleased : j ∈ ns.filterMap Note.released? := List.mem_filterMap.mpr ⟨_, hn, rfl⟩
    have hqueued : j ∈ ns.filterMap Note.queued? := told.fifo ▸ List.mem_append_left _ hreleased
    exact mem_offered_iff.mp ((queued_sublist_offered ns).subset hqueued)
  | _ => cases hbegun

end KeyedDelivery.WorkerPool
