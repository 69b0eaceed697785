import KeyedDelivery.LogContext.Event
import Mathlib.Data.List.Nodup

/-!
# Scopes of log contexts

A guard holds what the thread had when its scope was opened, and giving it up brings this back, whatever
was done in between. So a run in which scopes are given up in order changes a context as if there were
no scopes: what is inside of them is of no consequence outside.

* **`step_leave`** — giving up the scope that was opened last.
* **`run_outside`** — a run from inside any number of scopes until all of them are given up; induction on
  the run. What carries it is `ground`, the context under all these scopes.
* **`scopes_nest`** — what a thread sees outside all scopes, and in each of them.
-/

namespace KeyedDelivery.LogContext

/-! ## Entries -/

/-- What a change makes of the entry of a key. -/
def Edit.on (key : String) (held : Option String) : Edit → Option String
  | .insert k value => if key = k then some value else held
  | .remove k => if key = k then none else held
  | .clear => none

theorem lookup_cons_eq {α : Type} (k key : String) (a : α) (entries : List (String × α)) :
    ((k, a) :: entries).lookup key = if key = k then some a else entries.lookup key := by
  by_cases h : key = k
  · rw [h, List.lookup_cons_self, if_pos rfl]
  · rw [List.lookup_cons, beq_false_of_ne h, if_neg h]

/-- An inserted entry is found at its key, and every other one as before. -/
theorem lookup_insertEntry (k value key : String) (entries : List (String × String)) :
    (insertEntry k value entries).lookup key = if key = k then some value else entries.lookup key := by
  induction entries with
  | nil => exact lookup_cons_eq k key value []
  | cons e es ih =>
    obtain ⟨k', value'⟩ := e
    unfold insertEntry
    split
    · -- the key is there and its value is replaced
      next heq =>
      subst heq
      rw [lookup_cons_eq, lookup_cons_eq]
      split <;> rfl
    split
    · -- the entry goes in front of a greater key
      exact lookup_cons_eq k key value _
    · next hne _ =>
      rw [lookup_cons_eq, ih, lookup_cons_eq]
      by_cases hk : key = k
      · subst hk
        rw [if_neg hne, if_pos rfl, if_pos rfl]
      · rw [if_neg hk, if_neg hk]

/-- An entry that is removed is not found any more. -/
theorem lookup_filter_ne (k key : String) (entries : List (String × String)) :
    (entries.filter (·.1 ≠ k)).lookup key = if key = k then none else entries.lookup key := by
  induction entries with
  | nil => simp
  | cons e es ih =>
    obtain ⟨k', value'⟩ := e
    -- the entry in front is removed, or it stays
    by_cases hk' : k' = k
    · rw [List.filter_cons_of_neg (by simp [hk']), ih, lookup_cons_eq, hk']
      split <;> rfl
    · rw [List.filter_cons_of_pos (by simp [hk']), lookup_cons_eq, ih, lookup_cons_eq]
      by_cases hk : key = k
      · subst hk
        rw [if_neg (Ne.symm hk'), if_pos rfl, if_pos rfl]
      · rw [if_neg hk, if_neg hk]

/-- **The entry of a key after some changes.** -/
theorem get?_edited (c : LogContext) (edits : List Edit) (key : String) :
    (c.edited edits).get? key = edits.foldl (fun held e => e.on key held) (c.get? key) := by
  have hedit (c : LogContext) (e : Edit) : (c.edit e).get? key = e.on key (c.get? key) := by
    cases e with
    | insert k value => exact lookup_insertEntry k value key c.entries
    | remove k => exact lookup_filter_ne k key c.entries
    | clear => rfl
  induction edits generalizing c with
  | nil => rfl
  | cons e edits ih =>
    rw [edited, List.foldl_cons, ← edited, ih, hedit]
    rfl

namespace Thread

variable {t : Thread} {current : LogContext} {guards : List (String × Guard)}
  {name opened : String} {g : Guard} {es : List Event}

/-! ## One step -/

/-- The scope that was opened last is given up: its guard brings back what it holds. -/
theorem dropScope?_last (h : name ∉ guards.map (·.1)) :
    dropScope? ⟨current, guards ++ [(name, g)]⟩ name = some ⟨g.previous, guards⟩ := by
  -- no other open scope has the name, so that the last one is found
  have hfound : (guards ++ [(name, g)]).lookup name = some g ∧
      (guards ++ [(name, g)]).eraseP (·.1 == name) = guards := by
    induction guards with
    | nil => simp
    | cons s guards ih =>
      obtain ⟨opened, g'⟩ := s
      rw [List.map_cons, List.mem_cons, not_or] at h
      obtain ⟨hlookup, herase⟩ := ih h.2
      have hne : (opened == name) = false := beq_false_of_ne (Ne.symm h.1)
      rw [List.cons_append, lookup_cons_eq, if_neg h.1, List.eraseP_cons, hne, hlookup, herase]
      exact ⟨rfl, rfl⟩
  unfold dropScope?
  dsimp only
  rw [hfound.1, hfound.2]
  rfl

/-- **The scope that was opened last** is the one that is given up. -/
theorem step_leave (hguards : t.guards = guards ++ [(opened, g)]) (hnames : t.names.Nodup)
    (h : t.Keeps (.leave name)) : t.step (.leave name) = ⟨g.previous, guards⟩ := by
  have hall : t.names = guards.map (·.1) ++ [opened] := by
    rw [names, hguards, List.map_append, List.map_singleton]
  -- scopes are given up in order, so that the name is that of the last one
  have hlast : some opened = some name := by
    rw [← h, hall, List.getLast?_concat]
  cases hlast
  have hfresh : name ∉ guards.map (·.1) := by
    intro hopen
    rw [hall] at hnames
    exact (List.nodup_append.mp hnames).2.2 name hopen name (List.mem_singleton_self name) rfl
  obtain ⟨current, held⟩ := t
  change held = _ at hguards
  rw [hguards, step, dropScope?_last hfresh]
  rfl

/-- Names that are open stay different from each other. -/
theorem names_nodup_step {e : Event} (ht : t.names.Nodup) (h : t.Keeps e) :
    (t.step e).names.Nodup := by
  cases e with
  | edit => exact ht
  | snapshot => exact ht
  | enter name c =>
    have hnames : (t.step (.enter name c)).names = t.names.concat name := by
      rw [List.concat_eq_append]
      exact List.map_append
    rw [hnames]
    exact ht.concat h
  | leave name =>
    show ((t.dropScope? name).getD t).names.Nodup
    unfold dropScope?
    split
    · exact ht
    · exact ht.sublist (List.eraseP_sublist.map _)

/-! ## Runs -/

/-- A run is orderly if its first part is, and the rest from there on. -/
theorem orderly_append {t : Thread} (past es : List Event) :
    t.Orderly (past ++ es) ↔ t.Orderly past ∧ (t.run past).Orderly es := by
  induction past generalizing t with
  | nil => exact (iff_of_eq (true_and (t.Orderly es))).symm
  | cons e past ih =>
    rw [List.cons_append, Orderly, ih, Orderly, and_assoc]
    rfl

/-- No two open scopes have one name. -/
theorem names_nodup_run (ht : t.names.Nodup) (h : t.Orderly es) : (t.run es).names.Nodup := by
  induction es generalizing t with
  | nil => exact ht
  | cons e es ih => exact ih (names_nodup_step ht h.1) h.2

/-- The context under some scopes, the one that was opened last at the head. -/
def ground (current : LogContext) : List (String × Guard) → LogContext
  | [] => current
  | (_, g) :: stack => ground g.previous stack

/-- **Until all scopes of `stack` are given up**, and those that the run opens itself, only what is done
outside of them counts. -/
theorem run_outside (older stack : List (String × Guard)) {edits : List Edit}
    (h : outsideFrom stack.length es = some edits) (hguards : t.guards = older ++ stack.reverse)
    (hnames : t.names.Nodup) (horderly : t.Orderly es) :
    t.run es = ⟨(ground t.current stack).edited edits, older⟩ := by
  induction es generalizing t stack edits with
  | nil =>
    cases stack with
    | nil =>
      cases h
      rw [List.reverse_nil, List.append_nil] at hguards
      rw [← hguards]
      rfl
    | cons s stack => cases h
  | cons e es ih =>
    obtain ⟨hkeeps, horderly⟩ := horderly
    have hnames' := names_nodup_step hnames hkeeps
    cases e with
    | edit e =>
      cases stack with
      | nil =>
        obtain ⟨edits, hedits, rfl⟩ := Option.map_eq_some_iff.mp h
        exact ih [] hedits hguards hnames' horderly
      | cons s stack => exact ih (s :: stack) h hguards hnames' horderly
    | snapshot =>
      rw [outsideFrom] at h
      exact ih stack h hguards hnames' horderly
    | enter name c =>
      rw [outsideFrom] at h
      refine ih ((name, ⟨t.current⟩) :: stack) h ?_ hnames' horderly
      rw [List.reverse_cons, ← List.append_assoc, ← hguards]
      rfl
    | leave name =>
      cases stack with
      | nil => cases h
      | cons s stack =>
        -- the head of `stack` is the last of the guards, the only one that may be given up
        obtain ⟨opened, g⟩ := s
        rw [List.reverse_cons, ← List.append_assoc] at hguards
        have hstep := step_leave hguards hnames hkeeps
        rw [hstep] at horderly hnames'
        rw [run, List.foldl_cons, hstep]
        exact ih stack h rfl hnames' horderly

/-- The beginning of an orderly run is orderly. -/
theorem orderly_of_isPrefix {past : List Event} (h : t.Orderly es) (hpast : past <+: es) :
    t.Orderly past := by
  obtain ⟨rest, rfl⟩ := hpast
  exact ((orderly_append past rest).mp h).1

/-- Where no scope is left open, the changes outside of them are known. -/
theorem exists_outsideFrom (hnames : t.names.Nodup) (h : t.Orderly es)
    (hclosed : (t.run es).guards = []) : ∃ edits, outsideFrom t.guards.length es = some edits := by
  induction es generalizing t with
  | nil =>
    have hguards : t.guards = [] := hclosed
    rw [hguards]
    exact ⟨[], rfl⟩
  | cons e es ih =>
    obtain ⟨hkeeps, horderly⟩ := h
    obtain ⟨edits, hedits⟩ := ih (names_nodup_step hnames hkeeps) horderly hclosed
    cases e with
    | edit e =>
      change outsideFrom t.guards.length es = some edits at hedits
      cases hopen : t.guards.length with
      | zero =>
        rw [hopen] at hedits
        exact ⟨e :: edits, by rw [outsideFrom, hedits]; rfl⟩
      | succ n =>
        rw [hopen] at hedits
        exact ⟨edits, hedits⟩
    | snapshot => exact ⟨edits, by rw [outsideFrom]; exact hedits⟩
    | enter name c =>
      have hopen : (t.step (.enter name c)).guards.length = t.guards.length + 1 :=
        List.length_append
      rw [hopen] at hedits
      exact ⟨edits, by rw [outsideFrom]; exact hedits⟩
    | leave name =>
      -- in order, a scope is given up only where one is open
      obtain hguards | ⟨guards, s, hguards⟩ := t.guards.eq_nil_or_concat'
      · rw [Keeps, names, hguards] at hkeeps
        cases hkeeps
      · rw [step_leave hguards hnames hkeeps] at hedits
        rw [hguards, List.length_append, List.length_singleton]
        exact ⟨edits, hedits⟩

/-- **Scopes nest.** In a run from outside all scopes that keeps to their order, whenever all scopes
opened so far are given up, the thread has its first context with the changes made outside of them;
whenever all scopes opened in a scope are given up, and the scope itself is still open, the thread has
what the scope was opened with, with the changes made directly in it. -/
theorem scopes_nest {c : LogContext} (h : (start c).Orderly es) :
    (∀ past, past <+: es → ((start c).run past).guards = [] →
      ∃ edits, outside past = some edits ∧ (start c).run past = start (c.edited edits)) ∧
    (∀ past name c' body edits, past ++ .enter name c' :: body <+: es → outside body = some edits →
      ((start c).run (past ++ .enter name c' :: body)).snapshot = c'.edited edits) ∧
    ∀ (base : LogContext) edits key,
      (base.edited edits).get? key = edits.foldl (fun held e => e.on key held) (base.get? key) := by
  have hfirst : (start c).names.Nodup := List.nodup_nil
  refine ⟨?_, ?_, get?_edited⟩
  · intro past hpast hclosed
    have hpast := orderly_of_isPrefix h hpast
    -- all scopes are closed, so that what was done inside of them counts for nothing
    obtain ⟨edits, hedits⟩ := exists_outsideFrom hfirst hpast hclosed
    exact ⟨edits, hedits, run_outside [] [] hedits rfl hfirst hpast⟩
  · intro past name c' body edits hpast hedits
    obtain ⟨hpast, hkeeps, hbody⟩ := (orderly_append _ _).mp (orderly_of_isPrefix h hpast)
    have hnames := names_nodup_step (names_nodup_run hfirst hpast) hkeeps
    have hrun := run_outside _ [] hedits (List.append_nil _).symm hnames hbody
    rw [run, List.foldl_append, List.foldl_cons, ← run, ← run, hrun]
    rfl

/-- A scope in a scope; both are changed, and so is what is outside. -/
def twoScopes : List Event :=
  [.edit (.insert "worker" "own"), .enter "outer" ⟨[("key", "U1P1")]⟩, .edit (.insert "try" "1"),
    .enter "inner" ⟨[]⟩, .edit (.insert "key" "U2P2"), .edit .clear, .leave "inner", .snapshot,
    .edit (.remove "key"), .leave "outer", .edit (.insert "try" "2")]

theorem scopes_nest_two :
    (start .empty).Orderly twoScopes ∧
    (start .empty).run twoScopes = start ⟨[("try", "2"), ("worker", "own")]⟩ ∧
    ((start .empty).run (twoScopes.take 9)).snapshot = ⟨[("try", "1")]⟩ := by
  have horderly : (start .empty).Orderly twoScopes := by decide
  obtain ⟨houtside, hinside, -⟩ := scopes_nest horderly
  refine ⟨horderly, ?_, ?_⟩
  · obtain ⟨edits, hedits, hrun⟩ := houtside twoScopes List.prefix_rfl (by decide)
    rw [hrun, ← Option.some_inj.mp hedits]
    decide
  · exact hinside (twoScopes.take 1) "outer" ⟨[("key", "U1P1")]⟩ ((twoScopes.drop 2).take 7)
      [.insert "try" "1", .remove "key"] (by decide) (by decide)

end Thread

end KeyedDelivery.LogContext
