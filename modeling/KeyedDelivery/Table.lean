/-!
# Tables

A table is a list of entries in the order in which their keys were first put. Looking a key up after
a `put` or an `erase` is described by `find?_put` and `find?_erase`.
-/

namespace KeyedDelivery

/-- Entries with keys. -/
abbrev Table (κ α : Type) := List (κ × α)

namespace Table

variable {κ α : Type} [DecidableEq κ]

def find? : Table κ α → κ → Option α
  | [], _ => none
  | (k', a) :: t, k => if k' = k then some a else find? t k

/-- Sets the entry of a key; a new key goes to the end. -/
def put : Table κ α → κ → α → Table κ α
  | [], k, a => [(k, a)]
  | (k', b) :: t, k, a => if k' = k then (k, a) :: t else (k', b) :: put t k a

def erase (t : Table κ α) (k : κ) : Table κ α := t.filter (·.1 ≠ k)

@[simp] theorem find?_nil (k : κ) : find? ([] : Table κ α) k = none := rfl

theorem find?_put (t : Table κ α) (k k' : κ) (a : α) :
    find? (put t k a) k' = if k = k' then some a else find? t k' := by
  induction t with
  | nil => simp [put, find?]
  | cons e t ih =>
    obtain ⟨j, b⟩ := e
    by_cases hj : j = k
    · subst hj; by_cases h : j = k' <;> simp [put, find?, h]
    · by_cases h : j = k'
      · subst h; simp [put, find?, hj, Ne.symm hj]
      · simp [put, find?, hj, h, ih]

@[simp] theorem find?_put_self (t : Table κ α) (k : κ) (a : α) :
    find? (put t k a) k = some a := by simp [find?_put]

/-- Of two entries that are set for one key, the second stays. -/
theorem put_put (t : Table κ α) (k : κ) (a b : α) : put (put t k a) k b = put t k b := by
  induction t with
  | nil => simp [put]
  | cons e t ih =>
    obtain ⟨j, c⟩ := e
    by_cases hj : j = k <;> simp [put, hj, ih]

theorem find?_erase (t : Table κ α) (k k' : κ) :
    find? (erase t k) k' = if k = k' then none else find? t k' := by
  induction t with
  | nil => simp [erase, find?]
  | cons e t ih =>
    obtain ⟨j, b⟩ := e
    unfold erase at ih ⊢
    by_cases hj : j = k
    · subst hj
      by_cases h : j = k'
      · subst h; simpa [find?] using ih
      · simpa [find?, h] using ih
    · by_cases h : j = k'
      · subst h; simp [find?, hj, Ne.symm hj]
      · simpa [find?, hj, h] using ih

/-! ### Keys -/

theorem find?_eq_none_iff (t : Table κ α) (k : κ) : find? t k = none ↔ k ∉ t.map (·.1) := by
  induction t with
  | nil => simp
  | cons e t ih =>
    obtain ⟨j, b⟩ := e
    by_cases h : j = k
    · simp [find?, h]
    · simp [find?, h, Ne.symm h, ih]

/-- Setting the entry of a key that is there leaves the keys as they are. -/
theorem keys_put_of_find? {t : Table κ α} {k : κ} {a : α} (h : find? t k = some a) (a' : α) :
    (put t k a').map (·.1) = t.map (·.1) := by
  induction t with
  | nil => cases h
  | cons e t ih =>
    obtain ⟨j, b⟩ := e
    by_cases hj : j = k
    · simp [put, hj]
    · simp only [find?, if_neg hj] at h
      simp [put, hj, ih h]

/-- A key that is not there yet goes to the end, with its entry. -/
theorem put_of_find?_eq_none {t : Table κ α} {k : κ} (h : find? t k = none) (a : α) :
    put t k a = t ++ [(k, a)] := by
  induction t with
  | nil => rfl
  | cons e t ih =>
    obtain ⟨j, b⟩ := e
    by_cases hj : j = k
    · simp [find?, hj] at h
    · simp only [find?, if_neg hj] at h
      simp [put, hj, ih h]

end Table

end KeyedDelivery
