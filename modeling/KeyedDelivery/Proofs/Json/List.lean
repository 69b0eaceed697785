import KeyedDelivery.Proofs.Json.Values

/-!
# Lists are read as they were written

The items of a list stand between commas. A reader that takes every item takes the list of them, of any
length.

* **`list_takes`** — by induction on the items after the first, each behind its comma.
* **`wellFormed_writeList`** — what is written is JSON.
-/

namespace KeyedDelivery.Json

/-- What is written after the first item of a list. -/
def following (vs : List (List Char)) : List Char := vs.flatMap (',' :: ·)

/-- A first item, and the others behind their commas. -/
theorem separated_cons (v : List Char) (vs : List (List Char)) :
    separated (v :: vs) = v ++ following vs := by
  induction vs generalizing v with
  | nil => exact (List.append_nil v).symm
  | cons w vs ih =>
    rw [separated, ih]
    rfl

theorem following_cons (v : List Char) (vs : List (List Char)) (t : List Char) :
    following (v :: vs) ++ t = ',' :: (v ++ (following vs ++ t)) := by
  rw [following, List.flatMap_cons, List.cons_append, List.cons_append, List.append_assoc, following]

/-- What follows an item continues no number: a comma or the bracket. -/
theorem unextended_following (vs : List (List Char)) (t : List Char) :
    Unextended (following vs ++ ']' :: t) := by
  cases vs with
  | nil => exact unextended_cons (by decide) t
  | cons v vs => exact unextended_cons (by decide) _

/-! ## Reading -/

/-- A value is found as the first item, and behind a comma as a later one. -/
theorem nextItem_value {v : List Char} (h : WellFormed .value v) (t : List Char) :
    nextItem true (v ++ t) = .ok (some (v ++ t)) ∧
      nextItem false (',' :: (v ++ t)) = .ok (some (v ++ t)) := by
  obtain ⟨c, r, rfl, hspace, hclosing⟩ := front_of_value h
  have hfront : skipBlanks (c :: (r ++ t)) = c :: (r ++ t) := skipBlanks_cons hspace (r ++ t)
  rw [List.cons_append]
  constructor
  · rw [nextItem, hfront]
    split
    · next heq => cases heq
    · next heq => exact absurd (List.cons.inj heq).1 hclosing
    · -- no value begins with a comma, but before the first item a comma is left for the reader
      next heq =>
      rw [heq]
      rfl
    · rfl
  · have hcomma : skipBlanks (',' :: c :: (r ++ t)) = ',' :: c :: (r ++ t) := skipBlanks_cons rfl _
    rw [nextItem, hcomma]
    simp only [hfront, Bool.false_eq_true, if_false]
    split
    · next heq => cases heq
    · next heq => exact absurd (List.cons.inj heq).1 hclosing
    · rfl

section Items

variable {α : Type} {reader : ValueReader α} {write : α → List Char} {as : List α}

/-- A list ends at its bracket. -/
theorem readItems_end (first : Bool) (t : List Char) :
    readItems reader first (']' :: t) = .ok ([], t) := by
  have hfront : skipBlanks (']' :: t) = ']' :: t := skipBlanks_cons rfl t
  have hnext : nextItem first (']' :: t) = .ok none := by
    rw [nextItem, hfront]
    rfl
  rw [readItems]
  split
  · next h => cases hnext.symm.trans h
  · rw [endList, hfront]
    rfl
  · next h => cases hnext.symm.trans h

/-- An item is read where it is found. -/
theorem readItems_item {first : Bool} {s t u : List Char} {a : α}
    (hnext : nextItem first s = .ok (some t)) (hread : reader.read t = .ok (a, u)) :
    readItems reader first s = match readItems reader false u with
      | .error e => .error e
      | .ok (as, w) => .ok (a :: as, w) := by
  rw [readItems]
  split
  · -- of the cases of the reader, only the one of an item that is read is left
    next h => cases hnext.symm.trans h
  · next h => cases hnext.symm.trans h
  · next h =>
    cases hnext.symm.trans h
    split
    · next h => cases hread.symm.trans h
    · next h =>
      cases hread.symm.trans h
      rfl

/-- The items after the first are read. -/
theorem readItems_following (h : ∀ a ∈ as, WellFormed .value (write a) ∧ reader.Takes (write a) a)
    (t : List Char) : readItems reader false (following (as.map write) ++ ']' :: t) = .ok (as, t) := by
  induction as with
  | nil => exact readItems_end false t
  | cons a as ih =>
    obtain ⟨⟨hvalue, htakes⟩, hrest⟩ := List.forall_mem_cons.mp h
    have hread := htakes [] _ nofun (unextended_following (as.map write) t)
    rw [List.map_cons, following_cons, readItems_item (nextItem_value hvalue _).2 hread, ih hrest]

/-- **A list is read as it was written** when its items are. -/
theorem list_takes (h : ∀ a ∈ as, WellFormed .value (write a) ∧ reader.Takes (write a) a) :
    (list reader).Takes (writeList (as.map write)) as := by
  intro b t hb _
  have hlist : writeList (as.map write) ++ t = '[' :: (separated (as.map write) ++ ']' :: t) := by
    rw [writeList, List.cons_append, List.cons_append, List.append_assoc, List.singleton_append]
  have hitems : (list reader).read (b ++ (writeList (as.map write) ++ t)) =
      readItems reader true (separated (as.map write) ++ ']' :: t) := by
    show readList reader _ = _
    rw [readList, skipBlanks_append hb, hlist, skipBlanks_cons rfl]
    rfl
  rw [hitems]
  -- the first item has no comma, and each of the others has one
  cases as with
  | nil => exact readItems_end true t
  | cons a as =>
    obtain ⟨⟨hvalue, htakes⟩, hrest⟩ := List.forall_mem_cons.mp h
    have hread := htakes [] _ nofun (unextended_following (as.map write) t)
    rw [List.map_cons, separated_cons, List.append_assoc,
      readItems_item (nextItem_value hvalue _).1 hread, readItems_following hrest]

end Items

/-! ## What is written -/

/-- **A list that is written is well-formed** when its items are. -/
theorem wellFormed_writeList {vs : List (List Char)} (h : ∀ v ∈ vs, WellFormed .value v) :
    WellFormed .value (writeList vs) := by
  rw [writeList, List.cons_append]
  cases vs with
  | nil => exact .emptyList (b := []) nofun
  -- as the grammar has it: the last item, or an item and the others
  | cons v vs =>
    refine .list ?_
    induction vs generalizing v with
    | nil => exact .item (h v List.mem_cons_self) (padded_self v)
    | cons w vs ih =>
      obtain ⟨hv, hrest⟩ := List.forall_mem_cons.mp h
      exact .items hv (padded_self v) (ih w hrest)

end KeyedDelivery.Json
