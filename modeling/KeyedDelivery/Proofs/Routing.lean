import KeyedDelivery.Proofs.Text.Units16
import KeyedDelivery.Routing
import Mathlib.Algebra.BigOperators.Fin
import Mathlib.Tactic.Ring

/-!
# The queue of a key

Hashing a key goes over its UTF-16 units and wraps after every step. What comes out is the value of one
polynomial, wrapped once: so any producer that computes the polynomial in its own way, and wraps where it
likes, sends a key to the same queue.

* **`hashPolynomial`** — the sum of the units, each times its power of 31.
* **`toInt_foldl`** — the hash of some units after others; induction on the units, with any hash before.
* **`toInt_keyHash`**, **`toInt_keyHash_append`** — the hash of a key, and of a key made of two.
* **`keys_routed`** — these, and which queue they lead to.
-/

namespace KeyedDelivery

open Text (units16 Utf16)

/-- The units of a key as the coefficients of a polynomial in 31, the last one without a factor. -/
def hashPolynomial (us : List UInt16) : Int :=
  ∑ i : Fin us.length, (us[i].toNat : Int) * 31 ^ (us.length - 1 - i)

/-- The first unit has the highest power. -/
theorem hashPolynomial_cons (u : UInt16) (us : List UInt16) :
    hashPolynomial (u :: us) = u.toNat * 31 ^ us.length + hashPolynomial us := by
  show ∑ i : Fin (us.length + 1), _ = _
  rw [Fin.sum_univ_succ, hashPolynomial]
  congr 1
  refine Finset.sum_congr rfl fun i _ => ?_
  have hpower : us.length + 1 - 1 - (i.val + 1) = us.length - 1 - i := by omega
  show (us[i].toNat : Int) * 31 ^ (us.length + 1 - 1 - (i.val + 1)) = _
  rw [hpower]

/-- The units of a first part are multiplied by a power for each unit behind them. -/
theorem hashPolynomial_append (us vs : List UInt16) :
    hashPolynomial (us ++ vs) = hashPolynomial us * 31 ^ vs.length + hashPolynomial vs := by
  induction us with
  | nil => simp [hashPolynomial]
  | cons u us ih =>
    rw [List.cons_append, hashPolynomial_cons, hashPolynomial_cons, ih, List.length_append]
    ring

/-! ## The hash -/

/-- **One unit more** multiplies the hash and adds the unit, and wraps. -/
theorem toInt_step (h : Int32) (u : UInt16) :
    (h * 31 + Int32.ofNat u.toNat).toInt = (h.toInt * 31 + u.toNat).bmod (2 ^ 32) := by
  have hu : (Int32.ofNat u.toNat).toInt = u.toNat := by
    have hlt := u.toNat_lt
    exact Int32.toInt_ofNat_of_lt (by omega)
  have hfactor : (31 : Int32).toInt = 31 := by decide
  rw [Int32.toInt_add, Int32.toInt_mul, hu, hfactor, Int.bmod_add_bmod]

/-- What was wrapped before a multiplication and an addition need not have been. -/
theorem bmod_mul_add (x y z : Int) (m : Nat) :
    (x.bmod m * y + z).bmod m = (x * y + z).bmod m := by
  rw [← Int.bmod_add_bmod, Int.bmod_mul_bmod, Int.bmod_add_bmod]

/-- **The hash of units after a hash `h`.** -/
theorem toInt_foldl (us : List UInt16) (h : Int32) :
    (us.foldl (fun h u => h * 31 + Int32.ofNat u.toNat) h).toInt =
      (h.toInt * 31 ^ us.length + hashPolynomial us).bmod (2 ^ 32) := by
  induction us generalizing h with
  | nil => simp [hashPolynomial]
  | cons u us ih =>
    -- a step wraps, and wrapping a summand or a factor changes nothing that is wrapped
    -- afterwards
    rw [List.foldl_cons, ih, toInt_step, bmod_mul_add, hashPolynomial_cons, List.length_cons]
    congr 1
    ring

/-- **The hash of a key** is its polynomial, wrapped once. -/
theorem toInt_keyHash (key : String) :
    (keyHash key).toInt = (hashPolynomial (units16 key)).bmod (2 ^ 32) := by
  rw [keyHash, toInt_foldl]
  congr 1
  simp

/-- The hash of a key made of two is made of their hashes. -/
theorem toInt_keyHash_append (a b : String) :
    (keyHash (a ++ b)).toInt =
      ((keyHash a).toInt * 31 ^ (units16 b).length + (keyHash b).toInt).bmod (2 ^ 32) := by
  rw [toInt_keyHash, toInt_keyHash a, toInt_keyHash b, bmod_mul_add, Int.add_bmod_bmod,
    Text.units16_append, hashPolynomial_append]

/-! ## The queue -/

/-- Among some queues a key has an index, within their number. -/
theorem selectIndex_of_pos (key : String) {count : Nat} (h : 0 < count) :
    ∃ i < count, selectIndex key count = some i ∧ (i : Int) = |(keyHash key).toInt| % count := by
  refine ⟨(keyHash key).toInt.natAbs % count, Nat.mod_lt _ h, if_neg (by omega), ?_⟩
  rw [Int.natCast_mod, Int.natCast_natAbs]

/-- The queue that is chosen is the one at the index. -/
theorem selectQueue_of_selectIndex {key : String} {queues : List Queue} {i : Nat}
    (h : selectIndex key queues.length = some i) (hi : i < queues.length) :
    selectQueue queues key = some queues[i] := by
  rw [selectQueue, h]
  exact List.getElem?_eq_getElem hi

/-- **The queue of a key**: it depends on the UTF-16 units of the key and on the number of queues alone.
The hash is the value of the polynomial, as a signed number of 32 bits; its exact absolute value, which is
`2 ^ 31` for the least hash, leaves the index as its remainder; and there is no queue only where there are
none. -/
theorem keys_routed (key : String) :
    (∀ us, Utf16 key.toList us ↔ us = units16 key) ∧
      (keyHash key).toInt = (hashPolynomial (units16 key)).bmod (2 ^ 32) ∧
      (∀ other, (keyHash (key ++ other)).toInt =
        ((keyHash key).toInt * 31 ^ (units16 other).length + (keyHash other).toInt).bmod (2 ^ 32)) ∧
      (∀ count, 0 < count → ∃ i < count,
        selectIndex key count = some i ∧ (i : Int) = |(keyHash key).toInt| % count) ∧
      (∀ queues : List Queue, queues ≠ [] → ∃ i, ∃ h : i < queues.length,
        selectIndex key queues.length = some i ∧ selectQueue queues key = some queues[i]) ∧
      ∀ queues : List Queue, selectQueue queues key = none ↔ queues = [] := by
  have hqueue (queues : List Queue) (hne : queues ≠ []) : ∃ i, ∃ h : i < queues.length,
      selectIndex key queues.length = some i ∧ selectQueue queues key = some queues[i] := by
    obtain ⟨i, hi, hindex, -⟩ := selectIndex_of_pos key (List.length_pos_iff.mpr hne)
    exact ⟨i, hi, hindex, selectQueue_of_selectIndex hindex hi⟩
  refine ⟨fun us => Text.utf16_iff, toInt_keyHash key, toInt_keyHash_append key,
    fun count => selectIndex_of_pos key, hqueue, fun queues => ⟨fun hnone => ?_, ?_⟩⟩
  · -- as soon as there is a queue, one is chosen
    by_contra hne
    obtain ⟨i, hi, -, hsome⟩ := hqueue queues hne
    exact nomatch hnone.symm.trans hsome
  · rintro rfl
    rfl

/-- The least hash, whose absolute value is no signed number of 32 bits. -/
theorem keys_routed_least :
    keyHash "polygenelubricants" = Int32.minValue ∧
      (∃ i < 3, selectIndex "polygenelubricants" 3 = some i ∧ (i : Int) = 2 ^ 31 % 3) ∧
      ∃ i, ∃ h : i < 2, selectQueue [⟨"t", "b", 0⟩, ⟨"t", "b", 1⟩] "polygenelubricants" =
        some [⟨"t", "b", 0⟩, ⟨"t", "b", 1⟩][i] := by
  have hleast : keyHash "polygenelubricants" = Int32.minValue := by decide
  obtain ⟨-, -, -, hindex, hqueue, -⟩ := keys_routed "polygenelubricants"
  obtain ⟨i, hi, hselected, habs⟩ := hindex 3 (by decide)
  obtain ⟨j, hj, -, hfound⟩ := hqueue [⟨"t", "b", 0⟩, ⟨"t", "b", 1⟩] (by decide)
  rw [hleast] at habs
  exact ⟨hleast, ⟨i, hi, hselected, habs⟩, j, hj, hfound⟩

end KeyedDelivery
