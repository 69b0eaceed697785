import KeyedDelivery.Json.Writer
import KeyedDelivery.Proofs.Json.Grammar

/-!
# Integers of JSON are read as they were written

An integer is written with its decimal digits and read by their place value into 64 bits. What
follows the digits must not continue the number.

* **`Unextended`** — what may follow a number.
* **`gatherWhole_eq`** — digits whose value fits are gathered to this value, and none is dropped.
* **`readNumber_digits`** — the digits of a number are read as the whole number.
* **`readInteger_written`** — an integer is read as it was written.
-/

namespace KeyedDelivery.Json

open Text (digits digitValue isDigit)

/-- What stands after a number does not continue it. -/
def Unextended (t : List Char) : Prop :=
  ∀ c ∈ t.head?, isDigit c = false ∧ c ≠ '.' ∧ c ≠ 'e' ∧ c ≠ 'E'

/-- What follows a number begins with no digit. -/
theorem takeWhile_unextended {t : List Char} (h : Unextended t) : t.takeWhile isDigit = [] := by
  cases t with
  | nil => rfl
  | cons c t => exact List.takeWhile_cons_of_neg (by simp [(h c rfl).1])

theorem dropWhile_unextended {t : List Char} (h : Unextended t) : t.dropWhile isDigit = t := by
  cases t with
  | nil => rfl
  | cons c t => exact List.dropWhile_cons_of_neg (by simp [(h c rfl).1])

/-- More digits do not make a number smaller. -/
theorem le_foldl_digits (ds : List Char) (v : Nat) :
    v ≤ ds.foldl (fun n c => 10 * n + digitValue c) v := by
  induction ds generalizing v with
  | nil => exact Nat.le_refl v
  | cons d ds ih => exact Nat.le_trans (by omega) (ih (10 * v + digitValue d))

/-- **Digits whose value fits are gathered**, and none is dropped. -/
theorem gatherWhole_eq {ds : List Char} {v : Nat}
    (h : ds.foldl (fun n c => 10 * n + digitValue c) v < significandLimit) :
    gatherWhole v 0 ds = (ds.foldl (fun n c => 10 * n + digitValue c) v, 0) := by
  induction ds generalizing v with
  | nil => rfl
  | cons d ds ih =>
    have hfits : 10 * v + digitValue d < significandLimit :=
      Nat.lt_of_le_of_lt (le_foldl_digits ds _) h
    rw [gatherWhole, if_pos hfits]
    exact ih h

/-- The digits of a number within the limit are gathered to the number. -/
theorem gatherWhole_digits {n : Nat} (h : n < significandLimit) :
    gatherWhole 0 0 (digits n) = (n, 0) := by
  have hvalue : (digits n).foldl (fun n c => 10 * n + digitValue c) 0 = n := Text.value_digits n
  rw [gatherWhole_eq (by rwa [hvalue]), hvalue]

/-- A numeral of more than one digit does not begin with a zero. -/
theorem head_digits {n : Nat} {ds : List Char} (h : digits n = '0' :: ds) : ds = [] := by
  induction n using Nat.strongRecOn generalizing ds with
  | ind n ih =>
    rw [digits] at h
    split at h
    · exact (List.cons.inj h).2.symm
    · next hlarge =>
      -- the digits before the last one are those of a number above 0
      obtain ⟨es, hes⟩ : ∃ es, digits (n / 10) = '0' :: es := by
        cases hhigh : digits (n / 10) with
        | nil => exact absurd hhigh (Text.digits_ne_nil _)
        | cons e es =>
          rw [hhigh, List.cons_append] at h
          exact ⟨es, by rw [(List.cons.inj h).1]⟩
      have hzero : n / 10 = 0 := by
        rw [← Text.value_digits (n / 10), hes, ih _ (by omega) hes]
        rfl
      omega

/-- The digits of a number are the text of a number. -/
theorem unsigned_digits (n : Nat) : Unsigned (digits n) := by
  refine ⟨digits n, [], [], ⟨⟨Text.digits_ne_nil n, fun c => Text.isDigit_of_mem_digits⟩, fun h => ?_⟩,
    .none, .none, (List.append_nil _).symm⟩
  obtain ⟨ds, hds⟩ := List.head?_eq_some_iff.mp h
  rw [hds, head_digits hds]

/-- So is an integer that is written. -/
theorem wellFormed_writeInteger (i : Int) : WellFormed .value (writeInteger i) := by
  cases i with
  | ofNat n => exact .positive (unsigned_digits n)
  | negSucc n => exact .negative (unsigned_digits (n + 1))

/-- **The digits of a number are read as the number.** -/
theorem readNumber_digits {n : Nat} (hn : n < significandLimit) {t : List Char} (ht : Unextended t)
    (negative : Bool) :
    readNumber negative (digits n ++ t) = withRest (wholeNumeral negative n) t := by
  have hdigits : ∀ c ∈ digits n, isDigit c = true := fun c => Text.isDigit_of_mem_digits
  have hwhole : (digits n ++ t).takeWhile isDigit = digits n := by
    rw [List.takeWhile_append_of_pos hdigits, takeWhile_unextended ht, List.append_nil]
  have hrest : (digits n ++ t).dropWhile isDigit = t := by
    rw [List.dropWhile_append_of_pos hdigits, dropWhile_unextended ht]
  cases hds : digits n with
  | nil => exact absurd hds (Text.digits_ne_nil n)
  | cons d ds =>
    rw [hds, List.cons_append] at hwhole hrest
    -- only zero begins with a zero
    have hzero : ¬(d = '0' ∧ 1 < (d :: ds).length) := by
      rintro ⟨rfl, hlong⟩
      rw [head_digits hds] at hlong
      exact Nat.lt_irrefl 1 hlong
    rw [List.cons_append, readNumber]
    dsimp only
    rw [hwhole, hrest, if_neg (by simp), if_neg hzero, ← hds, gatherWhole_digits hn]
    dsimp only
    split
    · -- neither a fraction nor an exponent follows
      exact absurd rfl (ht '.' rfl).2.1
    · exact absurd rfl (ht 'e' rfl).2.2.1
    · exact absurd rfl (ht 'E' rfl).2.2.2
    · rfl

/-- Nothing is passed over before a character that is no white space. -/
theorem skipBlanks_cons {c : Char} (h : isSpace c = false) (t : List Char) :
    skipBlanks (c :: t) = c :: t := by
  rw [skipBlanks, List.dropWhile_cons_of_neg (by simp [h])]

/-- A digit is no white space. -/
theorem isSpace_of_isDigit {c : Char} (h : isDigit c = true) : isSpace c = false := by
  rw [Bool.eq_false_iff]
  intro hspace
  simp only [isSpace, Bool.or_eq_true, beq_iff_eq] at hspace
  rcases hspace with ((rfl | rfl) | rfl) | rfl <;> cases h

/-- **An integer is read as it was written**, within the bounds and within 64 bits. -/
theorem readInteger_written {i low high : Int} (hlow : low ≤ i) (hhigh : i ≤ high)
    (h64 : -9223372036854775808 ≤ i ∧ i < 9223372036854775808) (expected : String) {t : List Char}
    (ht : Unextended t) :
    readInteger expected low high (writeInteger i ++ t) = .ok (i, t) := by
  have htaken : readInteger.taken expected low high (.ok (.integer i, t)) = .ok (i, t) := by
    rw [readInteger.taken, integerWithin, if_pos ⟨hlow, hhigh⟩]
  cases i with
  -- without a sign the digits come first
  | ofNat n =>
    have hn : n < significandLimit := by
      change _ ∧ (n : Int) < 9223372036854775808 at h64
      show n < 2 ^ 64
      omega
    have hread : readNumber false (digits n ++ t) = .ok (.integer n, t) :=
      readNumber_digits hn ht false
    rw [writeInteger]
    cases hds : digits n with
    | nil => exact absurd hds (Text.digits_ne_nil n)
    | cons d ds =>
      have hd : isDigit d = true := Text.isDigit_of_mem_digits (hds ▸ List.mem_cons_self)
      rw [hds, List.cons_append] at hread
      rw [List.cons_append, readInteger, skipBlanks_cons (isSpace_of_isDigit hd)]
      split
      · next h => cases h
      · next h =>
        cases (List.cons.inj h).1
        cases hd
      · next c r _ h =>
        obtain ⟨rfl, rfl⟩ := List.cons.inj h
        rw [if_pos hd, hread]
        exact htaken
  | negSucc n =>
    have hn : n + 1 < significandLimit := by
      show n + 1 < 2 ^ 64
      omega
    have hwhole : wholeNumeral true (n + 1) = .ok (.integer (.negSucc n)) := by
      -- the least number has one more than half of the 64 bits
      have hsize : ¬(n + 1 = 0 ∨ UInt64.size / 2 < n + 1) := by
        have hhalf : UInt64.size / 2 = 2 ^ 63 := rfl
        omega
      rw [wholeNumeral, if_neg (by simp), if_neg hsize]
      rfl
    have hread : readNumber true (digits (n + 1) ++ t) = .ok (.integer (.negSucc n), t) := by
      rw [readNumber_digits hn ht true, hwhole]
      rfl
    rw [writeInteger, List.cons_append, readInteger, skipBlanks_cons rfl]
    exact (congrArg _ hread).trans htaken

end KeyedDelivery.Json
