import KeyedDelivery.Delay.Table
import KeyedDelivery.Proofs.Text.Words
import Mathlib.Data.List.Chain
import Mathlib.Data.List.Forall2
import Mathlib.Data.List.TakeWhile

/-!
# Texts that are delay tables

A text is read as a table exactly if it is a schedule: some words, each a number with a unit, whose
durations do not decrease and stay within seven days. Durations are meant as they are written, however
many digits a number has.

* **`Denotes`** — a word stands for a duration.
* **`denotes_of_parseEntry`**, **`parseEntry_of_denotes`** — the reader of a word accepts no other word,
  and all whose duration is within the limit, as a count beyond 64 bits is far above it.
* **`IsSchedule`**, **`parse_exact`** — the texts that are read, and the tables that they give.
-/

namespace KeyedDelivery.DelayTable

open Text (isDigit value)

/-- The units of a duration. -/
inductive Timescale where
  | milliseconds
  | seconds
  | minutes
  | hours
  | days
  deriving DecidableEq, Repr

/-- How a unit is written. -/
def Timescale.letters : Timescale → List Char
  | .milliseconds => ['m', 's']
  | .seconds => ['s']
  | .minutes => ['m']
  | .hours => ['h']
  | .days => ['d']

/-- How long one of a unit is. -/
def Timescale.span : Timescale → Nat
  | .milliseconds => Time.millis 1
  | .seconds => Time.seconds 1
  | .minutes => Time.seconds 60
  | .hours => Time.seconds (60 * 60)
  | .days => Time.seconds (24 * 60 * 60)

/-- A word stands for a duration: one or more digits, and a unit after them. -/
def Denotes (word : List Char) (d : Nat) : Prop :=
  ∃ digits unit, digits ≠ [] ∧ (∀ c ∈ digits, isDigit c = true) ∧
    word = digits ++ Timescale.letters unit ∧ d = value digits * unit.span

/-- The text of a table with these durations. -/
structure IsSchedule (text : String) (ds : List Nat) : Prop where
  words : ∃ ws, Text.Splits text.toList ws ∧ ws ≠ [] ∧ List.Forall₂ Denotes ws ds
  nonDecreasing : ds.Pairwise (· ≤ ·)
  within : ∀ d ∈ ds, d ≤ 7 * Timescale.days.span

/-! ## One word -/

/-- A word is cut where its digits end. -/
theorem span_digits {digits : List Char} (hdigits : ∀ c ∈ digits, isDigit c = true)
    (unit : Timescale) :
    (digits ++ unit.letters).takeWhile isDigit = digits ∧
      (digits ++ unit.letters).dropWhile isDigit = unit.letters := by
  have hstop : unit.letters.takeWhile isDigit = [] ∧
      unit.letters.dropWhile isDigit = unit.letters := by
    cases unit <;> decide
  rw [List.takeWhile_append_of_pos hdigits, List.dropWhile_append_of_pos hdigits, hstop.1, hstop.2,
    List.append_nil]
  exact ⟨rfl, rfl⟩

/-- The units of at least a second. -/
theorem unitSeconds?_eq_some {letters : List Char} {u : Nat} (h : unitSeconds? letters = some u) :
    ∃ unit : Timescale, letters = unit.letters ∧ unit.span = Time.seconds u := by
  unfold unitSeconds? at h
  split at h <;> cases h
  · exact ⟨.seconds, rfl, rfl⟩
  · exact ⟨.minutes, rfl, rfl⟩
  · exact ⟨.hours, rfl, rfl⟩
  · exact ⟨.days, rfl, rfl⟩

/-- Some times as many seconds. -/
theorem seconds_mul (n u : Nat) : Time.seconds (n * u) = n * Time.seconds u :=
  Nat.mul_assoc n u 1000000000

/-- **A word that is read** stands for the duration that is read. -/
theorem denotes_of_parseEntry {word : List Char} {d : Nat} (h : parseEntry word = .ok d) :
    Denotes word d := by
  have hdigits : ∀ c ∈ word.takeWhile isDigit, isDigit c = true := fun c => List.mem_takeWhile_imp
  have hword {letters : List Char} (hunit : word.dropWhile isDigit = letters) :
      word = word.takeWhile isDigit ++ letters := by
    rw [← hunit, List.takeWhile_append_dropWhile]
  unfold parseEntry at h
  dsimp only at h
  split at h
  · cases h
  split at h
  · cases h
  next hnumber =>
  -- without a digit there is no number
  have hnonempty : word.takeWhile isDigit ≠ [] := by
    rintro hnil
    rw [hnil] at hnumber
    exact hnumber rfl
  split at h
  · -- milliseconds are not counted in seconds
    next hunit =>
    cases h
    refine ⟨_, .milliseconds, hnonempty, hdigits, hword hunit, ?_⟩
    exact congrArg (_ * ·) (Nat.one_mul 1000000).symm
  split at h
  · cases h
  next u hu =>
  -- all other units are some seconds long
  obtain ⟨unit, hunit, hspan⟩ := unitSeconds?_eq_some hu
  split at h
  · cases h
  · cases h
    exact ⟨_, unit, hnonempty, hdigits, hword hunit, by rw [hspan, seconds_mul]⟩

/-- A unit below the second, or one that is known by its seconds. -/
theorem Timescale.milliseconds_or (unit : Timescale) :
    unit = .milliseconds ∨ ∃ u, unit.letters ≠ ['m', 's'] ∧ unitSeconds? unit.letters = some u ∧
      unit.span = Time.seconds u := by
  cases unit with
  | milliseconds => exact .inl rfl
  | seconds => exact .inr ⟨1, by decide, rfl, rfl⟩
  | minutes => exact .inr ⟨60, by decide, rfl, rfl⟩
  | hours => exact .inr ⟨3600, by decide, rfl, rfl⟩
  | days => exact .inr ⟨86400, by decide, rfl, rfl⟩

/-- **A word is read** if its duration is within the limit. -/
theorem parseEntry_of_denotes {word : List Char} {d : Nat} (h : Denotes word d)
    (hwithin : d ≤ longest) : parseEntry word = .ok d := by
  obtain ⟨digits, unit, hnonempty, hdigits, rfl, rfl⟩ := h
  obtain ⟨hnumber, hunit⟩ := span_digits hdigits unit
  have hempty : digits.isEmpty = false := by simpa using hnonempty
  have hletters : unit.letters.isEmpty = false := by cases unit <;> rfl
  -- within seven days every count is far below the end of its range
  have hlimit {n : Nat} (hn : n ≤ longest) : ¬countLimit ≤ n :=
    Nat.not_le.mpr (Nat.lt_of_le_of_lt hn (by decide))
  have hspan : 0 < unit.span := by cases unit <;> decide
  have hcount : ¬countLimit ≤ value digits :=
    hlimit (Nat.le_trans (Nat.le_mul_of_pos_right _ hspan) hwithin)
  unfold parseEntry
  dsimp only
  rw [hnumber, hunit, hempty, hletters, if_neg Bool.false_ne_true, if_neg (by simpa using hcount)]
  rcases unit.milliseconds_or with rfl | ⟨u, hlong, hsome, hseconds⟩
  · exact congrArg (Except.ok <| value digits * ·) (Nat.one_mul 1000000).symm
  · have hproduct : value digits * u ≤ longest := by
      refine Nat.le_trans (Nat.le_mul_of_pos_right _ (Nat.zero_lt_succ 999999999)) ?_
      rw [hseconds, ← seconds_mul] at hwithin
      exact hwithin
    rw [if_neg hlong, hsome]
    dsimp only
    rw [if_neg (hlimit hproduct), seconds_mul, hseconds]

/-! ## The table -/

/-- Read word by word, each word stands for its duration. -/
theorem denotes_of_parseEntries {ws : List (List Char)} {ds : List Nat}
    (h : parseEntries ws = .ok ds) : List.Forall₂ Denotes ws ds := by
  induction ws generalizing ds with
  | nil =>
    cases h
    exact .nil
  | cons w ws ih =>
    rw [parseEntries] at h
    split at h
    · cases h
    · next d hd =>
      -- the first word that is not read ends the reading
      cases hrest : parseEntries ws with
      | error e =>
        rw [hrest] at h
        cases h
      | ok ds' =>
        rw [hrest] at h
        cases h
        exact .cons (denotes_of_parseEntry hd) (ih hrest)

/-- Words whose durations are within the limit are all read. -/
theorem parseEntries_of_denotes {ws : List (List Char)} {ds : List Nat}
    (h : List.Forall₂ Denotes ws ds) (hwithin : ∀ d ∈ ds, d ≤ longest) :
    parseEntries ws = .ok ds := by
  induction h with
  | nil => rfl
  | cons hdenotes _ ih =>
    obtain ⟨hd, hds⟩ := List.forall_mem_cons.mp hwithin
    rw [parseEntries, parseEntry_of_denotes hdenotes hd, ih hds]
    rfl

/-- The check compares neighbours, and that is enough. -/
theorem isNonDecreasing_iff (ds : List Nat) :
    isNonDecreasing ds = true ↔ ds.Pairwise (· ≤ ·) := by
  rw [← List.isChain_iff_pairwise]
  fun_induction isNonDecreasing ds with
  | case1 => simp
  | case2 => simp
  | case3 a b r ih => rw [List.isChain_cons_cons, Bool.and_eq_true, decide_eq_true_iff, ih]

/-- **The lists that are tables**: not empty, without a decrease, and within the limit. -/
theorem ofDurations_iff {ds : List Nat} {t : DelayTable} :
    ofDurations ds = .ok t ↔
      t.entries = ds ∧ ds ≠ [] ∧ ds.Pairwise (· ≤ ·) ∧ ∀ d ∈ ds, d ≤ longest := by
  have hany : ds.any (longest < ·) = true ↔ ¬∀ d ∈ ds, d ≤ longest := by simp
  unfold ofDurations
  split
  · next hnil => exact ⟨nofun, fun h => absurd hnil h.2.1⟩
  next hne =>
  split
  · -- each of the three checks refuses what lacks the property that it is about
    next hdecreases =>
    refine ⟨nofun, fun h => ?_⟩
    rw [(isNonDecreasing_iff ds).mpr h.2.2.1] at hdecreases
    cases hdecreases
  next hsteady =>
  split
  · next hlong => exact ⟨nofun, fun h => absurd h.2.2.2 (hany.mp hlong)⟩
  next hwithin =>
  have hpairwise := (isNonDecreasing_iff ds).mp (by simpa using hsteady)
  have hall := not_not.mp (mt hany.mpr hwithin)
  exact ⟨fun h => by cases h; exact ⟨rfl, hne, hpairwise, hall⟩, fun h => by cases h.1; rfl⟩

/-- **A text is read as a table exactly if it is a schedule**, and the table has the durations of the
schedule in their order. Any other text is refused: one without a word, with a word that is no number
with a unit, with a duration shorter than the one before it, or with one of more than seven days,
whatever the number of its digits. -/
theorem parse_exact (text : String) :
    (∀ ds, (∃ t, parse text = .ok t ∧ t.entries = ds) ↔ IsSchedule text ds) ∧
      ((∃ e, parse text = .error e) ↔ ∀ ds, ¬IsSchedule text ds) := by
  have hread (ds : List Nat) : (∃ t, parse text = .ok t ∧ t.entries = ds) ↔ IsSchedule text ds := by
    constructor
    · rintro ⟨t, hparse, rfl⟩
      unfold parse at hparse
      split at hparse
      · cases hparse
      next ds hds =>
      -- the words are read, and their durations pass the checks
      obtain ⟨hentries, hne, hsteady, hwithin⟩ := ofDurations_iff.mp hparse
      have hdenotes := denotes_of_parseEntries hds
      rw [hentries]
      refine ⟨⟨_, Text.splits_iff.mpr rfl, ?_, hdenotes⟩, hsteady, hwithin⟩
      rintro hnil
      rw [hnil] at hdenotes
      cases hdenotes
      exact hne rfl
    · rintro ⟨⟨ws, hsplits, hne, hdenotes⟩, hsteady, hwithin⟩
      have hds : ds ≠ [] := by
        rintro rfl
        cases hdenotes
        exact hne rfl
      refine ⟨⟨ds, hds⟩, ?_, rfl⟩
      rw [parse, Text.splits_iff.mp hsplits, parseEntries_of_denotes hdenotes hwithin]
      exact ofDurations_iff.mpr ⟨rfl, hds, hsteady, hwithin⟩
  refine ⟨hread, ?_, fun hnone => ?_⟩
  · rintro ⟨e, he⟩ ds hschedule
    obtain ⟨t, ht, -⟩ := (hread ds).mpr hschedule
    exact nomatch he.symm.trans ht
  · cases hparse : parse text with
    | error e => exact ⟨e, rfl⟩
    | ok t => exact absurd ((hread t.entries).mp ⟨t, hparse, rfl⟩) (hnone _)

/-- A count beyond 64 bits is no short duration. -/
example : (parse "18446744073709551617ms").toOption.isNone = true := by decide

end KeyedDelivery.DelayTable
