import KeyedDelivery.Proofs.Delay.Schedule

/-!
# Delays that escalate

However a table was made, its delays grow with their levels, from no delay at level 0 up to the last
entry, which is the delay of every level from there on.

* **`Built`**, **`Escalating`** — the ways to a table, and what the entries of a table are by each of them.
* **`scaledDown_quotients`** — the standard table can be divided by every number.
* **`exists_entry`** — a level above 0 has the delay of an entry, that of the last one if it has none of its
  own.
* **`levels_escalate`** — no level has a longer delay than a level above it, so no retry waits longer than a
  later one.
-/

namespace KeyedDelivery.DelayTable

/-- A table that was given by its durations, read from a text, or derived from the standard table. -/
inductive Built : DelayTable → Prop where
  | durations {ds : List Nat} {t : DelayTable} (h : ofDurations ds = .ok t) : Built t
  | text {text : String} {t : DelayTable} (h : parse text = .ok t) : Built t
  | standard : Built .standard
  | scaled (divisor : UInt32) : Built (scaledDown divisor)

/-- Durations that never decrease, of at most seven days. -/
structure Escalating (ds : List Nat) : Prop where
  ne_nil : ds ≠ []
  nonDecreasing : ds.Pairwise (· ≤ ·)
  within : ∀ d ∈ ds, d ≤ 7 * Timescale.days.span

/-! ## The entries of a table -/

/-- An entry is no longer than one behind it. -/
theorem Escalating.getElem?_le {ds : List Nat} (h : Escalating ds) {i j a b : Nat} (hij : i ≤ j)
    (hi : ds[i]? = some a) (hj : ds[j]? = some b) : a ≤ b := by
  obtain ⟨hi, rfl⟩ := List.getElem?_eq_some_iff.mp hi
  obtain ⟨hj, rfl⟩ := List.getElem?_eq_some_iff.mp hj
  rcases Nat.eq_or_lt_of_le hij with rfl | hlt
  · exact Nat.le_refl _
  · exact List.pairwise_iff_getElem.mp h.nonDecreasing i j _ _ hlt

/-- `e` is the whole part of `d` divided by `n`, which is not 0 then. -/
def IsQuotient (n d e : Nat) : Prop := e * n ≤ d ∧ d < (e + 1) * n

/-- Division rounds down. -/
theorem isQuotient_div {n : Nat} (hn : 0 < n) (d : Nat) : IsQuotient n d (d / n) := by
  refine ⟨Nat.div_mul_le_self d n, ?_⟩
  rw [Nat.mul_comm]
  exact Nat.lt_mul_div_succ d hn

/-- Every divisor gives a table, 0 the standard one. -/
theorem scaledDown_quotients (divisor : UInt32) :
    List.Forall₂ (IsQuotient (if divisor = 0 then 1 else divisor.toNat)) standard.entries
      (scaledDown divisor).entries := by
  -- a division by 0 is one by 1
  have hmax : max divisor.toNat 1 = if divisor = 0 then 1 else divisor.toNat := by
    split
    · next hzero =>
      rw [hzero]
      rfl
    · next hdivisor =>
      have hpos : 0 < divisor.toNat :=
        UInt32.lt_iff_toNat_lt.mp (UInt32.pos_iff_ne_zero.mpr hdivisor)
      omega
  rw [← hmax, scaledDown, List.forall₂_map_right_iff, List.forall₂_same]
  rintro d -
  exact isQuotient_div (Nat.le_max_right _ _) d

/-- Division rounds down, which keeps the order of the durations. -/
theorem Escalating.divided {ds : List Nat} (h : Escalating ds) (n : Nat) :
    Escalating (ds.map (· / n)) where
  ne_nil := mt List.map_eq_nil_iff.mp h.ne_nil
  nonDecreasing := List.pairwise_map.mpr (h.nonDecreasing.imp fun hle => Nat.div_le_div_right hle)
  within := List.forall_mem_map.mpr fun d hd => Nat.le_trans (Nat.div_le_self d n) (h.within d hd)

/-- A list of durations is only accepted if they do not decrease. -/
theorem escalating_of_ofDurations {ds : List Nat} {t : DelayTable} (h : ofDurations ds = .ok t) :
    Escalating t.entries := by
  obtain ⟨rfl, hne, hsteady, hwithin⟩ := ofDurations_iff.mp h
  exact ⟨hne, hsteady, hwithin⟩

/-- So is a text. -/
theorem escalating_of_parse {text : String} {t : DelayTable} (h : parse text = .ok t) :
    Escalating t.entries := by
  unfold parse at h
  split at h
  · cases h
  · exact escalating_of_ofDurations h

/-- How the standard table is written. -/
def standardText : String := "1s 5s 10s 30s 1m 2m 3m 4m 5m 6m 7m 8m 9m 10m 20m 30m 1h 2h"

/-- So written, it is read as the standard table. -/
theorem parse_standardText : parse standardText = .ok standard := by cbv

/-- **The entries of a table**, whichever way it was made. The scaled tables are not checked when they are
made: they are in order because the standard table is. -/
theorem Built.escalating {t : DelayTable} (h : Built t) : Escalating t.entries := by
  have hstandard := escalating_of_parse parse_standardText
  cases h with
  | durations h => exact escalating_of_ofDurations h
  | text h => exact escalating_of_parse h
  | standard => exact hstandard
  | scaled divisor => exact hstandard.divided (max divisor.toNat 1)

/-! ## The delay of a level -/

/-- Every table has a level above 0. -/
theorem maxLevel_pos (t : DelayTable) : 0 < t.maxLevel := List.length_pos_iff.mpr t.entries_ne_nil

/-- The entry of the highest level is the last one. -/
theorem last_entry (t : DelayTable) :
    t.entries[t.maxLevel - 1]? = some (t.entries.getLast t.entries_ne_nil) := by
  rw [maxLevel, ← List.getLast?_eq_getElem?, List.getLast?_eq_some_getLast]

/-- **The entry of a level** other than 0: the lesser of the level and the number of entries is at least 1,
and one less is the index of the entry. -/
theorem exists_entry (t : DelayTable) {l : DelayLevel} (h : l ≠ .immediate) :
    ∃ i, min l.level.toNat t.maxLevel = i + 1 ∧ t.entries[i]? = some (t.duration l) := by
  have hlevel := DelayLevel.toNat_pos h
  have hmax := t.maxLevel_pos
  obtain ⟨n, hn⟩ := Nat.exists_eq_add_one_of_ne_zero (Nat.ne_of_gt hlevel)
  have hduration : t.duration l = t.entries[n]?.getD (t.entries.getLast t.entries_ne_nil) := by
    rw [duration, hn]
  -- a level of the table has an entry of its own, and one beyond it has the last one
  by_cases hin : n < t.maxLevel
  · refine ⟨n, by omega, ?_⟩
    rw [hduration, List.getElem?_eq_getElem hin, Option.getD_some]
  · refine ⟨t.maxLevel - 1, by omega, ?_⟩
    rw [hduration, List.getElem?_eq_none (Nat.le_of_not_lt hin), Option.getD_none, last_entry]

/-- A level beyond the table has the delay of the last entry. -/
theorem duration_of_maxLevel_le (t : DelayTable) {l : DelayLevel} (h : t.maxLevel ≤ l.level.toNat) :
    t.duration l = t.entries.getLast t.entries_ne_nil := by
  have hmax := t.maxLevel_pos
  have hl : l ≠ .immediate := by
    rintro rfl
    exact absurd h (Nat.not_le.mpr hmax)
  obtain ⟨i, hi, hentry⟩ := t.exists_entry hl
  have hlast : i = t.maxLevel - 1 := by omega
  rw [hlast, last_entry] at hentry
  exact (Option.some.inj hentry).symm

/-- **A higher level has no shorter delay.** -/
theorem duration_le_duration {t : DelayTable} (h : Escalating t.entries) {l m : DelayLevel}
    (hlm : l.level ≤ m.level) : t.duration l ≤ t.duration m := by
  have hle := UInt32.le_iff_toNat_le.mp hlm
  -- level 0 has no delay at all
  by_cases hl : l = .immediate
  · rw [hl]
    exact Nat.zero_le _
  have hm : m ≠ .immediate := by
    rintro rfl
    exact absurd hle (Nat.not_le.mpr (DelayLevel.toNat_pos hl))
  obtain ⟨i, hi, hfirst⟩ := t.exists_entry hl
  obtain ⟨j, hj, hsecond⟩ := t.exists_entry hm
  exact h.getElem?_le (by omega) hfirst hsecond

/-- **The delays of a table escalate**, whichever way it was made; the standard table can be divided by
every number, where 0 counts as 1. The entries of a table never decrease and none is longer than seven days.
Level 0 has no delay, any other level that of an entry, and each level from the number of entries on that of
the last entry. (This number is a level in tables of fewer than `2 ^ 32` entries only; of longer tables the
last part says nothing.) A higher level never has a shorter delay, and neither has the retry after a later
attempt, up to the attempts at the end of the count, whose levels are the same. -/
theorem levels_escalate :
    (∀ divisor : UInt32, List.Forall₂ (IsQuotient (if divisor = 0 then 1 else divisor.toNat))
      standard.entries (scaledDown divisor).entries) ∧
    ∀ t, Built t →
      Escalating t.entries ∧
      (∀ l, l ≠ .immediate →
        ∃ i, min l.level.toNat t.maxLevel = i + 1 ∧ t.entries[i]? = some (t.duration l)) ∧
      t.duration .immediate = 0 ∧
      (∀ l, t.maxLevel ≤ l.level.toNat → t.duration l = t.entries.getLast t.entries_ne_nil) ∧
      (∀ l m, l.level ≤ m.level → t.duration l ≤ t.duration m) ∧
      ∀ i j, i ≤ j → t.duration (.forRetry i) ≤ t.duration (.forRetry j) := by
  refine ⟨scaledDown_quotients, fun t h => ?_⟩
  have hentries := h.escalating
  refine ⟨hentries, fun l hl => t.exists_entry hl, rfl, fun l hl => t.duration_of_maxLevel_le hl,
    fun l m hlm => duration_le_duration hentries hlm, fun i j hij => ?_⟩
  exact duration_le_duration hentries (DelayLevel.forRetry_le_forRetry hij)

/-- The greatest divisor, a level above the last, and the attempts at the end of the count. -/
theorem levels_escalate_scaled :
    Built (scaledDown 4294967295) ∧ (scaledDown 4294967295).duration ⟨40⟩ = 1676 ∧
      (scaledDown 4294967295).duration ⟨1⟩ ≤ (scaledDown 4294967295).duration ⟨2⟩ ∧
      (scaledDown 4294967295).duration (.forRetry 4294967294) ≤
        (scaledDown 4294967295).duration (.forRetry 4294967295) := by
  have hbuilt := Built.scaled 4294967295
  obtain ⟨-, -, -, hlast, hlevels, hretries⟩ := levels_escalate.2 _ hbuilt
  refine ⟨hbuilt, ?_, hlevels _ _ (by decide), hretries _ _ (by decide)⟩
  rw [hlast ⟨40⟩ (by decide)]
  rfl

end KeyedDelivery.DelayTable
