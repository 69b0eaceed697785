import KeyedDelivery.Proofs.Text.Utf8
import KeyedDelivery.Text.Units16

/-!
# The UTF-16 units of a text

What the units of a text are is said by reading them: a unit stands for the character of its own number,
or a leading and a trailing surrogate stand together for a character beyond the basic plane. A text has
exactly one such list of units.

* **`Utf16`** — characters with their units.
* **`utf16_iff`** — `units16` gives these units.
-/

namespace KeyedDelivery.Text

/-- Characters with their units. -/
inductive Utf16 : List Char → List UInt16 → Prop where
  | nil : Utf16 [] []
  | basic {c : Char} {u : UInt16} {cs : List Char} {us : List UInt16} (number : c.toNat = u.toNat)
      (rest : Utf16 cs us) : Utf16 (c :: cs) (u :: us)
  | pair {c : Char} {lead trail : UInt16} {cs : List Char} {us : List UInt16}
      (leading : 0xd800 ≤ lead.toNat ∧ lead.toNat ≤ 0xdbff)
      (trailing : 0xdc00 ≤ trail.toNat ∧ trail.toNat ≤ 0xdfff)
      (number : c.toNat = 0x10000 + (lead.toNat - 0xd800) * 1024 + (trail.toNat - 0xdc00))
      (rest : Utf16 cs us) : Utf16 (c :: cs) (lead :: trail :: us)

/-- What fits into 16 bits is kept. -/
theorem toNat_toUInt16 {n : Nat} (h : n < 0x10000) : n.toUInt16.toNat = n := Nat.mod_eq_of_lt h

/-- A character in front has its own units. -/
theorem utf16_cons {c : Char} {cs : List Char} {us : List UInt16} (h : Utf16 cs us) :
    Utf16 (c :: cs) (units16Char c ++ us) := by
  have hvalid := toNat_not_surrogate c
  unfold units16Char
  dsimp only
  split
  · next hbasic => exact .basic (toNat_toUInt16 hbasic).symm h
  · -- ten bits of what is above the basic plane in each of the two units
    have hlead : (0xd800 + (c.toNat - 0x10000) / 1024).toUInt16.toNat =
        0xd800 + (c.toNat - 0x10000) / 1024 := toNat_toUInt16 (by omega)
    have htrail : (0xdc00 + (c.toNat - 0x10000) % 1024).toUInt16.toNat =
        0xdc00 + (c.toNat - 0x10000) % 1024 := toNat_toUInt16 (by omega)
    exact .pair (by omega) (by omega) (by omega) h

/-- **A text has no other units** than those that are computed. -/
theorem Utf16.units_eq {cs : List Char} {us : List UInt16} (h : Utf16 cs us) :
    us = cs.flatMap units16Char := by
  induction h with
  | nil => rfl
  | @basic c u cs us number _ ih =>
    have hu : c.toNat.toUInt16 = u := by
      rw [number]
      exact UInt16.ofNat_toNat
    rw [List.flatMap_cons, ← ih, units16Char, if_pos (by have := u.toNat_lt; omega), hu]
    rfl
  -- a pair stands for a character beyond the basic plane, which is cut into two halves
  | @pair c lead trail cs us leading trailing number _ ih =>
    have hlead : (0xd800 + (c.toNat - 0x10000) / 1024).toUInt16 = lead := by
      rw [← UInt16.toNat_inj, toNat_toUInt16 (by omega)]
      omega
    have htrail : (0xdc00 + (c.toNat - 0x10000) % 1024).toUInt16 = trail := by
      rw [← UInt16.toNat_inj, toNat_toUInt16 (by omega)]
      omega
    rw [List.flatMap_cons, ← ih, units16Char, if_neg (by omega), hlead, htrail]
    rfl

/-- **The units of a text** are those that `units16` gives, and no others. -/
theorem utf16_iff {s : String} {us : List UInt16} : Utf16 s.toList us ↔ us = units16 s := by
  refine ⟨Utf16.units_eq, ?_⟩
  rintro rfl
  unfold units16
  induction s.toList with
  | nil => exact .nil
  | cons c cs ih => exact utf16_cons ih

/-- The units of a text made of two are those of the one and those of the other. -/
theorem units16_append (a b : String) : units16 (a ++ b) = units16 a ++ units16 b := by
  rw [units16, String.toList_append, List.flatMap_append]
  rfl

example : units16 "a😀" = [97, 0xd83d, 0xde00] := by decide

end KeyedDelivery.Text
