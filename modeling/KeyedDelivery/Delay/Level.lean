import KeyedDelivery.Json.Writer

/-!
# Delay levels

The delay of a message is asked for by an ordinal: level 0 is *at once*, any other names an entry of
a delay table.
-/

namespace KeyedDelivery

/-- The ordinal of a delay. -/
structure DelayLevel where
  level : UInt32
  deriving DecidableEq, Repr, Inhabited

namespace DelayLevel

/-- Delivery at once. -/
def immediate : DelayLevel := ⟨0⟩

/-- Whether a level asks for delivery at once. -/
def isImmediate (l : DelayLevel) : Bool := l.level == 0

/-- One more, up to the largest count. -/
def increment (n : UInt32) : UInt32 := if n = 4294967295 then n else n + 1

/-- The level of the redelivery that follows attempt number `attempt`. -/
def forRetry (attempt : UInt32) : DelayLevel := ⟨increment attempt⟩

def toJson (l : DelayLevel) : List Char := Json.writeNatural l.level.toNat

theorem toNat_increment (n : UInt32) :
    (increment n).toNat = if n.toNat = 4294967295 then n.toNat else n.toNat + 1 := by
  have := n.toNat_lt
  unfold increment
  split
  · rename_i h; subst h; rfl
  · rename_i h
    have hn : n.toNat ≠ 4294967295 := fun e => h (UInt32.toNat_inj.1 e)
    simp only [hn, ↓reduceIte, UInt32.toNat_add]
    have h1 : (1 : UInt32).toNat = 1 := rfl
    rw [h1]; omega

/-- The count ends at the largest one. -/
theorem toNat_increment_min (n : UInt32) :
    (increment n).toNat = min (n.toNat + 1) 4294967295 := by
  have hmax := n.toNat_lt
  rw [toNat_increment]
  split <;> omega

/-- Before a limit, the count goes on. -/
theorem toNat_increment_of_lt {n limit : UInt32} (h : n < limit) :
    (increment n).toNat = n.toNat + 1 := by
  have hlt := UInt32.lt_iff_toNat_lt.mp h
  have hmax := limit.toNat_lt
  rw [toNat_increment_min]
  omega

theorem toNat_pos {l : DelayLevel} (h : l ≠ immediate) : 0 < l.level.toNat :=
  UInt32.lt_iff_toNat_lt.mp (UInt32.pos_iff_ne_zero.mpr (mt (congrArg mk) h))

/-- The levels of retries go up with the attempts, until both are the greatest. -/
theorem forRetry_le_forRetry {i j : UInt32} (h : i ≤ j) :
    (forRetry i).level ≤ (forRetry j).level := by
  have hle := UInt32.le_iff_toNat_le.mp h
  rw [UInt32.le_iff_toNat_le, forRetry, forRetry, toNat_increment_min, toNat_increment_min]
  omega

end DelayLevel

end KeyedDelivery
