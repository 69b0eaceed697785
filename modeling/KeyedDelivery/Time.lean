/-!
# Time

Spans of time and readings of a clock are natural numbers of nanoseconds.
-/

namespace KeyedDelivery.Time

def millis (n : Nat) : Nat := n * 1000000

def seconds (n : Nat) : Nat := n * 1000000000

def toMillis (d : Nat) : Nat := d / 1000000

/-- The longest span of time: as many seconds as 64 bits can count, and a fraction. -/
def longest : Nat := seconds UInt64.size - 1

/-- The greatest reading of a clock whose seconds are a signed number of 64 bits. -/
def lastReading : Nat := seconds (UInt64.size / 2) - 1

/-- Whether a clock has a reading. `last` is its greatest one, if there is one. -/
def reaches (last : Option Nat) (n : Nat) : Bool := last.all (n ≤ ·)

theorem reaches_none (n : Nat) : reaches none n = true := rfl

theorem ne_none_of_reaches_eq_false {last : Option Nat} {n : Nat} (h : reaches last n = false) :
    last ≠ none := by
  rintro rfl
  cases h

end KeyedDelivery.Time
