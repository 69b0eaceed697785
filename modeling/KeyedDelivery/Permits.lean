/-!
# Permits

A fixed number of permits bounds how many deliveries are with the handler at once. Taking one blocks
while none is available; returning one never makes more of them than there were.
-/

namespace KeyedDelivery

/-- Permits of which some are available. -/
structure Permits where
  capacity : Nat
  available : Nat
  deriving DecidableEq, Repr

namespace Permits

/-- Permits that are all available. -/
def full (capacity : Nat) : Permits := ⟨capacity, capacity⟩

def inUse (p : Permits) : Nat := p.capacity - p.available

/-- Takes a permit, unless that has to wait. -/
def acquire? (p : Permits) : Option Permits :=
  if p.available = 0 then none else some { p with available := p.available - 1 }

def release (p : Permits) : Permits := { p with available := min (p.available + 1) p.capacity }

/-- Lets one that waits for a permit take it and give it back: nothing changes, unless none is
available. -/
def pass? (p : Permits) : Option Permits := p.acquire?.map release

/-- Lets waiting ones pass one after the other: how many of `n` got through. -/
def passAll : Nat → Permits → Nat × Permits
  | 0, p => (0, p)
  | n + 1, p =>
    match p.pass? with
    | none => (0, p)
    | some q => let (k, r) := passAll n q; (k + 1, r)

theorem release_acquire? {p q : Permits} (h : p.acquire? = some q) (le : p.available ≤ p.capacity) :
    q.release = p := by
  unfold acquire? at h
  split at h <;> simp at h
  subst h
  cases p
  simp_all [release]
  omega

end Permits

end KeyedDelivery
