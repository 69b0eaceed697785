import KeyedDelivery.Permits

/-!
# Permits held under names

Permits, and the names under which some of them are held.
-/

namespace KeyedDelivery.Rehearsal

/-- Permits and the names they are held under, one for each permit that is held. -/
structure NamedPermits where
  permits : Permits
  held : List String := []
  deriving DecidableEq, Repr

namespace NamedPermits

/-- Takes a permit under a name, unless that has to wait. A name may hold several. -/
def acquire? (s : NamedPermits) (name : String) : Option NamedPermits :=
  s.permits.acquire?.map fun p => { permits := p, held := name :: s.held }

/-- Gives back one permit that is held under a name. -/
def release? (s : NamedPermits) (name : String) : Option NamedPermits :=
  if s.held.contains name then some ⟨s.permits.release, s.held.erase name⟩ else none

/-- Lets one take a permit and panic with it, unless it has to wait. -/
def panic? (s : NamedPermits) : Option NamedPermits :=
  s.permits.pass?.map fun p => { s with permits := p }

/-- While all permits are taken, `n` wait for one; then one held under a name is given back. How
many got through before and after that. -/
def blocked? (s : NamedPermits) (name : String) (n : Nat) : Option (Nat × Nat × NamedPermits) :=
  if s.permits.available = 0 then
    (s.release? name).map fun released =>
      let (after, p) := released.permits.passAll n
      ((s.permits.passAll n).1, after, { released with permits := p })
  else none

end NamedPermits

end KeyedDelivery.Rehearsal
