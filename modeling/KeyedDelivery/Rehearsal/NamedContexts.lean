import KeyedDelivery.LogContext
import KeyedDelivery.Table

/-!
# Log contexts under names

The log context of one thread, and contexts that were set aside under names.
-/

namespace KeyedDelivery.Rehearsal

/-- A thread, and the contexts with names. -/
structure NamedContexts where
  named : Table String LogContext := []
  thread : LogContext.Thread := {}

namespace NamedContexts

/-- The context of a name; one that was never set is empty. -/
def context (s : NamedContexts) (name : String) : LogContext := (s.named.find? name).getD .empty

def keep (s : NamedContexts) (name : String) (c : LogContext) : NamedContexts :=
  { s with named := s.named.put name c }

def update (s : NamedContexts) (f : LogContext → LogContext) : NamedContexts :=
  { s with thread := s.thread.update f }

def openScope (s : NamedContexts) (id : String) (c : LogContext) : NamedContexts :=
  { s with thread := s.thread.openScope id c }

def dropScope? (s : NamedContexts) (id : String) : Option NamedContexts :=
  (s.thread.dropScope? id).map fun thread => { s with thread }

/-- What a fresh thread has, inside a scope of a context or outside any. -/
def elsewhere (c : LogContext) (inside : Bool) : LogContext :=
  if inside then (LogContext.enter .empty c).1 else .empty

end NamedContexts

end KeyedDelivery.Rehearsal
