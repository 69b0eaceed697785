import KeyedDelivery.LogContext

/-!
# Runs of a thread's log context

Everything that one thread does to its context, in any order: it edits the entries, copies them, installs
another context, or gives up the guard of one that it installed.
-/

namespace KeyedDelivery.LogContext

/-- A change of entries. -/
inductive Edit where
  | insert (key value : String)
  | remove (key : String)
  | clear
  deriving DecidableEq, Repr

def edit (c : LogContext) : Edit → LogContext
  | .insert key value => c.insert key value
  | .remove key => c.remove key
  | .clear => .empty

/-- A context after some changes, the first one first. -/
def edited (c : LogContext) (edits : List Edit) : LogContext := edits.foldl edit c

namespace Thread

/-- What a thread does. -/
inductive Event where
  | edit (e : Edit)
  | snapshot
  /-- Installs a context, with a guard under a name. -/
  | enter (name : String) (c : LogContext)
  /-- Gives up the guard of a name. -/
  | leave (name : String)
  deriving DecidableEq, Repr

/-- A thread outside all scopes. -/
def start (c : LogContext) : Thread := { current := c }

/-- What a copy of the thread's context holds. -/
def snapshot (t : Thread) : LogContext := t.current

def step (t : Thread) : Event → Thread
  | .edit e => t.update (·.edit e)
  | .snapshot => t
  | .enter name c => t.openScope name c
  | .leave name => (t.dropScope? name).getD t

def run (t : Thread) (es : List Event) : Thread := es.foldl step t

/-- The names of the open guards, in the order in which they were opened. -/
def names (t : Thread) : List String := t.guards.map (·.1)

/-- Whether an event keeps to the order of scopes: a scope is opened under a name that is not in use, and
only the one that was opened last is given up. -/
def Keeps (t : Thread) : Event → Prop
  | .enter name _ => name ∉ t.names
  | .leave name => t.names.getLast? = some name
  | _ => True

instance (t : Thread) : (e : Event) → Decidable (t.Keeps e)
  | .edit _ => .isTrue trivial
  | .snapshot => .isTrue trivial
  | .enter name _ => inferInstanceAs (Decidable (name ∉ t.names))
  | .leave name => inferInstanceAs (Decidable (t.names.getLast? = some name))

/-- Whether all events of a run keep to the order of scopes. -/
def Orderly (t : Thread) : List Event → Prop
  | [] => True
  | e :: es => t.Keeps e ∧ (t.step e).Orderly es

def decideOrderly (t : Thread) : (es : List Event) → Decidable (t.Orderly es)
  | [] => .isTrue trivial
  | e :: es =>
    have := decideOrderly (t.step e) es
    inferInstanceAs (Decidable (t.Keeps e ∧ (t.step e).Orderly es))

instance (t : Thread) : DecidablePred t.Orderly := t.decideOrderly

/-- The changes outside all scopes, given how many are open; none when one is given up that was open
before, or when one is left open. -/
def outsideFrom : Nat → List Event → Option (List Edit)
  | 0, [] => some []
  | _ + 1, [] => none
  | 0, .edit e :: es => (outsideFrom 0 es).map (e :: ·)
  | n + 1, .edit _ :: es => outsideFrom (n + 1) es
  | n, .snapshot :: es => outsideFrom n es
  | n, .enter _ _ :: es => outsideFrom (n + 1) es
  | 0, .leave _ :: _ => none
  | n + 1, .leave _ :: es => outsideFrom n es

/-- The changes outside the scopes that are opened, all of which are given up again. -/
def outside (es : List Event) : Option (List Edit) := outsideFrom 0 es

end Thread

end KeyedDelivery.LogContext
