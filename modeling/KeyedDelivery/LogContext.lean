/-!
# Log contexts

Each thread carries a context: entries such as the identifier of a request, which follow a task from
the thread that submits it onto the thread that runs it. Entries are kept in the order of their
keys. A `Guard` holds what a thread had before a context was installed on it, and puts it back.
-/

namespace KeyedDelivery

/-- Entries in the order of their keys. -/
structure LogContext where
  entries : List (String × String) := []
  deriving DecidableEq, Repr, Inhabited

namespace LogContext

def empty : LogContext := {}

def isEmpty (c : LogContext) : Bool := c.entries.isEmpty

/-- Sets an entry in a list in the order of keys. -/
def insertEntry (key value : String) : List (String × String) → List (String × String)
  | [] => [(key, value)]
  | (k, v) :: r =>
    if key = k then (key, value) :: r
    else if key < k then (key, value) :: (k, v) :: r
    else (k, v) :: insertEntry key value r

def insert (c : LogContext) (key value : String) : LogContext :=
  ⟨insertEntry key value c.entries⟩

def get? (c : LogContext) (key : String) : Option String := c.entries.lookup key

def remove (c : LogContext) (key : String) : LogContext := ⟨c.entries.filter (·.1 ≠ key)⟩

/-- The context of the given entries; of two with one key the last counts. -/
def ofList (pairs : List (String × String)) : LogContext :=
  pairs.foldl (fun c p => c.insert p.1 p.2) empty

/-- How a context is shown: `key=value`, with spaces between entries. -/
def display (c : LogContext) : String :=
  " ".intercalate (c.entries.map fun e => e.1 ++ "=" ++ e.2)

/-! ### The context of a thread -/

/-- What a thread had before a context was installed on it. -/
structure Guard where
  previous : LogContext
  deriving DecidableEq, Repr

/-- Installs a context on a thread that has the context `current`. -/
def enter (current installed : LogContext) : LogContext × Guard := (installed, ⟨current⟩)

/-- What the thread has after a guard was given up, whatever it has by then. -/
def Guard.leave (g : Guard) : LogContext := g.previous

/-- A thread: its context and the guards that are open, in the order in which they were opened. -/
structure Thread where
  current : LogContext := {}
  guards : List (String × Guard) := []
  deriving DecidableEq, Repr

namespace Thread

def update (t : Thread) (f : LogContext → LogContext) : Thread :=
  { t with current := f t.current }

/-- Installs a context until the guard of this name is given up. -/
def openScope (t : Thread) (name : String) (c : LogContext) : Thread :=
  let (current, guard) := enter t.current c
  { current, guards := t.guards ++ [(name, guard)] }

/-- Gives up the guard of a name, if one is open; of several the one that was opened first. -/
def dropScope? (t : Thread) (name : String) : Option Thread :=
  match t.guards.lookup name with
  | none => none
  | some guard =>
    some { current := guard.leave, guards := t.guards.eraseP (·.1 == name) }

/-- Gives up all open guards, the one opened last first. -/
def close (t : Thread) : Thread :=
  { current := t.guards.foldr (fun g _ => g.2.leave) t.current, guards := [] }

end Thread

end LogContext

end KeyedDelivery
