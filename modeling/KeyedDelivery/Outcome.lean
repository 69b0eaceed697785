/-!
# Outcomes

A piece of code that is run returns or panics. A panic carries a payload, which is a text as a rule.
-/

namespace KeyedDelivery

/-- What a panic carries. -/
inductive PanicPayload where
  | text (message : String)
  | other
  deriving DecidableEq, Repr, Inhabited

def PanicPayload.message : PanicPayload → String
  | .text m => m
  | .other => "non-string panic payload"

/-- How a piece of code ended. -/
inductive Outcome (α : Type) where
  | returned (a : α)
  | panicked (payload : PanicPayload)
  deriving DecidableEq, Repr, Inhabited

namespace Outcome

variable {α β : Type}

/-- The result under a function. -/
def map (f : α → β) : Outcome α → Outcome β
  | .returned a => .returned (f a)
  | .panicked p => .panicked p

def isReturned : Outcome α → Bool
  | .returned _ => true
  | .panicked _ => false

end Outcome

end KeyedDelivery
