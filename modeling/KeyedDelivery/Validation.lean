/-!
# Input that is refused

The problems of an input that can be told without asking anyone: an empty field, a quantity that has
to be positive, a value outside its range, an identifier that is none.
-/

namespace KeyedDelivery

/-- Why an input is refused. -/
inductive ValidationError where
  | empty (field : String)
  | notPositive (field : String)
  | outOfRange (field detail : String)
  | invalidId (detail : String)
  deriving DecidableEq, Repr

def ValidationError.kind : ValidationError → String
  | .empty _ => "Empty"
  | .notPositive _ => "NotPositive"
  | .outOfRange .. => "OutOfRange"
  | .invalidId _ => "InvalidId"

def ValidationError.message : ValidationError → String
  | .empty field => field ++ " must not be empty"
  | .notPositive field => field ++ " must be greater than zero"
  | .outOfRange field detail => field ++ " out of range: " ++ detail
  | .invalidId detail => "invalid identifier: " ++ detail

def requireNonEmpty (field value : String) : Except ValidationError Unit :=
  if value.isEmpty then .error (.empty field) else .ok ()

end KeyedDelivery
