import KeyedDelivery.Text.Blank
import KeyedDelivery.Text.Quoted

/-!
# Settings and where they come from

A setting that is refused is named with the reason. Settings are overlaid by the variables of an
environment: a text variable is taken as it stands, any other is trimmed and then has to parse.
-/

namespace KeyedDelivery

/-- Why settings are refused. -/
inductive ConfigError where
  | invalid (field detail : String)
  | environment (var value expected : String)
  deriving DecidableEq, Repr

def ConfigError.message : ConfigError → String
  | .invalid field detail => "invalid " ++ field ++ ": " ++ detail
  | .environment var value expected =>
    "environment variable " ++ var ++ "=" ++ Text.quoted value ++ " is not a valid " ++ expected

/-- Refuses a setting unless a condition holds. -/
def ConfigError.unless (ok : Bool) (field detail : String) : Except ConfigError Unit :=
  if ok then .ok () else .error (.invalid field detail)

/-- Whether a text holds something besides blanks. -/
def isFilled (s : String) : Bool := ! (Text.trim s.toList).isEmpty

/-- The variables that are set, by name. -/
abbrev Environment := String → Option String

namespace Environment

/-- The environment of a list of variables; of two of one name the first counts. -/
def ofList (vars : List (String × String)) : Environment := fun name => vars.lookup name

/-- A text variable, or `base` when it is not set. -/
def text (env : Environment) (var base : String) : String := (env var).getD base

/-- A variable that has to parse, or `base` when it is not set. -/
def parsed {α : Type} (env : Environment) (var expected : String)
    (parse : List Char → Option α) (base : α) : Except ConfigError α :=
  match env var with
  | none => .ok base
  | some value =>
    match parse (Text.trim value.toList) with
    | some a => .ok a
    | none => .error (.environment var value expected)

end Environment

/-- Reads a number below `limit`: digits, with an optional plus sign before them. -/
def unsigned? (limit : Nat) (cs : List Char) : Option Nat :=
  let ds := match cs with
    | '+' :: r => r
    | r => r
  (Text.natural? ds).filter (· < limit)

def count64? : List Char → Option Nat := unsigned? UInt64.size

def count32? (cs : List Char) : Option UInt32 := (unsigned? UInt32.size cs).map UInt32.ofNat

end KeyedDelivery
