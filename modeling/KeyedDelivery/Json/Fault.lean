import KeyedDelivery.Decimal.Shortest
import KeyedDelivery.Text.Quoted

/-!
# What can go wrong when JSON is read

A text fails to be the JSON of a value in three ways: it is not JSON, it stops too early, or it is
JSON of another shape. Only the last says what it found and what it wanted.
-/

namespace KeyedDelivery.Json

/-- A value of another type than the one wanted. -/
inductive Found where
  | null
  | boolean (b : Bool)
  | integer (i : Int)
  /-- A number with a fraction or an exponent, or beyond 64 bits, by the bits of its value. -/
  | real (bits : UInt64)
  | text (s : String)
  | sequence
  | map
  deriving DecidableEq, Repr

def Found.describe : Found → String
  | .null => "null"
  | .boolean true => "boolean `true`"
  | .boolean false => "boolean `false`"
  | .integer i => "integer `" ++ Text.integer i ++ "`"
  | .real bits => "floating point `" ++ Decimal.renderBits bits ++ "`"
  | .text s => "string " ++ Text.quoted s
  | .sequence => "sequence"
  | .map => "map"

/-- JSON of the wrong shape. -/
inductive Mismatch where
  | wrongType (found : Found) (expected : String)
  | outOfRange (i : Int) (expected : String)
  | wrongLength (n : Nat) (expected : String)
  | missingField (name : String)
  | duplicateField (name : String)
  /-- A value of the right type that has no meaning. -/
  | meaningless (reason : String)
  deriving DecidableEq, Repr

def Mismatch.message : Mismatch → String
  | .wrongType found expected => "invalid type: " ++ found.describe ++ ", expected " ++ expected
  | .outOfRange i expected =>
    "invalid value: integer `" ++ Text.integer i ++ "`, expected " ++ expected
  | .wrongLength n expected => "invalid length " ++ Text.natural n ++ ", expected " ++ expected
  | .missingField name => "missing field `" ++ name ++ "`"
  | .duplicateField name => "duplicate field `" ++ name ++ "`"
  | .meaningless reason => reason

/-- Why a text is not the JSON of a value. -/
inductive Fault where
  | malformed
  | truncated
  | mismatch (m : Mismatch)
  deriving DecidableEq, Repr

/-- Reads a value off the front of a text and leaves the rest. -/
abbrev Reader (α : Type) := List Char → Except Fault (α × List Char)

end KeyedDelivery.Json
