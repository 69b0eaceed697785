import KeyedDelivery.Text.Numeral
import KeyedDelivery.Validation

/-!
# Message identifiers

A transport gives every message it accepts an identifier of 128 bits. Fresh identifiers are ordered
by the time and the serial number of acceptance (`timeOrdered`). An identifier is shown as 32
hexadecimal digits in five groups (`display`) and read in four forms (`parse`): the groups, the
digits alone, the groups in braces, and the groups after `urn:uuid:`.
-/

namespace KeyedDelivery

/-- The identifier of an accepted message. -/
structure MessageId where
  bits : BitVec 128
  deriving DecidableEq, Repr, Inhabited

namespace MessageId

/-- The identifier number `serial` of the millisecond `millis`: 48 bits of time, the version 7, and
the serial number in the two fields around the variant bits. -/
def timeOrdered (millis serial : Nat) : MessageId :=
  ⟨BitVec.ofNat 48 millis ++ BitVec.ofNat 4 7 ++ BitVec.ofNat 12 (serial >>> 62) ++
    BitVec.ofNat 2 2 ++ BitVec.ofNat 62 serial⟩

def version (id : MessageId) : Nat := (id.bits.extractLsb' 76 4).toNat

/-- The 32 hexadecimal digits of an identifier, the highest first. -/
def hexDigits (id : MessageId) : List Char :=
  (List.range 32).map fun i => Text.hexDigitChar (id.bits.extractLsb' (4 * (31 - i)) 4).toNat

/-- The lengths of the groups of digits. -/
def groupLengths : List Nat := [8, 4, 4, 4, 12]

/-- Writes `ds` in groups with hyphens between them. -/
def grouped : List Nat → List Char → List Char
  | [], ds => ds
  | [n], ds => ds.take n
  | n :: m :: ns, ds => ds.take n ++ '-' :: grouped (m :: ns) (ds.drop n)

def display (id : MessageId) : String := String.ofList (grouped groupLengths id.hexDigits)

/-! ### Reading an identifier -/

/-- The number of a run of hexadecimal digits of either case. -/
def hexNumber? (ds : List Char) : Option Nat :=
  ds.foldlM (fun n c => (Text.hexValue? c).map (16 * n + ·)) 0

/-- Reads exactly 32 digits. -/
def ofDigits? (ds : List Char) : Option MessageId :=
  if ds.length = 32 then (hexNumber? ds).map fun n => ⟨BitVec.ofNat 128 n⟩ else none

/-- Takes the hyphens out of digits in groups of the given lengths. -/
def ungroup? : List Nat → List Char → Option (List Char)
  | [], ds => if ds.isEmpty then some [] else none
  | [n], ds => if ds.length = n then some ds else none
  | n :: m :: ns, ds =>
    match ds.drop n with
    | '-' :: r => (ungroup? (m :: ns) r).map (ds.take n ++ ·)
    | _ => none

/-- Reads digits in groups. -/
def ofGroups? (cs : List Char) : Option MessageId :=
  (ungroup? groupLengths cs).bind ofDigits?

/-- The part of a text between braces. -/
def inBraces? : List Char → Option (List Char)
  | '\x7b' :: r => if r.getLast? = some '\x7d' then some r.dropLast else none
  | _ => none

/-- The part of a text after `urn:uuid:`, of which each letter may be in either case. -/
def afterScheme? (cs : List Char) : Option (List Char) :=
  if (cs.take 9).map Char.toLower = "urn:uuid:".toList then some (cs.drop 9) else none

/-- Reads an identifier in one of its forms. -/
def ofText? (cs : List Char) : Option MessageId :=
  ofDigits? cs <|> ofGroups? cs <|> (inBraces? cs).bind ofGroups? <|>
    (afterScheme? cs).bind ofGroups?

def parse (text : String) : Except ValidationError MessageId :=
  match ofText? text.toList with
  | some id => .ok id
  | none => .error (.invalidId ("MessageId: no identifier: " ++ text))

end MessageId

end KeyedDelivery
