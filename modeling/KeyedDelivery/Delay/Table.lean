import KeyedDelivery.Delay.Level
import KeyedDelivery.Time
import KeyedDelivery.Text.Blank
import KeyedDelivery.Validation

/-!
# Delay tables

The durations of the delay levels. A table has at least one entry; a level beyond the last entry
takes the last. A table is given as a list of durations (`ofDurations`), as a text of words such as
`1s 5s 2h` (`parse`), or as the standard table with every entry divided (`scaledDown`).
-/

namespace KeyedDelivery

/-- The durations of the levels from 1 on. -/
structure DelayTable where
  entries : List Nat
  entries_ne_nil : entries ≠ []
  deriving Repr

namespace DelayTable

def fieldName : String := "delay schedule"

/-- The longest delay of an entry: seven days. -/
def longest : Nat := Time.seconds 604800

/-- Whether no entry is shorter than the one before it. -/
def isNonDecreasing : List Nat → Bool
  | [] => true
  | [_] => true
  | a :: b :: r => a ≤ b && isNonDecreasing (b :: r)

/-- A refusal of a table. -/
def refused (detail : String) : ValidationError := .outOfRange fieldName detail

/-- The table of the given entries. They must not decrease, and none may exceed `longest`. -/
def ofDurations (entries : List Nat) : Except ValidationError DelayTable :=
  if h : entries = [] then .error (.empty fieldName)
  else if !isNonDecreasing entries then .error (refused "durations must be non-decreasing")
  else if entries.any (longest < ·) then
    .error (refused ("entries may not exceed " ++ Text.natural 604800 ++ "s"))
  else .ok ⟨entries, h⟩

/-! ### Reading a table -/

/-- The end of the range of a count in a word. -/
def countLimit : Nat := UInt64.size

/-- The seconds of a unit of at least a second. -/
def unitSeconds? : List Char → Option Nat
  | ['s'] => some 1
  | ['m'] => some 60
  | ['h'] => some 3600
  | ['d'] => some 86400
  | _ => none

/-- Reads one word: digits and one of the units `ms`, `s`, `m`, `h`, `d`. -/
def parseEntry (word : List Char) : Except ValidationError Nat :=
  let text := String.ofList word
  let number := word.takeWhile Text.isDigit
  let unit := word.dropWhile Text.isDigit
  if unit.isEmpty then .error (refused ("missing unit in '" ++ text ++ "'"))
  else if number.isEmpty || countLimit ≤ Text.value number then
    .error (refused ("bad number in '" ++ text ++ "'"))
  else if unit = ['m', 's'] then .ok (Time.millis (Text.value number))
  else match unitSeconds? unit with
    | none => .error (refused ("unknown unit '" ++ String.ofList unit ++ "'"))
    | some u =>
      if countLimit ≤ Text.value number * u then
        .error (refused ("'" ++ text ++ "' is too large"))
      else .ok (Time.seconds (Text.value number * u))

/-- Reads the words of a table, up to the first that is none. -/
def parseEntries : List (List Char) → Except ValidationError (List Nat)
  | [] => .ok []
  | w :: ws =>
    match parseEntry w with
    | .error e => .error e
    | .ok d => (parseEntries ws).map (d :: ·)

def parse (text : String) : Except ValidationError DelayTable :=
  match parseEntries (Text.words text.toList) with
  | .error e => .error e
  | .ok entries => ofDurations entries

/-! ### The standard table -/

/-- The standard table: from one second to two hours in eighteen levels. -/
def standard : DelayTable where
  entries := [1, 5, 10, 30, 60, 120, 180, 240, 300, 360, 420, 480, 540, 600, 1200, 1800, 3600,
    7200].map Time.seconds
  entries_ne_nil := by simp

/-- The standard table with every entry divided by `divisor`, where 0 counts as 1. -/
def scaledDown (divisor : UInt32) : DelayTable where
  entries := standard.entries.map (· / max divisor.toNat 1)
  entries_ne_nil := by simp [standard]

/-! ### Asking for a level -/

/-- The number of entries, which is the highest level with an entry of its own. A level has 32 bits: the
number of entries is a level only in a table of fewer than `2 ^ 32` entries. In a longer one, whose
durations alone would take 64 GiB, it is none, and must not be taken for one. -/
def maxLevel (t : DelayTable) : Nat := t.entries.length

def duration (t : DelayTable) (l : DelayLevel) : Nat :=
  match l.level.toNat with
  | 0 => 0
  | n + 1 => t.entries[n]?.getD (t.entries.getLast t.entries_ne_nil)

end DelayTable

end KeyedDelivery
