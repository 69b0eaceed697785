import KeyedDelivery.Json.Value

/-!
# The texts that are JSON

The grammar of values, whatever the order of the members of an object and the white space between them.
It says which texts are well-formed, and of a string also which characters it spells.

* **`Spells`** — the inside of a string, with the characters that it stands for.
* **`WellFormed`** — values, and the items and members of those that enclose others.
* **`ObjectText`** — an object with the names of its members and the texts of their values.
-/

namespace KeyedDelivery.Json

open Text (isDigit hexValue?)

/-- Insignificant white space. -/
def Spaces (s : List Char) : Prop := ∀ c ∈ s, isSpace c = true

instance (s : List Char) : Decidable (Spaces s) := List.decidableBAll (fun c => isSpace c = true) s

/-- A text with white space around it. -/
def Padded (v s : List Char) : Prop := ∃ b b', Spaces b ∧ Spaces b' ∧ s = b ++ (v ++ b')

/-- A value may stand without white space. -/
theorem padded_self (v : List Char) : Padded v v :=
  ⟨[], [], by nofun, by nofun, (List.append_nil v).symm⟩

/-! ## Numbers -/

/-- One or more digits. -/
def Digits (s : List Char) : Prop := s ≠ [] ∧ ∀ c ∈ s, isDigit c = true

/-- The whole part of a number, without needless zeros. -/
def WholePart (s : List Char) : Prop := Digits s ∧ (s.head? = some '0' → s = ['0'])

inductive FractionPart : List Char → Prop where
  | none : FractionPart []
  | some {ds : List Char} (digits : Digits ds) : FractionPart ('.' :: ds)

inductive ExponentPart : List Char → Prop where
  | none : ExponentPart []
  | some {mark : Char} {sign ds : List Char} (mark_eq : mark = 'e' ∨ mark = 'E')
      (sign_eq : sign = [] ∨ sign = ['+'] ∨ sign = ['-']) (digits : Digits ds) :
      ExponentPart (mark :: (sign ++ ds))

/-- A number after its sign. -/
def Unsigned (s : List Char) : Prop :=
  ∃ whole fraction exponent, WholePart whole ∧ FractionPart fraction ∧ ExponentPart exponent ∧
    s = whole ++ (fraction ++ exponent)

/-! ## Strings -/

/-- A character that stands for itself in a string. -/
def Plain (c : Char) : Prop := c ≠ '"' ∧ c ≠ '\\' ∧ ¬c.toNat < 0x20

instance (c : Char) : Decidable (Plain c) :=
  inferInstanceAs (Decidable (c ≠ '"' ∧ c ≠ '\\' ∧ ¬c.toNat < 0x20))

/-- Four hexadecimal digits and their value. -/
def Quad (q : List Char) (n : Nat) : Prop :=
  ∃ a b c d i j k l, q = [a, b, c, d] ∧ hexValue? a = some i ∧ hexValue? b = some j ∧
    hexValue? c = some k ∧ hexValue? d = some l ∧ n = ((i * 16 + j) * 16 + k) * 16 + l

/-- The inside of a string. -/
inductive Inside : List Char → Prop where
  | nil : Inside []
  | plain {c : Char} {s : List Char} (plain : Plain c) (rest : Inside s) : Inside (c :: s)
  | escape {c d : Char} {s : List Char} (short : shortEscape? c = some d) (rest : Inside s) :
      Inside ('\\' :: c :: s)
  | unit {q s : List Char} {n : Nat} (quad : Quad q n) (rest : Inside s) :
      Inside ('\\' :: 'u' :: (q ++ s))

/-- The inside of a string, and the characters that it stands for. Surrogates stand in pairs. -/
inductive Spells : List Char → List Char → Prop where
  | nil : Spells [] []
  | plain {c : Char} {s cs : List Char} (plain : Plain c) (rest : Spells s cs) :
      Spells (c :: s) (c :: cs)
  | escape {c d : Char} {s cs : List Char} (short : shortEscape? c = some d) (rest : Spells s cs) :
      Spells ('\\' :: c :: s) (d :: cs)
  | unit {q s cs : List Char} {n : Nat} (quad : Quad q n) (character : n < 0xd800 ∨ 0xdfff < n)
      (rest : Spells s cs) : Spells ('\\' :: 'u' :: (q ++ s)) (Char.ofNat n :: cs)
  | pair {q q' s cs : List Char} {n m : Nat} (quad : Quad q n) (quad' : Quad q' m)
      (leading : 0xd800 ≤ n ∧ n ≤ 0xdbff) (trailing : 0xdc00 ≤ m ∧ m ≤ 0xdfff)
      (rest : Spells s cs) :
      Spells ('\\' :: 'u' :: (q ++ '\\' :: 'u' :: (q' ++ s))) (Text.pairSurrogates n m :: cs)

/-- What spells characters is the inside of a string. -/
theorem Spells.inside {s cs : List Char} (h : Spells s cs) : Inside s := by
  induction h with
  | nil => exact .nil
  | plain plain _ ih => exact .plain plain ih
  | escape short _ ih => exact .escape short ih
  | unit quad _ _ ih => exact .unit quad ih
  | pair quad quad' _ _ _ ih => exact .unit quad (.unit quad' ih)

/-- Characters that need no escape spell themselves. -/
theorem spells_self {s : List Char} (h : ∀ c ∈ s, Plain c) : Spells s s := by
  induction s with
  | nil => exact .nil
  | cons c s ih =>
    obtain ⟨hc, hs⟩ := List.forall_mem_cons.mp h
    exact .plain hc (ih hs)

/-- Between quotes. -/
def quote (s : List Char) : List Char := '"' :: (s ++ ['"'])

/-! ## Values -/

/-- A name with its colon, before the text `s` of its value. -/
def Named (name s t : List Char) : Prop :=
  ∃ b b', Spaces b ∧ Spaces b' ∧ t = b ++ (quote name ++ (b' ++ ':' :: s))

/-- So may a name and its colon. -/
theorem named_self (name s : List Char) : Named name s (quote name ++ ':' :: s) :=
  ⟨[], [], by nofun, by nofun, rfl⟩

/-- A value, the items of a list, or the members of an object. -/
inductive Part where
  | value
  | items
  | members
  deriving DecidableEq, Repr

/-- The texts that are well-formed, nested to any depth. -/
inductive WellFormed : Part → List Char → Prop where
  | null : WellFormed .value ['n', 'u', 'l', 'l']
  | true : WellFormed .value ['t', 'r', 'u', 'e']
  | false : WellFormed .value ['f', 'a', 'l', 's', 'e']
  | positive {s : List Char} (unsigned : Unsigned s) : WellFormed .value s
  | negative {s : List Char} (unsigned : Unsigned s) : WellFormed .value ('-' :: s)
  | string {s : List Char} (inside : Inside s) : WellFormed .value (quote s)
  | emptyList {b : List Char} (spaces : Spaces b) : WellFormed .value ('[' :: (b ++ [']']))
  | list {s : List Char} (items : WellFormed .items s) : WellFormed .value ('[' :: (s ++ [']']))
  | emptyObject {b : List Char} (spaces : Spaces b) :
      WellFormed .value ('\x7b' :: (b ++ ['\x7d']))
  | object {s : List Char} (members : WellFormed .members s) :
      WellFormed .value ('\x7b' :: (s ++ ['\x7d']))
  | item {v s : List Char} (value : WellFormed .value v) (padded : Padded v s) :
      WellFormed .items s
  | items {v s r : List Char} (value : WellFormed .value v) (padded : Padded v s)
      (rest : WellFormed .items r) : WellFormed .items (s ++ ',' :: r)
  | member {name v s t : List Char} (inside : Inside name) (value : WellFormed .value v)
      (padded : Padded v s) (named : Named name s t) : WellFormed .members t
  | members {name v s t r : List Char} (inside : Inside name) (value : WellFormed .value v)
      (padded : Padded v s) (named : Named name s t) (rest : WellFormed .members r) :
      WellFormed .members (t ++ ',' :: r)

/-! ## Objects -/

/-- Members with their names and the texts of their values, in order. A name is one of characters, so its
surrogates stand in pairs; those of a value need not. -/
inductive Members : List (String × List Char) → List Char → Prop where
  | last {name : String} {body v s t : List Char} (spells : Spells body name.toList)
      (value : WellFormed .value v) (padded : Padded v s) (named : Named body s t) :
      Members [(name, v)] t
  | more {name : String} {body v s t r : List Char} {ms : List (String × List Char)}
      (spells : Spells body name.toList) (value : WellFormed .value v) (padded : Padded v s)
      (named : Named body s t) (rest : Members ms r) : Members ((name, v) :: ms) (t ++ ',' :: r)

/-- The text of an object with these members. -/
def ObjectText (ms : List (String × List Char)) (text : List Char) : Prop :=
  ∃ s, (ms = [] ∧ Spaces s ∨ Members ms s) ∧ Padded ('\x7b' :: (s ++ ['\x7d'])) text

end KeyedDelivery.Json
