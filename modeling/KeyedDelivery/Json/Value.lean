import KeyedDelivery.Json.Skip

/-!
# Values of a wanted type

A `ValueReader` reads a value of one type off the front of a text. It says by which name the type is
asked for, and complains about a value of another type by naming both (`wrongType`).
-/

namespace KeyedDelivery.Json

/-- A reader of values that leaves a shorter rest. -/
structure ValueReader (α : Type) where
  read : Reader α
  shortens : ∀ {s : List Char} {a : α} {r : List Char}, read s = .ok (a, r) → r.length < s.length

/-- Names the value that stands at the front of `s`. -/
def found : List Char → Except Fault Found
  | 'n' :: r => (literal ['u', 'l', 'l'] r).map fun _ => .null
  | 't' :: r => (literal ['r', 'u', 'e'] r).map fun _ => .boolean true
  | 'f' :: r => (literal ['a', 'l', 's', 'e'] r).map fun _ => .boolean false
  | '"' :: r => (readText r).map fun p => .text (String.ofList p.1)
  | '[' :: _ => .ok .sequence
  | '\x7b' :: _ => .ok .map
  | '-' :: r => (readNumber true r).map fun p => ofNumeral p.1
  | c :: r =>
    if Text.isDigit c then (readNumber false (c :: r)).map fun p => ofNumeral p.1
    else .error .malformed
  | [] => .error .truncated
where
  ofNumeral : Numeral → Found
    | .integer i => .integer i
    | .real bits => .real bits

/-- The complaint about the value at the front of `s` where a value of type `expected` was
wanted. A value that is itself no JSON is the complaint. -/
def wrongType (expected : String) (s : List Char) : Fault :=
  match found s with
  | .error e => e
  | .ok f => .mismatch (.wrongType f expected)

/-! ### Strings -/

def readString (s : List Char) : Except Fault (String × List Char) :=
  match skipBlanks s with
  | [] => .error .truncated
  | '"' :: r =>
    match readText r with
    | .error e => .error e
    | .ok (cs, t) => .ok (String.ofList cs, t)
  | t => .error (wrongType "a string" t)

theorem length_readString_lt {s r : List Char} {a : String} (h : readString s = .ok (a, r)) :
    r.length < s.length := by
  have hb := length_skipBlanks_le s
  unfold readString at h
  split at h
  · simp at h
  · split at h
    · simp at h
    · rename_i hr
      have := length_readText_lt hr
      simp at h
      simp_all; omega
  · simp at h

def string : ValueReader String := ⟨readString, length_readString_lt⟩

/-! ### Integers -/

/-- Takes a number for an integer from `low` to `high`. -/
def integerWithin (expected : String) (low high : Int) : Numeral → Except Fault Int
  | .real bits => .error (.mismatch (.wrongType (.real bits) expected))
  | .integer i =>
    if low ≤ i ∧ i ≤ high then .ok i else .error (.mismatch (.outOfRange i expected))

def readInteger (expected : String) (low high : Int) (s : List Char) :
    Except Fault (Int × List Char) :=
  match skipBlanks s with
  | [] => .error .truncated
  | '-' :: r => taken (readNumber true r)
  | c :: r =>
    if Text.isDigit c then taken (readNumber false (c :: r))
    else .error (wrongType expected (c :: r))
where
  taken : Except Fault (Numeral × List Char) → Except Fault (Int × List Char)
    | .error e => .error e
    | .ok (n, t) =>
      match integerWithin expected low high n with
      | .error e => .error e
      | .ok i => .ok (i, t)

theorem length_taken_lt {expected : String} {low high : Int} {neg : Bool} {s r : List Char}
    {i : Int} (h : readInteger.taken expected low high (readNumber neg s) = .ok (i, r)) :
    r.length < s.length := by
  unfold readInteger.taken at h
  split at h
  · simp at h
  · rename_i hn
    have := length_readNumber_lt hn
    split at h <;> simp at h
    rw [← h.2]; exact this

theorem length_readInteger_lt {expected : String} {low high : Int} {s r : List Char} {i : Int}
    (h : readInteger expected low high s = .ok (i, r)) : r.length < s.length := by
  have hb := length_skipBlanks_le s
  unfold readInteger at h
  split at h
  · simp at h
  · have := length_taken_lt h; simp_all; omega
  · split at h
    · have := length_taken_lt h; simp_all; omega
    · simp at h

/-- Integers from `low` to `high`, asked for by the name `expected`. -/
def integer (expected : String) (low high : Int) : ValueReader Int :=
  ⟨readInteger expected low high, length_readInteger_lt⟩

/-! ### Values made of others -/

/-- Gives the values of `reader` a meaning; one without a meaning is a mismatch with the reason. -/
def ValueReader.refine {α β : Type} (reader : ValueReader α) (f : α → Except String β) :
    ValueReader β where
  read s :=
    match reader.read s with
    | .error e => .error e
    | .ok (a, r) =>
      match f a with
      | .error reason => .error (.mismatch (.meaningless reason))
      | .ok b => .ok (b, r)
  shortens := by
    intro s b r h
    split at h
    · simp at h
    · rename_i hr
      split at h <;> simp at h
      rw [← h.2]; exact reader.shortens hr

/-- The values of `reader` under a function. -/
def ValueReader.map {α β : Type} (f : α → β) (reader : ValueReader α) : ValueReader β :=
  reader.refine fun a => .ok (f a)

def int32 : ValueReader Int32 := (integer "i32" (-2147483648) 2147483647).map Int32.ofInt

def word32 : ValueReader UInt32 := (integer "u32" 0 4294967295).map fun i => UInt32.ofNat i.toNat

def byte : ValueReader UInt8 := (integer "u8" 0 255).map fun i => UInt8.ofNat i.toNat

/-- Passes what stands before the next item of a list, or its end: `none` when the list ends. -/
def nextItem (first : Bool) (s : List Char) : Except Fault (Option (List Char)) :=
  match skipBlanks s with
  | [] => .error .truncated
  | ']' :: _ => .ok none
  | ',' :: r =>
    if first then .ok (some (',' :: r))
    else match skipBlanks r with
      | [] => .error .truncated
      | ']' :: _ => .error .malformed
      | t => .ok (some t)
  | t => if first then .ok (some t) else .error .malformed

def endList (s : List Char) : Except Fault (List Char) :=
  match skipBlanks s with
  | [] => .error .truncated
  | ']' :: r => .ok r
  | _ => .error .malformed

theorem length_nextItem_le {first : Bool} {s t : List Char} (h : nextItem first s = .ok (some t)) :
    t.length ≤ s.length := by
  have hb := length_skipBlanks_le s
  unfold nextItem at h
  split at h
  · simp at h
  · simp at h
  · rename_i r hs
    have hr := length_skipBlanks_le r
    split at h
    · simp at h; simp_all
    · split at h
      · simp at h
      · simp at h
      · simp at h; simp_all; omega
  · split at h
    · simp at h; simp_all
    · simp at h

theorem length_endList_lt {s r : List Char} (h : endList s = .ok r) : r.length < s.length := by
  have hb := length_skipBlanks_le s
  unfold endList at h
  split at h
  · simp at h
  · rename_i hs
    cases h
    rw [hs] at hb
    exact hb
  · simp at h

/-- Reads the items of a list after its opening bracket, up to and over its end. -/
def readItems {α : Type} (reader : ValueReader α) (first : Bool) (s : List Char) :
    Except Fault (List α × List Char) :=
  match hn : nextItem first s with
  | .error e => .error e
  | .ok none =>
    match endList s with
    | .error e => .error e
    | .ok r => .ok ([], r)
  | .ok (some t) =>
    match hr : reader.read t with
    | .error e => .error e
    | .ok (a, u) =>
      have := length_nextItem_le hn
      have := reader.shortens hr
      match readItems reader false u with
      | .error e => .error e
      | .ok (as, w) => .ok (a :: as, w)
termination_by s.length
decreasing_by omega

theorem length_readItems_lt {α : Type} {reader : ValueReader α} {first : Bool} {s r : List Char}
    {as : List α} (h : readItems reader first s = .ok (as, r)) : r.length < s.length := by
  fun_induction readItems reader first s generalizing as r with
  | case1 => simp at h
  | case2 => simp at h
  | case3 _ _ _ _ he => simp at h; rw [← h.2]; exact length_endList_lt he
  | case4 => simp at h
  | case5 => simp at h
  | case6 first s t hn a u hr h1 h2 as' w hw ih =>
    simp at h
    have := ih hw
    have := length_nextItem_le hn
    rw [← h.2]; omega

def readList {α : Type} (reader : ValueReader α) (s : List Char) :
    Except Fault (List α × List Char) :=
  match skipBlanks s with
  | [] => .error .truncated
  | '[' :: r => readItems reader true r
  | t => .error (wrongType "a sequence" t)

theorem length_readList_lt {α : Type} {reader : ValueReader α} {s r : List Char} {as : List α}
    (h : readList reader s = .ok (as, r)) : r.length < s.length := by
  have hb := length_skipBlanks_le s
  unfold readList at h
  split at h
  · simp at h
  · have := length_readItems_lt h; simp_all; omega
  · simp at h

def list {α : Type} (reader : ValueReader α) : ValueReader (List α) :=
  ⟨readList reader, length_readList_lt⟩

end KeyedDelivery.Json
