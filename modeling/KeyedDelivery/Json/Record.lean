import KeyedDelivery.Json.Value

/-!
# Records

A record is written as an object with a value for each of its fields, in any order, or as the list
of those values in the order in which the fields are declared. In an object, members of other names
are passed over; the first problem in the order of the text decides, and only then a missing field,
the one declared first.

* `Field` is one field: its name and how its value enters a draft of the record.
* `Format` is the list of the fields, and how a complete draft becomes the record.
* `Format.decode` reads a whole text.
-/

namespace KeyedDelivery.Json

/-- A field of a record of which `δ` is the draft: whether the draft has a value for it, and the
reading of that value into the draft. -/
structure Field (δ : Type) where
  name : String
  isSet : δ → Bool
  enter : ValueReader (δ → δ)

/-- A field whose draft is an optional value. -/
def Field.of {δ α : Type} (name : String) (reader : ValueReader α) (get : δ → Option α)
    (set : α → δ → δ) : Field δ :=
  ⟨name, fun d => (get d).isSome, reader.map set⟩

/-- The value of a field of a finished draft. -/
def required {α : Type} (name : String) : Option α → Except Mismatch α
  | some a => .ok a
  | none => .error (.missingField name)

/-- The fields of the records `α` in the order of their declaration. -/
structure Format (δ α : Type) where
  title : String
  fields : List (Field δ)
  blank : δ
  /-- The record of a draft, or the first field that is missing. -/
  finish : δ → Except Mismatch α

namespace Format

variable {δ α : Type}

/-- The name by which the record is asked for. -/
def wanted (f : Format δ α) : String := "struct " ++ f.title

/-- The name by which the list of its values is asked for. -/
def wantedList (f : Format δ α) : String :=
  f.wanted ++ " with " ++ Text.natural f.fields.length ++ " elements"

/-- The field of a name. -/
def field? (f : Format δ α) (name : String) : Option (Field δ) :=
  f.fields.find? (·.name == name)

/-- Reads the value of a member into the draft, or passes it when no field has its name. -/
def enterMember (f : Format δ α) (d : δ) (name : String) (s : List Char) :
    Except Fault (δ × List Char) :=
  match f.field? name with
  | none =>
    match skipColon s with
    | .error e => .error e
    | .ok t =>
      match skipValue t with
      | .error e => .error e
      | .ok u => .ok (d, u)
  | some field =>
    if field.isSet d then .error (.mismatch (.duplicateField name))
    else match skipColon s with
      | .error e => .error e
      | .ok t =>
        match field.enter.read t with
        | .error e => .error e
        | .ok (set, u) => .ok (set d, u)

/-- Passes what stands before the name of the next member: the rest after the opening quote of the
name, or `none` at the end of the object. -/
def nextMember (first : Bool) (s : List Char) : Except Fault (Option (List Char)) :=
  match skipBlanks s with
  | [] => .error .truncated
  | '\x7d' :: _ => .ok none
  | '"' :: r => if first then .ok (some r) else .error .malformed
  | ',' :: r =>
    if first then .error .malformed
    else match skipBlanks r with
      | [] => .error .truncated
      | '"' :: t => .ok (some t)
      | _ => .error .malformed
  | _ => .error .malformed

def endObject (s : List Char) : Except Fault (List Char) :=
  match skipBlanks s with
  | [] => .error .truncated
  | '\x7d' :: r => .ok r
  | _ => .error .malformed

theorem length_nextMember_lt {first : Bool} {s t : List Char}
    (h : nextMember first s = .ok (some t)) : t.length < s.length := by
  have hb := length_skipBlanks_le s
  unfold nextMember at h
  split at h
  · simp at h
  · simp at h
  · rename_i hs
    split at h
    · cases h
      rw [hs] at hb
      exact hb
    · simp at h
  · rename_i r hs
    have hr := length_skipBlanks_le r
    split at h
    · simp at h
    · split at h
      · simp at h
      · simp at h; simp_all; omega
      · simp at h
  · simp at h

theorem length_enterMember_le {f : Format δ α} {d d' : δ} {name : String} {s r : List Char}
    (h : f.enterMember d name s = .ok (d', r)) : r.length ≤ s.length := by
  unfold enterMember at h
  split at h
  · split at h
    · simp at h
    · rename_i hc
      have := length_skipColon_lt hc
      split at h
      · simp at h
      · rename_i hv
        have := length_skipValue_le hv
        simp at h; rw [← h.2]; omega
  · split at h
    · simp at h
    · split at h
      · simp at h
      · rename_i hc
        have := length_skipColon_lt hc
        split at h
        · simp at h
        · rename_i hv
          have := ValueReader.shortens _ hv
          simp at h; rw [← h.2]; omega

/-- Reads the members of an object after its opening brace, and finishes the draft. -/
def readMembers (f : Format δ α) (first : Bool) (d : δ) (s : List Char) :
    Except Fault (α × List Char) :=
  match hn : nextMember first s with
  | .error e => .error e
  | .ok none =>
    match f.finish d with
    | .error m => .error (.mismatch m)
    | .ok a =>
      match endObject s with
      | .error e => .error e
      | .ok r => .ok (a, r)
  | .ok (some t) =>
    match hk : readText t with
    | .error e => .error e
    | .ok (name, u) =>
      match he : f.enterMember d (String.ofList name) u with
      | .error e => .error e
      | .ok (d', w) =>
        have := length_nextMember_lt hn
        have := length_readText_lt hk
        have := length_enterMember_le he
        f.readMembers false d' w
termination_by s.length
decreasing_by omega

/-- Reads the values of the fields from a list after its opening bracket, of which `n` were read
before. -/
def readSlots (f : Format δ α) : Nat → List (Field δ) → δ → List Char → Except Fault (α × List Char)
  | _, [], d, s =>
    match f.finish d with
    | .error m => .error (.mismatch m)
    | .ok a =>
      match endList s with
      | .error e => .error e
      | .ok r => .ok (a, r)
  | n, field :: fields, d, s =>
    match nextItem (n == 0) s with
    | .error e => .error e
    | .ok none => .error (.mismatch (.wrongLength n f.wantedList))
    | .ok (some t) =>
      match field.enter.read t with
      | .error e => .error e
      | .ok (set, u) => f.readSlots (n + 1) fields (set d) u

def read (f : Format δ α) (s : List Char) : Except Fault (α × List Char) :=
  match skipBlanks s with
  | [] => .error .truncated
  | '\x7b' :: r => f.readMembers true f.blank r
  | '[' :: r => f.readSlots 0 f.fields f.blank r
  | t => .error (wrongType f.wanted t)

def decode (f : Format δ α) (text : String) : Except Fault α :=
  match f.read text.toList with
  | .error e => .error e
  | .ok (a, r) => if (skipBlanks r).isEmpty then .ok a else .error .malformed

end Format

end KeyedDelivery.Json
