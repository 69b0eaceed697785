import KeyedDelivery.Json.Number

/-!
# Passing a value over

A value that nobody asked for has only to be well-formed. `skipValue` passes it with an explicit
stack of the lists and objects that are still open, so that neither the depth of a value nor the
size of its numbers matters.
-/

namespace KeyedDelivery.Json

/-- A value that encloses others. -/
inductive Frame where
  | list
  | object
  deriving DecidableEq, Repr

/-- The character that closes a frame. -/
def Frame.closing : Frame → Char
  | .list => ']'
  | .object => '\x7d'

/-- Passes a value that encloses no other. -/
def skipScalar : List Char → Except Fault (List Char)
  | 'n' :: r => literal ['u', 'l', 'l'] r
  | 't' :: r => literal ['r', 'u', 'e'] r
  | 'f' :: r => literal ['a', 'l', 's', 'e'] r
  | '"' :: r => skipText r
  | '-' :: r => skipNumber r
  | c :: r => if Text.isDigit c then skipNumber (c :: r) else .error .malformed
  | [] => .error .truncated

def skipColon (s : List Char) : Except Fault (List Char) :=
  match skipBlanks s with
  | [] => .error .truncated
  | ':' :: r => .ok r
  | _ => .error .malformed

/-- Passes what stands before the next value in a frame: nothing in a list, a name and its colon in
an object. -/
def skipName (f : Frame) (s : List Char) : Except Fault (List Char) :=
  match f with
  | .list => .ok s
  | .object =>
    match skipBlanks s with
    | [] => .error .truncated
    | '"' :: r =>
      match skipText r with
      | .error e => .error e
      | .ok t => skipColon t
    | _ => .error .malformed

/-- What the scan stands before. -/
inductive Position where
  /-- A value. -/
  | value
  /-- The first value of the innermost frame, or its end. -/
  | opened
  /-- What follows a value: a comma or the end of the innermost frame. -/
  | after
  deriving DecidableEq, Repr

/-- How many positions can be passed without a character. -/
def Position.rank : Position → Nat
  | .value => 0
  | .opened => 1
  | .after => 2

theorem length_skipScalar_lt {s r : List Char} (h : skipScalar s = .ok r) :
    r.length < s.length := by
  unfold skipScalar at h
  split at h
  · have := length_literal_le h; simp; omega
  · have := length_literal_le h; simp; omega
  · have := length_literal_le h; simp; omega
  · have := length_skipText_lt h; simp; omega
  · have := length_skipNumber_lt h; simp; omega
  · split at h
    · exact length_skipNumber_lt h
    · simp at h
  · simp at h

theorem length_skipColon_lt {s r : List Char} (h : skipColon s = .ok r) :
    r.length < s.length := by
  have hb := length_skipBlanks_le s
  unfold skipColon at h
  split at h
  · simp at h
  · rename_i hs
    cases h
    rw [hs] at hb
    exact hb
  · simp at h

theorem length_skipName_le {f : Frame} {s r : List Char} (h : skipName f s = .ok r) :
    r.length ≤ s.length := by
  have hb := length_skipBlanks_le s
  unfold skipName at h
  split at h
  · simp at h; simp [h]
  · split at h
    · simp at h
    · split at h
      · simp at h
      · rename_i ht
        have := length_skipText_lt ht
        have := length_skipColon_lt h
        simp_all; omega
    · simp at h

-- The names of the equations are used by `decreasing_by` only, which the linter does not see.
set_option linter.unusedVariables false in
/-- Passes the rest of a value whose open frames are `frames`, innermost first. -/
def skipFrom (position : Position) (frames : List Frame) (s : List Char) :
    Except Fault (List Char) :=
  match position, frames with
  | .after, [] => .ok s
  | .opened, [] => .ok s
  | .value, frames =>
    match h : skipBlanks s with
    | [] => .error .truncated
    | '[' :: r => skipFrom .opened (.list :: frames) r
    | '\x7b' :: r => skipFrom .opened (.object :: frames) r
    | c :: r =>
      match hs : skipScalar (c :: r) with
      | .error e => .error e
      | .ok t => skipFrom .after frames t
  | .opened, f :: frames =>
    match h : skipBlanks s with
    | [] => .error .truncated
    | c :: r =>
      if c = f.closing then skipFrom .after frames r
      else match hs : skipName f (c :: r) with
        | .error e => .error e
        | .ok t => skipFrom .value (f :: frames) t
  | .after, f :: frames =>
    match h : skipBlanks s with
    | [] => .error .truncated
    | c :: r =>
      if c = f.closing then skipFrom .after frames r
      else if c = ',' then
        match hs : skipName f r with
        | .error e => .error e
        | .ok t => skipFrom .value (f :: frames) t
      else .error .malformed
termination_by (s.length, position.rank)
decreasing_by
  all_goals
    have hb := length_skipBlanks_le s
    simp only [h, List.length_cons] at hb
  · exact Prod.Lex.left _ _ (by omega)
  · exact Prod.Lex.left _ _ (by omega)
  · have := length_skipScalar_lt hs
    exact Prod.Lex.left _ _ (by simp at this; omega)
  · exact Prod.Lex.left _ _ (by omega)
  · have := length_skipName_le hs
    simp only [List.length_cons] at this
    rcases Nat.lt_or_eq_of_le (Nat.le_trans this hb) with hlt | heq
    · exact Prod.Lex.left _ _ hlt
    · rw [heq]; exact Prod.Lex.right _ (by simp [Position.rank])
  · exact Prod.Lex.left _ _ (by omega)
  · have := length_skipName_le hs
    exact Prod.Lex.left _ _ (by omega)

theorem length_skipFrom_le {p : Position} {frames : List Frame} {s r : List Char}
    (h : skipFrom p frames s = .ok r) : r.length ≤ s.length := by
  fun_induction skipFrom p frames s with
  | case1 s => simp at h; simp [h]
  | case2 s => simp at h; simp [h]
  | case3 => simp at h
  | case4 s frames r' hs ih =>
    have := length_skipBlanks_le s; have := ih h; simp_all; omega
  | case5 s frames r' hs ih =>
    have := length_skipBlanks_le s; have := ih h; simp_all; omega
  | case6 => simp at h
  | case7 s frames c r' _ _ hs t ht ih =>
    have := length_skipBlanks_le s; have := ih h; have := length_skipScalar_lt ht
    simp_all; omega
  | case8 => simp at h
  | case9 s f frames r' hs ih =>
    have := length_skipBlanks_le s; have := ih h; simp_all; omega
  | case10 => simp at h
  | case11 s f frames c r' hs _ t ht ih =>
    have := length_skipBlanks_le s; have := ih h; have := length_skipName_le ht
    simp_all; omega
  | case12 => simp at h
  | case13 s f frames r' hs ih =>
    have := length_skipBlanks_le s; have := ih h; simp_all; omega
  | case14 => simp at h
  | case15 s f frames r' t ht hs _ ih =>
    have := length_skipBlanks_le s; have := ih h; have := length_skipName_le ht
    simp_all; omega
  | case16 => simp at h

def skipValue (s : List Char) : Except Fault (List Char) := skipFrom .value [] s

theorem length_skipValue_le {s r : List Char} (h : skipValue s = .ok r) : r.length ≤ s.length :=
  length_skipFrom_le h

end KeyedDelivery.Json
