import KeyedDelivery.Json.Scan

/-!
# Numbers of JSON

A number is gathered into a 64-bit significand and a power of ten. Digits that no longer fit into
the significand are dropped; those of the whole part still count in the power.

* An integer within 64 bits stays exact: up to `2^64 - 1` without a sign, down to `-2^63` with one.
* Any other number, `-0` among them, is a floating point number: the significand as the nearest
  64-bit float, multiplied or divided by the power of ten.
-/

namespace KeyedDelivery.Json

open Text (isDigit digitValue)

/-- The value of a number. -/
inductive Numeral where
  | integer (i : Int)
  | real (bits : UInt64)
  deriving DecidableEq, Repr

/-- The end of the range of a significand. -/
def significandLimit : Nat := UInt64.size

/-- Gathers the digits of the whole part onto the significand `v`: the result and how many digits
were dropped, which are all from the first that does not fit. -/
def gatherWhole : Nat → Nat → List Char → Nat × Nat
  | v, k, [] => (v, k)
  | v, 0, d :: ds =>
    let w := 10 * v + digitValue d
    if w < significandLimit then gatherWhole w 0 ds else gatherWhole v 1 ds
  | v, k + 1, _ :: ds => gatherWhole v (k + 2) ds

/-- Gathers the digits of the fraction: the significand and the power of ten after the last digit
that fits. -/
def gatherFraction : Nat → Int → List Char → Nat × Int
  | v, e, [] => (v, e)
  | v, e, d :: ds =>
    let w := 10 * v + digitValue d
    if w < significandLimit then gatherFraction w (e - 1) ds else (v, e)

/-- The largest power of ten that scales in one step. -/
def powerLimit : Nat := 308

/-- A power of ten as a float, correctly rounded. -/
def powerOfTen (n : Nat) : Float := Float.ofScientific 1 false n

/-- `f · 10^e`, or `none` beyond the largest float. -/
def scaled (f : Float) (e : Int) : Option Float :=
  if e.natAbs ≤ powerLimit then
    if 0 ≤ e then
      let g := f * powerOfTen e.natAbs
      if g.isInf then none else some g
    else some (f / powerOfTen e.natAbs)
  else if f == 0.0 then some f
  else if 0 ≤ e then none
  else scaled (f / powerOfTen powerLimit) (e + powerLimit)
termination_by e.natAbs
decreasing_by simp_all [powerLimit]; omega

/-- The floating point number `± v · 10^e`. -/
def realNumeral (negative : Bool) (v : Nat) (e : Int) : Except Fault Numeral :=
  match scaled (UInt64.ofNat v).toFloat e with
  | none => .error .malformed
  | some f => .ok (.real (if negative then (-f).toBits else f.toBits))

/-- The number `± v` that had neither fraction nor exponent. -/
def wholeNumeral (negative : Bool) (v : Nat) : Except Fault Numeral :=
  if !negative then .ok (.integer v)
  else if v = 0 ∨ UInt64.size / 2 < v then realNumeral true v 0
  else .ok (.integer (-v))

/-- The sign of an exponent and what follows it. -/
def exponentSign : List Char → Bool × List Char
  | '+' :: r => (false, r)
  | '-' :: r => (true, r)
  | r => (false, r)

/-- A number read, with the rest that is left. -/
def withRest (n : Except Fault Numeral) (t : List Char) : Except Fault (Numeral × List Char) :=
  match n with
  | .error e => .error e
  | .ok n => .ok (n, t)

/-- Reads the exponent after its `e`. -/
def readExponent (negative : Bool) (v : Nat) (e : Int) (s : List Char) :
    Except Fault (Numeral × List Char) :=
  let (down, t) := exponentSign s
  match t with
  | [] => .error .truncated
  | c :: _ =>
    if !isDigit c then .error .malformed
    else
      let k := Text.value (t.takeWhile isDigit)
      withRest (realNumeral negative v (if down then e - k else e + k)) (t.dropWhile isDigit)

/-- Reads the fraction after its point, and the exponent if there is one. -/
def readFraction (negative : Bool) (v dropped : Nat) (s : List Char) :
    Except Fault (Numeral × List Char) :=
  let t := s.dropWhile isDigit
  if (s.takeWhile isDigit).isEmpty then
    .error (if t.isEmpty then .truncated else .malformed)
  else
    let (w, e) := gatherFraction v dropped (s.takeWhile isDigit)
    match t with
    | 'e' :: u => readExponent negative w e u
    | 'E' :: u => readExponent negative w e u
    | _ => withRest (realNumeral negative w e) t

/-- Reads a number after its sign. -/
def readNumber (negative : Bool) (s : List Char) : Except Fault (Numeral × List Char) :=
  match s with
  | [] => .error .truncated
  | c :: _ =>
    let ds := s.takeWhile isDigit
    let t := s.dropWhile isDigit
    if ds.isEmpty then .error .malformed
    else if c = '0' ∧ 1 < ds.length then .error .malformed
    else
      let (v, dropped) := gatherWhole 0 0 ds
      match t with
      | '.' :: u => readFraction negative v dropped u
      | 'e' :: u => readExponent negative v dropped u
      | 'E' :: u => readExponent negative v dropped u
      | _ =>
        if dropped = 0 then withRest (wholeNumeral negative v) t
        else withRest (realNumeral negative v dropped) t

def skipDigits (s : List Char) : Except Fault (List Char) :=
  if (s.takeWhile isDigit).isEmpty then .error .malformed else .ok (s.dropWhile isDigit)

def skipExponent : List Char → Except Fault (List Char)
  | 'e' :: r => skipDigits (exponentSign r).2
  | 'E' :: r => skipDigits (exponentSign r).2
  | s => .ok s

/-- Passes a number after its sign, whatever its size. -/
def skipNumber (s : List Char) : Except Fault (List Char) :=
  match skipDigits s with
  | .error e => .error e
  | .ok t =>
    if s.head? = some '0' ∧ t.length + 1 < s.length then .error .malformed
    else match t with
      | '.' :: u =>
        match skipDigits u with
        | .error e => .error e
        | .ok w => skipExponent w
      | _ => skipExponent t

/-! ### What is left is shorter -/

theorem length_dropDigits_le (s : List Char) : (s.dropWhile isDigit).length ≤ s.length :=
  (List.dropWhile_suffix isDigit).length_le

theorem length_dropDigits_lt {s : List Char} (h : (s.takeWhile isDigit).isEmpty = false) :
    (s.dropWhile isDigit).length < s.length := by
  have e : (s.takeWhile isDigit ++ s.dropWhile isDigit).length = s.length := by
    rw [List.takeWhile_append_dropWhile]
  have : 0 < (s.takeWhile isDigit).length := by
    cases hs : s.takeWhile isDigit <;> simp_all
  rw [List.length_append] at e
  omega

theorem length_skipDigits_lt {s r : List Char} (h : skipDigits s = .ok r) :
    r.length < s.length := by
  unfold skipDigits at h
  split at h <;> simp at h
  subst h
  exact length_dropDigits_lt (by simp_all)

theorem length_exponentSign_le (s : List Char) : (exponentSign s).2.length ≤ s.length := by
  unfold exponentSign; split <;> simp

theorem length_skipExponent_le {s r : List Char} (h : skipExponent s = .ok r) :
    r.length ≤ s.length := by
  unfold skipExponent at h
  split at h
  · rename_i t
    have := length_skipDigits_lt h; have := length_exponentSign_le t; simp; omega
  · rename_i t
    have := length_skipDigits_lt h; have := length_exponentSign_le t; simp; omega
  · simp at h; simp [h]

theorem length_skipNumber_lt {s r : List Char} (h : skipNumber s = .ok r) :
    r.length < s.length := by
  unfold skipNumber at h
  split at h
  · simp at h
  · rename_i t ht
    have := length_skipDigits_lt ht
    split at h
    · simp at h
    · split at h
      · split at h
        · simp at h
        · rename_i hw
          have := length_skipDigits_lt hw; have := length_skipExponent_le h; simp at *; omega
      · have := length_skipExponent_le h; omega

theorem eq_of_withRest {n : Except Fault Numeral} {t r : List Char} {m : Numeral}
    (h : withRest n t = .ok (m, r)) : r = t := by
  unfold withRest at h
  split at h <;> simp at h
  exact h.2.symm

theorem length_readExponent_le {neg : Bool} {v : Nat} {e : Int} {s r : List Char} {n : Numeral}
    (h : readExponent neg v e s = .ok (n, r)) : r.length ≤ s.length := by
  unfold readExponent at h
  have hs := length_exponentSign_le s
  split at h
  rename_i down t ht
  rw [ht] at hs
  split at h
  · simp at h
  · split at h
    · simp at h
    · rw [eq_of_withRest h]
      exact Nat.le_trans (length_dropDigits_le _) hs

theorem length_readFraction_le {neg : Bool} {v k : Nat} {s r : List Char} {n : Numeral}
    (h : readFraction neg v k s = .ok (n, r)) : r.length ≤ s.length := by
  have hs := length_dropDigits_le s
  unfold readFraction at h
  simp only at h
  split at h
  · simp at h
  · split at h
    · have := length_readExponent_le h; simp_all; omega
    · have := length_readExponent_le h; simp_all; omega
    · rw [eq_of_withRest h]; exact hs

theorem length_readNumber_lt {neg : Bool} {s r : List Char} {n : Numeral}
    (h : readNumber neg s = .ok (n, r)) : r.length < s.length := by
  unfold readNumber at h
  split at h
  · simp at h
  · rename_i c t
    simp only at h
    split at h
    · simp at h
    · rename_i hd
      have hs := length_dropDigits_lt (s := c :: t) (by simpa using hd)
      split at h
      · simp at h
      · split at h
        · have := length_readFraction_le h; simp_all; omega
        · have := length_readExponent_le h; simp_all; omega
        · have := length_readExponent_le h; simp_all; omega
        · split at h <;> rw [eq_of_withRest h] <;> exact hs

end KeyedDelivery.Json
