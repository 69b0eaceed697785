import KeyedDelivery.Json.Fault
import KeyedDelivery.Text.Units16
import KeyedDelivery.Text.Utf8

/-!
# Blanks, literals and strings of JSON

The scanners that every reader of JSON values shares. Each leaves a rest that is no longer than what
it was given, which is what the readers' recursion stands on.

* `skipBlanks` passes insignificant white space.
* `literal` passes the letters of `null`, `true` or `false`.
* `readText` decodes the inside of a string up to its closing quote; `skipText` passes it without
  pairing surrogates.
-/

namespace KeyedDelivery.Json

def isSpace (c : Char) : Bool := c == ' ' || c == '\n' || c == '\t' || c == '\r'

def skipBlanks (s : List Char) : List Char := s.dropWhile isSpace

theorem length_skipBlanks_le (s : List Char) : (skipBlanks s).length ≤ s.length :=
  (List.dropWhile_suffix isSpace).length_le

/-- Passes exactly the characters of `word`. -/
def literal : List Char → List Char → Except Fault (List Char)
  | [], s => .ok s
  | _ :: _, [] => .error .truncated
  | w :: ws, c :: r => if c = w then literal ws r else .error .malformed

theorem length_literal_le {word s r : List Char} (h : literal word s = .ok r) :
    r.length ≤ s.length := by
  fun_induction literal word s with
  | case1 s => simp_all
  | case2 => simp at h
  | case3 ws c r' ih => have := ih h; simp; omega
  | case4 => simp at h

/-! ### Escapes -/

/-- The characters that a backslash and one letter stand for. -/
def shortEscape? : Char → Option Char
  | '"' => some '"'
  | '\\' => some '\\'
  | '/' => some '/'
  | 'b' => some '\x08'
  | 'f' => some '\x0c'
  | 'n' => some '\n'
  | 'r' => some '\r'
  | 't' => some '\t'
  | _ => none

/-- Why `s` does not start with four hexadecimal digits: fewer than four bytes are left, or one of
them is no digit. -/
def hexFault (s : List Char) : Fault :=
  if Text.utf8Length s < 4 then .truncated else .malformed

def hexQuad : Reader Nat
  | a :: b :: c :: d :: r =>
    match Text.hexValue? a, Text.hexValue? b, Text.hexValue? c, Text.hexValue? d with
    | some a, some b, some c, some d => .ok (((a * 16 + b) * 16 + c) * 16 + d, r)
    | _, _, _, _ => .error (hexFault (a :: b :: c :: d :: r))
  | s => .error (hexFault s)

theorem length_hexQuad_lt {s r : List Char} {n : Nat} (h : hexQuad s = .ok (n, r)) :
    r.length < s.length := by
  unfold hexQuad at h
  split at h
  · split at h
    · simp at h; simp [← h.2]; omega
    · simp at h
  · simp at h

/-- Reads the trailing surrogate that has to follow the leading one `lead`. -/
def trailingSurrogate (lead : Nat) : Reader Char
  | [] => .error .truncated
  | ['\\'] => .error .truncated
  | '\\' :: 'u' :: r =>
    match hexQuad r with
    | .error e => .error e
    | .ok (n, t) =>
      if 0xdc00 ≤ n ∧ n ≤ 0xdfff then .ok (Text.pairSurrogates lead n, t) else .error .malformed
  | _ => .error .malformed

theorem length_trailingSurrogate_lt {lead : Nat} {s r : List Char} {c : Char}
    (h : trailingSurrogate lead s = .ok (c, r)) : r.length < s.length := by
  unfold trailingSurrogate at h
  split at h
  · simp at h
  · simp at h
  · split at h
    · simp at h
    · rename_i hq
      have := length_hexQuad_lt hq
      split at h <;> simp at h
      simp [← h.2]; omega
  · simp at h

/-- Reads what follows a backslash in a string. Surrogates have to come in pairs. -/
def readEscape : Reader Char
  | [] => .error .truncated
  | 'u' :: r =>
    match hexQuad r with
    | .error e => .error e
    | .ok (n, t) =>
      if 0xdc00 ≤ n ∧ n ≤ 0xdfff then .error .malformed
      else if 0xd800 ≤ n ∧ n ≤ 0xdbff then trailingSurrogate n t
      else .ok (Char.ofNat n, t)
  | c :: r =>
    match shortEscape? c with
    | some d => .ok (d, r)
    | none => .error .malformed

theorem length_readEscape_lt {s r : List Char} {c : Char} (h : readEscape s = .ok (c, r)) :
    r.length < s.length := by
  unfold readEscape at h
  split at h
  · simp at h
  · split at h
    · simp at h
    · rename_i hq
      have := length_hexQuad_lt hq
      split at h
      · simp at h
      · split at h
        · have := length_trailingSurrogate_lt h; simp; omega
        · simp at h; simp [← h.2]; omega
  · split at h <;> simp at h
    simp [h.2]

/-- Passes what follows a backslash in a string. -/
def skipEscape : List Char → Except Fault (List Char)
  | [] => .error .truncated
  | 'u' :: r => (hexQuad r).map (·.2)
  | c :: r => if (shortEscape? c).isSome then .ok r else .error .malformed

theorem length_skipEscape_lt {s r : List Char} (h : skipEscape s = .ok r) :
    r.length < s.length := by
  unfold skipEscape at h
  split at h
  · simp at h
  · rename_i r'
    cases hq : hexQuad r' with
    | error e => simp [hq, Except.map] at h
    | ok p =>
      simp [hq, Except.map] at h
      have := length_hexQuad_lt (n := p.1) (r := p.2) hq
      simp [← h]; omega
  · split at h <;> simp at h
    simp [h]

/-! ### Strings -/

/-- Decodes the inside of a string up to and over its closing quote. -/
def readText (s : List Char) : Except Fault (List Char × List Char) :=
  match s with
  | [] => .error .truncated
  | '"' :: r => .ok ([], r)
  | '\\' :: r =>
    match h : readEscape r with
    | .error e => .error e
    | .ok (c, t) =>
      have := length_readEscape_lt h
      match readText t with
      | .error e => .error e
      | .ok (cs, u) => .ok (c :: cs, u)
  | c :: r =>
    if c.toNat < 0x20 then .error .malformed
    else match readText r with
      | .error e => .error e
      | .ok (cs, u) => .ok (c :: cs, u)
termination_by s.length
decreasing_by all_goals simp_all <;> omega

/-- Passes the inside of a string up to and over its closing quote. -/
def skipText (s : List Char) : Except Fault (List Char) :=
  match s with
  | [] => .error .truncated
  | '"' :: r => .ok r
  | '\\' :: r =>
    match h : skipEscape r with
    | .error e => .error e
    | .ok t =>
      have := length_skipEscape_lt h
      skipText t
  | c :: r => if c.toNat < 0x20 then .error .malformed else skipText r
termination_by s.length
decreasing_by all_goals simp_all <;> omega

theorem length_readText_lt {s r cs : List Char} (h : readText s = .ok (cs, r)) :
    r.length < s.length := by
  fun_induction readText s generalizing cs r with
  | case1 => simp at h
  | case2 r' => simp at h; simp [h.2]
  | case3 => simp at h
  | case4 => simp at h
  | case5 r' c t he _ cs' u hu ih =>
    simp at h
    have := ih hu
    have := length_readEscape_lt he
    simp [← h.2]; omega
  | case6 => simp at h
  | case7 => simp at h
  | case8 c r' _ _ _ cs' u hu ih =>
    simp at h
    have := ih hu
    simp [← h.2]; omega

theorem length_skipText_lt {s r : List Char} (h : skipText s = .ok r) : r.length < s.length := by
  fun_induction skipText s with
  | case1 => simp at h
  | case2 r' => simp at h; simp [h]
  | case3 => simp at h
  | case4 r' t he _ ih => have := ih h; have := length_skipEscape_lt he; simp; omega
  | case5 => simp at h
  | case6 c r' _ _ _ ih => have := ih h; simp; omega

end KeyedDelivery.Json
