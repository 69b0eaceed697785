/-!
# Decimal and hexadecimal numerals

Natural numbers written with decimal digits, read back by their place value. Reading what was
written gives the number again (`value_digits`), for numbers of any size.
-/

namespace KeyedDelivery.Text

def digitChar (d : Nat) : Char := Char.ofNat (48 + d)

def digitValue (c : Char) : Nat := c.toNat - 48

def isDigit (c : Char) : Bool := 48 ≤ c.toNat && c.toNat ≤ 57

def digits (n : Nat) : List Char :=
  if n < 10 then [digitChar n] else digits (n / 10) ++ [digitChar (n % 10)]

/-- The number that a run of decimal digits stands for. -/
def value (ds : List Char) : Nat := ds.foldl (fun n c => 10 * n + digitValue c) 0

def natural (n : Nat) : String := String.ofList (digits n)

/-- The decimal numeral of an integer: a minus sign stands before the digits of a negative one. -/
def integer (i : Int) : String :=
  match i with
  | .ofNat n => natural n
  | .negSucc n => "-" ++ natural (n + 1)

/-- Reads one or more ASCII digits, and nothing else. -/
def natural? (cs : List Char) : Option Nat :=
  if cs ≠ [] ∧ cs.all isDigit then some (value cs) else none

/-- The character of a hexadecimal digit `d < 16`, in lower case. -/
def hexDigitChar (d : Nat) : Char := if d < 10 then digitChar d else Char.ofNat (87 + d)

/-- The lower case hexadecimal numeral of `n`, without leading zeros. -/
def hexDigits (n : Nat) : List Char :=
  if n < 16 then [hexDigitChar n] else hexDigits (n / 16) ++ [hexDigitChar (n % 16)]

def hexValue? (c : Char) : Option Nat :=
  let n := c.toNat
  if 48 ≤ n ∧ n ≤ 57 then some (n - 48)
  else if 97 ≤ n ∧ n ≤ 102 then some (n - 87)
  else if 65 ≤ n ∧ n ≤ 70 then some (n - 55)
  else none

/-! ### Reading what was written -/

theorem toNat_digitChar {d : Nat} (h : d < 10) : (digitChar d).toNat = 48 + d := by
  have hv : Nat.isValidChar (48 + d) := Or.inl (by omega)
  rw [digitChar, Char.ofNat, dif_pos hv]
  rfl

@[simp] theorem digitValue_digitChar {d : Nat} (h : d < 10) : digitValue (digitChar d) = d := by
  simp [digitValue, toNat_digitChar h]

@[simp] theorem isDigit_digitChar {d : Nat} (h : d < 10) : isDigit (digitChar d) = true := by
  simp [isDigit, toNat_digitChar h]; omega

theorem value_append_singleton (ds : List Char) (c : Char) :
    value (ds ++ [c]) = 10 * value ds + digitValue c := by
  simp [value]

theorem digits_ne_nil (n : Nat) : digits n ≠ [] := by
  unfold digits; split <;> simp

theorem isDigit_of_mem_digits {n : Nat} {c : Char} (h : c ∈ digits n) : isDigit c = true := by
  induction n using Nat.strongRecOn with
  | ind n ih =>
    unfold digits at h
    split at h
    · simp at h; subst h; exact isDigit_digitChar (by assumption)
    · rcases List.mem_append.1 h with h | h
      · exact ih (n / 10) (by omega) h
      · simp at h; subst h; exact isDigit_digitChar (by omega)

/-- Reading the numeral of `n` by place value gives `n`. -/
@[simp] theorem value_digits (n : Nat) : value (digits n) = n := by
  induction n using Nat.strongRecOn with
  | ind n ih =>
    unfold digits
    split
    · rename_i h; simp [value, digitValue_digitChar h]
    · rw [value_append_singleton, ih (n / 10) (by omega), digitValue_digitChar (by omega)]
      omega

end KeyedDelivery.Text
