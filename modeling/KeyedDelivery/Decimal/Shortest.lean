import KeyedDelivery.Text.Numeral

/-!
# Shortest decimals of binary floating point numbers

A finite 64-bit floating point number `m · 2^q` is written with the fewest decimal digits that read
back as the same number; of two such numerals the nearer one is taken, and of two equally near ones
the one that ends in an even digit.

* `Binary` is a positive number `m · 2^q` with the interval of reals that round to it.
* `Binary.shortest` is the chosen decimal `d · 10^e`.
* `renderBits` writes it: positional from `10^-5` up to below `10^16`, else with a signed exponent.
-/

namespace KeyedDelivery.Decimal

/-- A positive number `4 · mantissa · 2^(exponent - 2)`, and the distance (in units of
`2^(exponent - 2)`) to the lower end of the interval that rounds to it; the upper end is two units
away. -/
structure Binary where
  mantissa : Nat
  exponent : Int
  below : Nat
  deriving DecidableEq, Repr

/-- The number in the lower 63 bits of a 64-bit pattern. -/
def Binary.ofBits (bits : UInt64) : Binary :=
  let n : Nat := bits.toNat % Nat.pow 2 63
  let e : Nat := n / Nat.pow 2 52
  let f : Nat := n % Nat.pow 2 52
  if e = 0 then ⟨f, -1074, 2⟩
  else ⟨Nat.pow 2 52 + f, (e : Int) - 1075, if f = 0 ∧ 1 < e then 1 else 2⟩

/-- The powers of `base` that scale a numerator and a denominator by `base ^ e`. -/
def scaleBy (base : Nat) (e : Int) : Nat × Nat :=
  if 0 ≤ e then (base.pow e.toNat, 1) else (1, base.pow e.natAbs)

/-- The exponent `k` with `10^k ≤ a / b < 10^(k+1)`, for positive `a` and `b`. -/
def decimalExponent (a b : Nat) : Int :=
  if b ≤ a then ((Text.digits (a / b)).length : Int) - 1
  else
    let l := (Text.digits (b / a)).length
    if b ≤ a * Nat.pow 10 (l - 1) then -((l : Int) - 1) else -(l : Int)

/-- A decimal `digits · 10^exponent`. -/
structure Scaled where
  digits : Nat
  exponent : Int
  deriving DecidableEq, Repr

/-- The decimal on the grid `10^e` nearest to `x` among the two neighbours of `x`, if one of them
lies in the interval of `x`. -/
def Binary.onGrid (x : Binary) (e : Int) : Option Scaled :=
  let (p, q) := scaleBy 2 (x.exponent - 2)
  let (g, h) := scaleBy 10 e
  -- a decimal `d · 10^e` and a multiple `u` of the binary unit, over one denominator
  let decimal (d : Nat) := d * g * q
  let units (u : Nat) := u * p * h
  let v := 4 * x.mantissa
  let inside (d : Nat) : Bool :=
    if x.mantissa % 2 = 0 then units (v - x.below) ≤ decimal d && decimal d ≤ units (v + 2)
    else units (v - x.below) < decimal d && decimal d < units (v + 2)
  let d := units v / (g * q)
  let down := units v - decimal d
  let up := decimal (d + 1) - units v
  match inside d, inside (d + 1) with
  | true, true =>
    if down < up then some ⟨d, e⟩
    else if up < down then some ⟨d + 1, e⟩
    else some ⟨if d % 2 = 0 then d else d + 1, e⟩
  | true, false => some ⟨d, e⟩
  | false, true => some ⟨d + 1, e⟩
  | false, false => none

/-- The shortest decimal: the first grid, from coarse to fine, that meets the interval. Seventeen
digits always do. -/
def Binary.shortest (x : Binary) : Scaled :=
  let (p, q) := scaleBy 2 (x.exponent - 2)
  let k := decimalExponent (4 * x.mantissa * p) q
  ((List.range 17).findSome? fun (n : Nat) => x.onGrid (k - n)).getD ⟨0, 0⟩

/-- Writes the digits `ds` of a decimal whose first digit has the place value `10^k`. -/
def place (ds : List Char) (k : Int) : List Char :=
  let n := ds.length
  if 0 ≤ k then
    let whole := k.toNat + 1
    if n ≤ whole then ds ++ List.replicate (whole - n) '0' ++ ['.', '0']
    else ds.take whole ++ ['.'] ++ ds.drop whole
  else ['0', '.'] ++ List.replicate (k.natAbs - 1) '0' ++ ds

/-- Writes the digits `ds` with an exponent `k` after them, which always has a sign. -/
def withExponent (ds : List Char) (k : Int) : List Char :=
  let mark := if ds.length ≤ 1 then ds else ds.take 1 ++ ['.'] ++ ds.drop 1
  mark ++ ['e', if k < 0 then '-' else '+'] ++ Text.digits k.natAbs

/-- Digits without trailing zeros. -/
def dropTrailingZeros (ds : List Char) : List Char := (ds.reverse.dropWhile (· == '0')).reverse

/-- The decimal text of the finite number with these bits. -/
def renderBits (bits : UInt64) : String :=
  let sign := if bits.toNat < Nat.pow 2 63 then [] else ['-']
  let x := Binary.ofBits bits
  if x.mantissa = 0 then String.ofList (sign ++ ['0', '.', '0'])
  else
    let s := x.shortest
    let all := Text.digits s.digits
    let k := s.exponent + (all.length - 1)
    let ds := dropTrailingZeros all
    String.ofList (sign ++ if -5 ≤ k ∧ k < 16 then place ds k else withExponent ds k)

end KeyedDelivery.Decimal
