import UtxoCodec.Binary64

/-!
# Shortest decimal text

A number is written with the fewest digits that read back as the same number, and of those with the
digits nearest to it; of two equally near ones, with the even last digit. The layout is positional
from 10⁻⁵ up to below 10¹⁶ and always shows a fraction there; otherwise it is scientific, and the
exponent always has a sign.
-/

namespace UtxoCodec.Binary64

/-- A decimal: `digits · 10 ^ power`. -/
structure Decimal where
  digits : Nat
  power : Int
  deriving DecidableEq, Repr

/-- The number of decimal digits. -/
def digitCount (n : Nat) : Nat := (Nat.toDigits 10 n).length

/-- The least `k` with `num / den < 10 ^ k`, for a positive ratio. -/
def decimalMagnitude (num den : Nat) : Int :=
  if den ≤ num then digitCount (num / den)
  else
    let zeros := digitCount (den / num)
    if num * Nat.pow 10 (zeros - 1) = den then 2 - (zeros : Int) else 1 - (zeros : Int)

/-- The numerator of `digits · 10 ^ power` over the denominator `den`, with the factor by which `den`
has to be scaled. -/
def overPower (power : Int) : Nat × Nat :=
  if 0 ≤ power then (Nat.pow 10 power.toNat, 1) else (1, Nat.pow 10 (-power).toNat)

/-- The reals that round to `x`: lower end, value and upper end as numerators over one denominator,
and whether the ends belong to it. -/
structure Interval where
  low : Nat
  value : Nat
  high : Nat
  den : Nat
  closed : Bool

/-- The interval of a positive number. The lower neighbour of a power of two is nearer. -/
def interval (x : Binary64) : Interval :=
  let (num, den) := x.ratio
  let unit := if 0 ≤ x.exponent then 1 <<< x.exponent.toNat else 1
  let below := if x.mantissa = leadingBit ∧ leastExponent < x.exponent then 1 else 2
  ⟨4 * num - below * unit, 4 * num, 4 * num + 2 * unit, 4 * den, x.mantissa % 2 = 0⟩

/-- Whether `digits · 10 ^ power` lies in the interval. -/
def Interval.contains (i : Interval) (d : Decimal) : Bool :=
  let (up, down) := overPower d.power
  let point := d.digits * up * i.den
  let low := i.low * down
  let high := i.high * down
  if i.closed then low ≤ point && point ≤ high else low < point && point < high

/-- The decimal with power `power` in the interval that is nearest to its value. -/
def Interval.nearest? (i : Interval) (power : Int) : Option Decimal :=
  let (up, down) := overPower power
  let num := i.value * down
  let den := up * i.den
  let floor := num / den
  let lower : Decimal := ⟨floor, power⟩
  let upper : Decimal := ⟨floor + 1, power⟩
  let remainder := num % den
  let upperFirst := den < 2 * remainder ∨ (2 * remainder = den ∧ floor % 2 = 1)
  match i.contains lower, i.contains upper with
  | true, true => some (if upperFirst then upper else lower)
  | true, false => some lower
  | false, true => some upper
  | false, false => none

/-- Drops trailing zeros of the digits. -/
def Decimal.trim (d : Decimal) : Decimal :=
  if h : d.digits = 0 ∨ d.digits % 10 ≠ 0 then d
  else trim ⟨d.digits / 10, d.power + 1⟩
termination_by d.digits
decreasing_by omega

/-- The shortest decimal of a positive number. -/
def shortest (x : Binary64) : Decimal :=
  let i := x.interval
  let magnitude := decimalMagnitude i.value i.den
  let found := (List.range 17).findSome? fun k => i.nearest? (magnitude - (k + 1 : Nat))
  (found.getD ⟨i.value / i.den, 0⟩).trim

/-- The digits of the absolute value with point and exponent. -/
def Decimal.chars (d : Decimal) : List Char :=
  let ds := Nat.toDigits 10 d.digits
  let point : Int := ds.length + d.power
  if 0 ≤ d.power ∧ point ≤ 16 then
    ds ++ List.replicate d.power.toNat '0' ++ ['.', '0']
  else if 0 < point ∧ point ≤ 16 then
    ds.take point.toNat ++ '.' :: ds.drop point.toNat
  else if -5 < point ∧ point ≤ 0 then
    '0' :: '.' :: List.replicate (-point).toNat '0' ++ ds
  else
    let sign := if point ≤ 0 then '-' else '+'
    let exponent := sign :: Nat.toDigits 10 (point - 1).natAbs
    match ds with
    | [first] => first :: 'e' :: exponent
    | first :: rest => first :: '.' :: rest ++ 'e' :: exponent
    | [] => exponent

/-- The shortest text of a number. -/
def chars (x : Binary64) : List Char :=
  let absolute := if x.mantissa = 0 then ['0', '.', '0'] else x.shortest.chars
  if x.isNegative then '-' :: absolute else absolute

end UtxoCodec.Binary64
