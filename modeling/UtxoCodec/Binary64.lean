/-!
# Binary floating point numbers of 64 bits

A finite number is a sign and `mantissa · 2 ^ exponent`, normalized so that equal values have equal
fields: the mantissa has 53 bits, or the exponent is the least one. Rounding a ratio goes to the
nearest number, ties to the even mantissa. A decimal is read in one of two ways: as the nearest
number, or by scaling its rounded significand by rounded powers of ten, which is not always the
nearest number.
-/

namespace UtxoCodec

namespace Binary64

/-- The exponent of the smallest positive number. -/
def leastExponent : Int := -1074

/-- The exponent of the largest numbers. -/
def greatestExponent : Int := 971

/-- The first bit of a mantissa of 53 bits. -/
def leadingBit : Nat := 0x10000000000000

/-- The exponent is in range and the mantissa has 53 bits, or fewer at the least exponent. -/
def Normal (mantissa : Nat) (exponent : Int) : Prop :=
  mantissa < 2 * leadingBit ∧ exponent ≤ greatestExponent ∧
    (exponent = leastExponent ∨ leastExponent < exponent ∧ leadingBit ≤ mantissa)
  deriving Decidable

end Binary64

/-- A finite number. -/
structure Binary64 where
  isNegative : Bool
  mantissa : Nat
  exponent : Int
  normal : Binary64.Normal mantissa exponent
  deriving DecidableEq, Repr

namespace Binary64

/-- Zero, with a sign. -/
def zero (isNegative : Bool) : Binary64 := ⟨isNegative, 0, leastExponent, by decide⟩

/-- The absolute value as numerator and denominator. -/
def ratio (x : Binary64) : Nat × Nat :=
  if 0 ≤ x.exponent then (x.mantissa <<< x.exponent.toNat, 1)
  else (x.mantissa, 1 <<< (-x.exponent).toNat)

/-- The quotient rounded to the nearest integer, ties to the even one. -/
def roundQuotient (num den : Nat) : Nat :=
  let q := num / den
  let r := num % den
  if 2 * r < den then q else if den < 2 * r then q + 1 else q + q % 2

/-- The quotient of `num / den` by `2 ^ exponent`, rounded. -/
def scaledQuotient (num den : Nat) (exponent : Int) : Nat :=
  if 0 ≤ exponent then roundQuotient num (den <<< exponent.toNat)
  else roundQuotient (num <<< (-exponent).toNat) den

/-- Whether `num / den` is below `2 ^ exponent`. -/
def isBelowPower (num den : Nat) (exponent : Int) : Bool :=
  if 0 ≤ exponent then num < den <<< exponent.toNat
  else num <<< (-exponent).toNat < den

/-- The number nearest to `num / den`; none if it is out of range. -/
def ofRatio? (isNegative : Bool) (num den : Nat) : Option Binary64 :=
  if num = 0 then some (zero isNegative)
  else
    let estimate : Int := (num.log2 : Int) - den.log2
    -- The ratio lies between `2 ^ (magnitude - 1)` and `2 ^ magnitude`.
    let magnitude := if isBelowPower num den estimate then estimate else estimate + 1
    let exponent := max (magnitude - 53) leastExponent
    let mantissa := scaledQuotient num den exponent
    let (mantissa, exponent) :=
      if mantissa = 2 * leadingBit then (leadingBit, exponent + 1) else (mantissa, exponent)
    if mantissa = 0 then some (zero isNegative)
    -- What is rounded like this can only be too large to be normal.
    else if normal : Normal mantissa exponent then some ⟨isNegative, mantissa, exponent, normal⟩
    else none

/-- The number nearest to `significand · 10 ^ power`; none if it is out of range. A decimal far out of
range, and one far too small, are told by the number of digits. -/
def nearestDecimal? (isNegative : Bool) (significand : Nat) (power : Int) : Option Binary64 :=
  let magnitude : Int := (Nat.toDigits 10 significand).length + power
  if significand = 0 then some (zero isNegative)
  else if 310 < magnitude then none
  else if magnitude < -400 then some (zero isNegative)
  else if 0 ≤ power then ofRatio? isNegative (significand * Nat.pow 10 power.toNat) 1
  else ofRatio? isNegative significand (Nat.pow 10 (-power).toNat)

/-- The number nearest to ten to the power `k`, for `k` up to 308. -/
def powerOfTen (k : Nat) : Binary64 :=
  (ofRatio? false (Nat.pow 10 k) 1).getD (zero false)

/-- The product, rounded; the sign is that of the first factor. -/
def mul? (x y : Binary64) : Option Binary64 :=
  ofRatio? x.isNegative (x.ratio.1 * y.ratio.1) (x.ratio.2 * y.ratio.2)

/-- The quotient, rounded; the sign is that of the dividend. -/
def div? (x y : Binary64) : Option Binary64 :=
  ofRatio? x.isNegative (x.ratio.1 * y.ratio.2) (x.ratio.2 * y.ratio.1)

/-- Divides by ten to the power 308 a number of times, or until zero is reached. -/
def divideOften? : (times : Nat) → Binary64 → Option Binary64
  | 0, x => some x
  | times + 1, x =>
    if x.mantissa = 0 then some x
    else match div? x (powerOfTen 308) with
      | some y => divideOften? times y
      | none => none

/-- `x` times ten to the power `exponent`, by powers of ten of at most 308 at a time. None if the
result is out of range. -/
def scale10? (x : Binary64) (exponent : Int) : Option Binary64 :=
  if 0 ≤ exponent then
    if exponent ≤ 308 then mul? x (powerOfTen exponent.toNat)
    else if x.mantissa = 0 then some x
    else none
  else
    let times := (exponent.natAbs - 1) / 308
    match divideOften? times x with
    | some y => div? y (powerOfTen (exponent.natAbs - 308 * times))
    | none => none

/-- The number of a literal with integral `significand` and power of ten `exponent`, scaled: the
significand is rounded before. -/
def ofDecimal? (isNegative : Bool) (significand : Nat) (exponent : Int) : Option Binary64 := do
  scale10? (← ofRatio? isNegative significand 1) exponent

end Binary64

end UtxoCodec
