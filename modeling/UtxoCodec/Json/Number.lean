import UtxoCodec.Json.Basic

/-!
# Numbers of JSON text

A literal without fraction and exponent is an integer if it fits 64 bits, unsigned or signed; minus
zero and larger integers are binary numbers. The significand of a binary number has room for 64
bits. Integral digits that do not fit only raise the power of ten, digits of the fraction that do not
fit are ignored.
-/

namespace UtxoCodec.Json.Number

/-- The least number that 64 bits do not hold. -/
def significandLimit : Nat := UInt64.size

/-- The value of a decimal digit. -/
def digitValue (c : Char) : Nat := c.toNat - 48

/-- A significand with the number of digits it took up and the number of digits left over. -/
structure Absorbed where
  significand : Nat
  taken : Nat
  left : Nat

/-- Appends digits to a significand until one does not fit. -/
def absorb (significand taken : Nat) : List Char → Absorbed
  | [] => ⟨significand, taken, 0⟩
  | c :: rest =>
    let next := significand * 10 + digitValue c
    if next < significandLimit then absorb next (taken + 1) rest
    else ⟨significand, taken, rest.length + 1⟩

/-- Splits off leading decimal digits. -/
def spanDigits (cs : List Char) : List Char × List Char :=
  cs.span Char.isDigit

/-- The exponent part, behind its letter: an optional sign and at least one digit. -/
def exponent? (cs : List Char) : Option Int :=
  let (isNegative, ds) : Bool × List Char := match cs with
    | '-' :: rest => (true, rest)
    | '+' :: rest => (false, rest)
    | _ => (false, cs)
  if ds.isEmpty ∨ ¬ ds.all Char.isDigit then none
  else
    let n : Int := ds.foldl (fun n c => 10 * n + digitValue c) (0 : Nat)
    some (if isNegative then -n else n)

/-- The number behind its sign. -/
def ofUnsigned? (isNegative : Bool) (cs : List Char) : Option Number :=
  let (whole, rest) := spanDigits cs
  if whole.isEmpty ∨ (whole.head? = some '0' ∧ whole.length ≠ 1) then none
  else
    let i := absorb 0 0 whole
    let binary (significand : Nat) (exponent : Int) :=
      (Binary64.ofDecimal? isNegative significand exponent).map Number.binary
    match rest with
    | [] =>
      if i.left ≠ 0 then binary i.significand i.left
      else if ¬ isNegative then some (.integer i.significand)
      else if i.significand = 0 ∨ Int64.maxValue.toInt + 1 < i.significand then binary i.significand 0
      else some (.integer (-i.significand))
    | '.' :: rest =>
      let (fraction, rest) := spanDigits rest
      if fraction.isEmpty then none
      else
        let f := absorb i.significand 0 fraction
        let power : Int := i.left - f.taken
        match rest with
        | [] => binary f.significand power
        | c :: rest =>
          if c = 'e' ∨ c = 'E' then
            (exponent? rest).bind fun e => binary f.significand (power + e)
          else none
    | c :: rest =>
      if c = 'e' ∨ c = 'E' then
        (exponent? rest).bind fun e => binary i.significand (i.left + e)
      else none

/-- The number of a literal. -/
def ofChars? : List Char → Option Number
  | '-' :: rest => ofUnsigned? true rest
  | cs => ofUnsigned? false cs

end UtxoCodec.Json.Number
