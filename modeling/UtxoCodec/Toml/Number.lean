import UtxoCodec.Binary64
import UtxoCodec.Toml.Token

/-!
# Numbers of configuration files

Digits may be grouped by single underscores between them. Decimal integers have no leading zeros;
hexadecimal, octal and binary ones begin with `0x`, `0o` and `0b`. Integers have 64 bits with a sign.
A float is the number nearest to its decimal and must be in range.
-/

namespace UtxoCodec.Toml.Number

/-- Splits off digits of a base with underscores between them. The state says that nothing was read,
that the first digit was zero, and that an underscore came last. -/
def spanDigits? (base : Nat) (leadingZeros : Bool) :
    (isFirst zeroFirst underscore : Bool) → (read : List Char) → List Char →
      Option (List Char × List Char)
  | isFirst, _, underscore, read, [] =>
    if isFirst || underscore then none else some (read.reverse, [])
  | isFirst, zeroFirst, underscore, read, c :: rest =>
    if c = '0' ∧ isFirst then spanDigits? base leadingZeros false true underscore (c :: read) rest
    else if (Token.digitValue? base c).isSome then
      if ¬ isFirst ∧ zeroFirst ∧ ¬ leadingZeros then none
      else spanDigits? base leadingZeros false zeroFirst false (c :: read) rest
    else if c = '_' ∧ isFirst then none
    else if c = '_' ∧ ¬ underscore then
      spanDigits? base leadingZeros false zeroFirst true read rest
    else if isFirst || underscore then none
    else some (read.reverse, c :: rest)

/-- The leading digits of a text without their underscores, and the rest. -/
def digits? (base : Nat) (leadingZeros : Bool) (cs : List Char) : Option (List Char × List Char) :=
  spanDigits? base leadingZeros true false false [] cs

/-- Splits off a minus sign. -/
def splitSign : List Char → Bool × List Char
  | '-' :: rest => (true, rest)
  | cs => (false, cs)

/-- The number that digits of a base denote. -/
def ofDigits (base : Nat) (ds : List Char) : Nat :=
  ds.foldl (fun n c => base * n + (Token.digitValue? base c).getD 0) 0

/-- The integer of a complete text of digits, if it has 64 bits. -/
def integer? (base : Nat) (isNegative : Bool) (cs : List Char) : Option Int :=
  match digits? base (base ≠ 10) cs with
  | some (ds, []) =>
    let n : Int := ofDigits base ds
    let value := if isNegative then -n else n
    if Int64.minValue.toInt ≤ value ∧ value ≤ Int64.maxValue.toInt then some value else none
  | _ => none

/-- The integer that decimal digits with an optional minus sign denote. -/
def ofSigned (cs : List Char) : Int :=
  let (isNegative, ds) := splitSign cs
  let n : Int := ofDigits 10 ds
  if isNegative then -n else n

/-- The float with these parts. -/
def float? (isNegative : Bool) (whole fraction exponent : List Char) : Option Binary64 :=
  Binary64.nearestDecimal? isNegative (ofDigits 10 (whole ++ fraction))
    (ofSigned exponent - fraction.length)

end UtxoCodec.Toml.Number
