import UtxoCodec.Packing
import UtxoCodec.Json.Record

/-!
# Amounts of base tokens

An amount is a natural number of any size. Its text is the canonical decimal: digits without a leading
zero, zero itself being `0`. The binary form has 64 bits; an amount beyond that does not verify and
would be packed as the greatest number of 64 bits.
-/

namespace UtxoCodec

/-- An amount of base tokens. -/
structure Amount where
  value : Nat
  deriving DecidableEq, Repr

namespace Amount

/-- The amount of nothing. -/
def zero : Amount := ⟨0⟩

/-- The amount of a 64-bit number. -/
def ofUInt64 (n : UInt64) : Amount := ⟨n.toNat⟩

/-- Whether the amount is nothing. -/
def isZero (a : Amount) : Bool := a.value == 0

/-- The canonical decimal. -/
def text (a : Amount) : String := toString a.value

/-- The text with the name of the type. -/
def typedText (a : Amount) : String := s!"TokenAmount(Canonical(\"{a.text}\"))"

/-- Whether characters are the canonical decimal of a number. -/
def isCanonicalDecimal (cs : List Char) : Bool :=
  !cs.isEmpty && cs.all Char.isDigit && (cs = ['0'] || cs.head? ≠ some '0')

/-- The number that decimal digits denote. -/
def decimalValue (cs : List Char) : Nat :=
  cs.foldl (fun n c => 10 * n + (c.toNat - 48)) 0

/-- Reads a canonical decimal. -/
def ofText (text : String) : Except EncodingError Amount :=
  if isCanonicalDecimal text.toList then .ok ⟨decimalValue text.toList⟩
  else .error (.malformedAmount text)

/-- The amount at the width of the binary form. -/
def toUInt64 (a : Amount) : Except EncodingError UInt64 :=
  if a.value < UInt64.size then .ok (UInt64.ofNat a.value)
  else .error (.amountOutOfRange a.value)

/-- Checks that the amount fits the binary form. -/
def verify (a : Amount) : Except EncodingError Unit := a.toUInt64.map fun _ => ()

instance : Packable Amount where
  pack a := Bytes.littleEndian 8 (min a.value (UInt64.size - 1))
  unpack _ := do return ⟨← Unpacker.number 8⟩
  verify := verify

instance : Wire Amount where
  toJson a := .string a.text
  ofJson j := do (ofText (← Json.readString j)).mapError .encoding

end Amount

end UtxoCodec
