import UtxoCodec.Bytes

/-!
# Faults of bech32 texts
-/

namespace UtxoCodec.Bech32

/-- Why a text is not bech32, or a human readable part cannot be used. -/
inductive Fault where
  | missingSeparator
  | badChecksum
  | badLength
  | badChar (found : Char)
  | badPadding
  | mixedCase
  /-- The checksum is that of the modified variant. -/
  | otherVariant
  deriving DecidableEq, Repr

/-- The text of a fault. -/
def Fault.message : Fault → String
  | .missingSeparator => "missing human-readable separator, \"1\""
  | .badChecksum => "invalid checksum"
  | .badLength => "invalid length"
  | .badChar found => s!"invalid character (code={found})"
  | .badPadding => "invalid padding"
  | .mixedCase => "mixed-case strings not allowed"
  | .otherVariant => "expected the bech32 variant, found bech32m"

end UtxoCodec.Bech32
