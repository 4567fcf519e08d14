/-!
# Numerals

Numbers of 64 bits in decimal. A plus sign may stand in front, and leading zeros do not count.
-/

namespace UtxoCodec.Text

/-- The number that a text denotes. -/
def unsigned64? (cs : List Char) : Option Nat :=
  let ds := match cs with
    | '+' :: rest => rest
    | cs => cs
  if ds.isEmpty ∨ ¬ ds.all Char.isDigit then none
  else
    let n := ds.foldl (fun n c => 10 * n + (c.toNat - 48)) 0
    if n < UInt64.size then some n else none

end UtxoCodec.Text
