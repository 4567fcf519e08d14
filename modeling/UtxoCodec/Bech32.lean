import UtxoCodec.Bech32.Fault

/-!
# Bech32

A human readable part, the separator `1` and data of 5-bit groups, the last six of which are a
checksum over the lower-case readable part and the data. Letters are of one case in a text; texts are
written in lower case. The text is split at its last separator, since the readable part may hold
others.

`decode` reports the first fault in this order: separator, readable part, data characters from the
left, data shorter than a checksum, checksum, variant, padding.
-/

namespace UtxoCodec.Bech32

/-- The characters of the 32 groups, in order. -/
def alphabet : List Char := "qpzry9x8gf2tvdw0s3jn54khce6mua7l".toList

/-- The number of groups of a checksum. -/
def checksumLength : Nat := 6

/-- The case of the letters seen so far. -/
inductive Case where
  | none
  | lower
  | upper
  deriving DecidableEq, Repr

/-! ## Checksum -/

/-- The residue after one more group. -/
def residueStep (residue : UInt32) (group : Nat) : UInt32 :=
  let top := residue >>> 25
  let shifted := ((residue &&& 0x1ffffff) <<< 5) ^^^ UInt32.ofNat group
  [0x3b6a57b2, 0x26508e6d, 0x1ea119fa, 0x3d4233dd, 0x2a1462b3].zipIdx.foldl
    (fun r (generator, i) => if (top >>> UInt32.ofNat i) &&& 1 = 1 then r ^^^ generator else r)
    shifted

/-- The residue of groups. -/
def residue (groups : List Nat) : UInt32 := groups.foldl residueStep 1

/-- The groups that stand for a readable part: high bits, a zero, low bits. -/
def expand (readable : List Char) : List Nat :=
  readable.map (fun c => c.toNat / 32) ++ 0 :: readable.map (fun c => c.toNat % 32)

/-- The residue of texts with a correct checksum. -/
def target : UInt32 := 1

/-- The residue of texts of the modified variant. -/
def modifiedTarget : UInt32 := 0x2bc830a3

/-- The checksum of a lower-case readable part and data. -/
def checksum (readable : List Char) (data : List Nat) : List Nat :=
  let r := residue (expand readable ++ data ++ List.replicate checksumLength 0) ^^^ target
  (List.range checksumLength).map fun i =>
    ((r >>> UInt32.ofNat (5 * (5 - i))) &&& 31).toNat

/-! ## Groups -/

/-- The bits of a number within a width, highest first. -/
def toBits : (width n : Nat) → List Bool
  | 0, _ => []
  | width + 1, n => n.testBit width :: toBits width n

/-- The number that bits denote, highest first. -/
def ofBits (bits : List Bool) : Nat :=
  bits.foldl (fun n bit => 2 * n + bit.toNat) 0

/-- The full chunks of a size, and what is left over. -/
def chunks (size : Nat) (bits : List Bool) : List (List Bool) × List Bool :=
  if 0 < size ∧ size ≤ bits.length then
    let (full, rest) := chunks size (bits.drop size)
    (bits.take size :: full, rest)
  else ([], bits)
termination_by bits.length
decreasing_by simp only [List.length_drop]; omega

/-- The groups of bytes; the last one is filled up with zeros. -/
def toGroups (bytes : Bytes) : List Nat :=
  let (full, rest) := chunks 5 (bytes.flatMap fun b => toBits 8 b.toNat)
  full.map ofBits ++
    if rest.isEmpty then [] else [ofBits (rest ++ List.replicate (5 - rest.length) false)]

/-- The bytes of groups. What is left over has to be zero and shorter than a group. -/
def ofGroups (groups : List Nat) : Except Fault Bytes :=
  let (full, rest) := chunks 8 (groups.flatMap (toBits 5))
  if 5 ≤ rest.length ∨ rest.any id then .error .badPadding
  else .ok (full.map fun bits => UInt8.ofNat (ofBits bits))

/-! ## Readable part -/

/-- The bytes of the UTF-8 form, each as a character. -/
def byteChars (cs : List Char) : List Char :=
  (Bytes.ofChars cs).map fun b => Char.ofNat b.toNat

/-- Checks characters of a readable part after letters of the given case. -/
def readableCase (seen : Case) : List Char → Except Fault Case
  | [] => .ok seen
  | c :: rest =>
    if c.toNat < 33 ∨ 126 < c.toNat then .error (.badChar c)
    else if c.isLower then
      if seen = .upper then .error .mixedCase else readableCase .lower rest
    else if c.isUpper then
      if seen = .lower then .error .mixedCase else readableCase .upper rest
    else readableCase seen rest

/-- Checks a readable part and gives the case of its letters. -/
def checkReadable (readable : List Char) : Except Fault Case :=
  let bytes := byteChars readable
  if bytes.isEmpty ∨ 83 < bytes.length then .error .badLength
  else readableCase .none bytes

/-! ## Texts -/

/-- Splits at the last separator. -/
def split? (cs : List Char) : Option (List Char × List Char) :=
  let back := cs.reverse
  match back.dropWhile (· ≠ '1') with
  | _ :: readable => some (readable.reverse, (back.takeWhile (· ≠ '1')).reverse)
  | [] => none

/-- Reads data characters after letters of the given case. -/
def readData (seen : Case) : List Char → Except Fault (List Nat)
  | [] => .ok []
  | c :: rest =>
    if 128 ≤ c.toNat then .error (.badChar c)
    else if (c.isLower ∧ seen = .upper) ∨ (c.isUpper ∧ seen = .lower) then .error .mixedCase
    else
      let seen := if c.isLower then .lower else if c.isUpper then .upper else seen
      match alphabet.idxOf? c.toLower with
      | none => .error (.badChar c)
      | some group => do
        let groups ← readData seen rest
        return group :: groups

/-- The text of a readable part and bytes. -/
def encode (readable : String) (bytes : Bytes) : Except Fault String := do
  let cs := readable.toList
  let _ ← checkReadable cs
  let lower := cs.map Char.toLower
  let groups := toGroups bytes
  let data := (groups ++ checksum lower groups).map fun group => alphabet.getD group 'q'
  return String.ofList (lower ++ '1' :: data)

/-- The readable part, in lower case, and the bytes of a text. -/
def decode (text : String) : Except Fault (String × Bytes) := do
  let some (readable, data) := split? text.toList | throw .missingSeparator
  let seen ← checkReadable readable
  let groups ← readData seen data
  if groups.length < checksumLength then throw .badLength
  let lower := readable.map Char.toLower
  let r := residue (expand lower ++ groups)
  if r = modifiedTarget then throw .otherVariant
  if r ≠ target then throw .badChecksum
  let bytes ← ofGroups (groups.take (groups.length - checksumLength))
  return (String.ofList lower, bytes)

end UtxoCodec.Bech32
