import UtxoCodec.Bytes
import UtxoCodec.Text.CharLiteral

/-!
# Prefixed hexadecimal text

Bytes are written as `0x` and two lower-case digits each; digits of either case are read. Numbers of
256 bits are written as `0x` and lower-case digits without leading zeros.

A text is judged by the bytes of its UTF-8 form. The prefix is checked first, then the parity of the
byte count behind it, then the digits from the left. A text without the prefix is reported by its
first two characters; if it has a single character of several bytes there is no second one to
report, and reading has no outcome at all (`Fault.abort`).
-/

namespace UtxoCodec.Hex

/-- Why a text is not hexadecimal. -/
inductive Fault where
  /-- Too few digits to begin with, or more than the number has room for. -/
  | badLength
  /-- The text begins with these characters and not with `0x`. -/
  | badPrefix (first second : Char)
  /-- An odd number of bytes follows the prefix. -/
  | oddLength
  /-- The first character that is no digit, and its position behind the prefix. -/
  | badDigit (found : Char) (position : Nat)
  /-- Reading came to no outcome. -/
  | abort
  deriving DecidableEq, Repr

/-- The text of a fault. -/
def Fault.message : Fault → String
  | .badLength => "InvalidStringLength"
  | .badPrefix first second =>
    s!"InvalidPrefix \x7b c0: {Text.charLiteral first}, c1: {Text.charLiteral second} \x7d"
  | .oddLength => "OddLength"
  | .badDigit found position =>
    s!"InvalidHexCharacter \x7b c: {Text.charLiteral found}, index: {position} \x7d"
  | .abort => ""

/-- The lower-case digit of a number below sixteen. -/
def digit (n : Nat) : Char :=
  if n < 10 then Char.ofNat (48 + n) else Char.ofNat (87 + n)

/-- The number that a digit of either case denotes. -/
def digitValue? (code : Nat) : Option Nat :=
  if 48 ≤ code ∧ code ≤ 57 then some (code - 48)
  else if 97 ≤ code ∧ code ≤ 102 then some (code - 87)
  else if 65 ≤ code ∧ code ≤ 70 then some (code - 55)
  else none

/-! ## Writing -/

/-- Two lower-case digits a byte. -/
def digits (bytes : Bytes) : List Char :=
  bytes.flatMap fun b => [digit (b.toNat / 16), digit (b.toNat % 16)]

/-- Bytes as digits without a prefix. -/
def plain (bytes : Bytes) : String :=
  String.ofList (digits bytes)

/-- Bytes as `0x` and digits. -/
def encode (bytes : Bytes) : String :=
  String.ofList ('0' :: 'x' :: digits bytes)

/-- The digits of a positive number in front of those already written. -/
def numberDigits (n : Nat) (written : List Char) : List Char :=
  if h : n = 0 then written
  else numberDigits (n / 16) (digit (n % 16) :: written)
termination_by n
decreasing_by omega

/-- A number as `0x` and digits without leading zeros; zero has one digit. -/
def encodeNumber (n : Nat) : String :=
  String.ofList ('0' :: 'x' :: if n = 0 then ['0'] else numberDigits n [])

/-! ## Reading -/

/-- Splits off the prefix, or reports its absence. -/
def stripPrefix (text : String) : Except Fault (List Char) :=
  match text.toList with
  | '0' :: 'x' :: rest => .ok rest
  | cs =>
    if (Bytes.ofChars cs).length < 2 then .error .badLength
    else match cs with
      | first :: second :: _ => .error (.badPrefix first second)
      | _ => .error .abort

/-- The value of one digit byte at a position. -/
def readDigit (b : UInt8) (position : Nat) : Except Fault Nat :=
  match digitValue? b.toNat with
  | some n => .ok n
  | none => .error (.badDigit (Char.ofNat b.toNat) position)

/-- Reads digit pairs from the left; `position` is that of the first one. -/
def readPairs : (position : Nat) → Bytes → Except Fault Bytes
  | position, high :: low :: rest => do
    let h ← readDigit high position
    let l ← readDigit low (position + 1)
    let tail ← readPairs (position + 2) rest
    return UInt8.ofNat (16 * h + l) :: tail
  | _, _ => .ok []

/-- Reads plain digit pairs. -/
def decodePlain (cs : List Char) : Except Fault Bytes :=
  let bytes := Bytes.ofChars cs
  if bytes.length % 2 = 1 then .error .oddLength else readPairs 0 bytes

/-- Reads `0x` and digit pairs. -/
def decode (text : String) : Except Fault Bytes := do
  decodePlain (← stripPrefix text)

/-- The first character that is no digit, with its position. -/
def firstBadDigit : (position : Nat) → List Char → Option (Char × Nat)
  | _, [] => none
  | position, c :: rest =>
    if (digitValue? c.toNat).isNone then some (c, position) else firstBadDigit (position + 1) rest

/-- The number that digits denote, most significant first; characters that are no digits count
as zero. -/
def numberValue (cs : List Char) : Nat :=
  cs.foldl (fun n c => 16 * n + (digitValue? c.toNat).getD 0) 0

/-- A second prefix directly behind the first is skipped. -/
def dropSecondPrefix : List Char → List Char
  | '0' :: 'x' :: rest => rest
  | cs => cs

/-- Reads a number of at most 64 digits. No digits at all are refused only if nothing follows the
first prefix. -/
def decodeNumber (text : String) : Except Fault (BitVec 256) := do
  let cs ← stripPrefix text
  let ds := dropSecondPrefix cs
  if cs.isEmpty then .error .badLength
  else if (Bytes.ofChars ds).length > 64 then .error .badLength
  else match firstBadDigit 0 ds with
    | none => .ok (BitVec.ofNat 256 (numberValue ds))
    | some _ => match firstBadDigit 0 cs with
      | some (found, position) => .error (.badDigit found position)
      | none => .error .badLength

end UtxoCodec.Hex
