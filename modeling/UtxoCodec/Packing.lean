import UtxoCodec.Error

/-!
# Packing and unpacking

The canonical binary form. Integers are little-endian at their width, collections carry a count byte,
byte strings a length, and every tagged variant begins with its kind byte.

Unpacking reads from the left and leaves the rest. It is strict or lenient: the strict reader checks
every rule of a value on the way, the lenient one only what it needs to find the parts. `verify` is
the check of a finished value. `unpackExact` is strict and wants the whole input.
-/

namespace UtxoCodec

/-- A reader of bytes: consumes the beginning of the input, or fails. -/
abbrev Unpacker := StateT Bytes (Except DecodingError)

/-- Whether an unpacker checks the rules of the values that it reads. -/
inductive Checking where
  | strict
  | lenient
  deriving DecidableEq, Repr

/-- The result of a check as a failure of unpacking; a lenient unpacker passes over it. -/
def Checking.require (checking : Checking) (result : Except EncodingError Unit) : Unpacker Unit :=
  match checking, result with
  | .strict, .error e => throw (.invalid e)
  | _, _ => pure ()

/-- A type with a binary form. -/
class Packable (α : Type) where
  /-- The binary form. It is canonical if the value verifies. -/
  pack : α → Bytes
  /-- Reads a binary form. -/
  unpack : Checking → Unpacker α
  /-- Checks the rules that a value must follow to have a canonical binary form. -/
  verify : α → Except EncodingError Unit := fun _ => .ok ()

export Packable (pack unpack verify)

/-- The length of the binary form. -/
def packedLength {α : Type} [Packable α] (a : α) : Nat := (pack a).length

/-- Applies a reader to an input that its value has to span. Trailing bytes are those beyond the
packed length of the value. -/
def Unpacker.exactly {α : Type} (reader : Unpacker α) (length : α → Nat) (input : Bytes) :
    Except DecodingError α := do
  let (a, _) ← reader.run input
  match input.length - length a with
  | 0 => return a
  | count => throw (.trailingBytes count)

/-- Unpacks a value that spans the input exactly, checking every rule on the way. -/
def unpackExact {α : Type} [Packable α] (input : Bytes) : Except DecodingError α :=
  (unpack .strict).exactly packedLength input

/-- Unpacks a value from the beginning of the input without checking it. -/
def unpackLenient {α : Type} [Packable α] (input : Bytes) : Except DecodingError α := do
  let (a, _) ← (unpack (α := α) .lenient).run input
  return a

namespace Unpacker

/-- Reads a fixed number of bytes. -/
def take (count : Nat) : Unpacker { b : Bytes // b.length = count } := fun input =>
  if h : count ≤ input.length then
    .ok (⟨input.take count, by simp [Nat.min_eq_left h]⟩, input.drop count)
  else .error .unexpectedEnd

/-- Reads a number of the given width. -/
def number (width : Nat) : Unpacker Nat := do
  let bytes ← take width
  return Bytes.value bytes.val

/-- Reads one byte. -/
def byte : Unpacker UInt8 := do
  return UInt8.ofNat (← number 1)

/-- Reads a 256-bit number. -/
def word256 : Unpacker (BitVec 256) := do
  return BitVec.ofNat 256 (← number 32)

/-- Reads a number of items. -/
def many {α : Type} (item : Unpacker α) : (count : Nat) → Unpacker (List α)
  | 0 => pure []
  | count + 1 => do
    let a ← item
    let rest ← many item count
    return a :: rest

/-- Fails on a kind byte that is not known. -/
def unknownKind {α : Type} (what : String) (kind : UInt8) : Unpacker α :=
  throw (.unknownKind what kind)

/-- Reads a count byte of at most `greatest` and that many items. -/
def counted {α : Type} (checking : Checking) (what : String) (greatest : Nat) (item : Unpacker α) :
    Unpacker (List α) := do
  let count ← number 1
  checking.require
    (if count ≤ greatest then .ok () else .error (.invalidCount what count greatest))
  many item count

/-- Reads a length of the given width within bounds and that many bytes. -/
def sized (checking : Checking) (what : String) (width least greatest : Nat) : Unpacker Bytes := do
  let length ← number width
  checking.require
    (if least ≤ length ∧ length ≤ greatest then .ok ()
     else .error (.invalidLength what length least greatest))
  let bytes ← take length
  return bytes.val

end Unpacker

/-- A 256-bit number as 32 bytes. -/
def packWord256 (n : BitVec 256) : Bytes := Bytes.littleEndian 32 n.toNat

/-- Bytes behind their length, of which the low-order bytes within the width are kept. -/
def packSized (width : Nat) (bytes : Bytes) : Bytes :=
  Bytes.littleEndian width bytes.length ++ bytes

/-- Items behind their count, of which the low-order byte is kept. -/
def packCounted {α : Type} (packItem : α → Bytes) (items : List α) : Bytes :=
  Bytes.littleEndian 1 items.length ++ items.flatMap packItem

/-- Checks every item of a list from the left. -/
def verifyAll {α : Type} (check : α → Except EncodingError Unit) :
    List α → Except EncodingError Unit
  | [] => .ok ()
  | a :: rest => do
    check a
    verifyAll check rest

end UtxoCodec
