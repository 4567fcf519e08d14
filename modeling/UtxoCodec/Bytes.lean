/-!
# Byte strings

Bytes are lists, so that packing is concatenation and unpacking is recursion on the input. Integers
of a fixed width are written least significant byte first. The two directions are inverse on numbers
that fit the width; a larger number keeps its low-order bytes only.
-/

namespace UtxoCodec

/-- A byte string. -/
abbrev Bytes := List UInt8

namespace Bytes

/-- The `width` low-order bytes of `n`, least significant first. -/
def littleEndian : (width : Nat) → (n : Nat) → Bytes
  | 0, _ => []
  | width + 1, n => UInt8.ofNat n :: littleEndian width (n / 256)

/-- The number that a byte string denotes, least significant byte first. -/
def value : Bytes → Nat
  | [] => 0
  | b :: rest => b.toNat + 256 * value rest

/-- The number of byte strings of a length: every number below it fits that many bytes. -/
def capacity : (length : Nat) → Nat
  | 0 => 1
  | length + 1 => 256 * capacity length

/-- The UTF-8 form of characters. -/
def ofChars (cs : List Char) : Bytes :=
  cs.flatMap String.utf8EncodeChar

@[simp] theorem length_littleEndian (width n : Nat) : (littleEndian width n).length = width := by
  induction width generalizing n with
  | zero => rfl
  | succ width ih => simp [littleEndian, ih]

/-- Writing keeps the number modulo the capacity of the width. -/
theorem value_littleEndian (width n : Nat) :
    value (littleEndian width n) = n % capacity width := by
  induction width generalizing n with
  | zero => simp [littleEndian, value, capacity, Nat.mod_one]
  | succ width ih =>
    have low : (UInt8.ofNat n).toNat = n % 256 := by simp
    rw [littleEndian, value, ih, low, capacity, Nat.mod_mul]

/-- Bytes written from their own value are unchanged. -/
theorem littleEndian_value (b : Bytes) : littleEndian b.length (value b) = b := by
  induction b with
  | nil => rfl
  | cons x rest ih =>
    have hx : x.toNat < 256 := x.toNat_lt
    have head : UInt8.ofNat (x.toNat + 256 * value rest) = x := by
      apply UInt8.toNat_inj.mp
      simp only [UInt8.toNat_ofNat']
      omega
    have tail : (x.toNat + 256 * value rest) / 256 = value rest := by omega
    simp only [List.length_cons, littleEndian, value, head, tail, ih]

/-- A byte string denotes less than the capacity of its length. -/
theorem value_lt (b : Bytes) : value b < capacity b.length := by
  induction b with
  | nil => simp [value, capacity]
  | cons x rest ih =>
    have hx : x.toNat < 256 := x.toNat_lt
    simp only [value, List.length_cons, capacity]
    omega

end Bytes

end UtxoCodec
