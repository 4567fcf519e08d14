import UtxoCodec.Bytes

/-!
# BLAKE2b-256

The unkeyed BLAKE2b hash with a digest of 32 bytes. Input is absorbed in blocks of 128 bytes; the
last block is filled up with zeros and is never empty unless the input is. Main statement: a digest
has 32 bytes (`length_digest256`).
-/

namespace UtxoCodec.Blake2b

/-- The initial chaining words. -/
def initial : Vector UInt64 8 :=
  #v[0x6a09e667f3bcc908, 0xbb67ae8584caa73b, 0x3c6ef372fe94f82b, 0xa54ff53a5f1d36f1,
     0x510e527fade682d1, 0x9b05688c2b3e6c1f, 0x1f83d9abfb41bd6b, 0x5be0cd19137e2179]

/-- The order in which each of the twelve rounds reads the words of a block. -/
def schedule : List (Vector (Fin 16) 16) :=
  let r0 := #v[0, 1, 2, 3, 4, 5, 6, 7, 8, 9, 10, 11, 12, 13, 14, 15]
  let r1 := #v[14, 10, 4, 8, 9, 15, 13, 6, 1, 12, 0, 2, 11, 7, 5, 3]
  [ r0, r1,
    #v[11, 8, 12, 0, 5, 2, 15, 13, 10, 14, 3, 6, 7, 1, 9, 4],
    #v[7, 9, 3, 1, 13, 12, 11, 14, 2, 6, 5, 10, 4, 0, 15, 8],
    #v[9, 0, 5, 7, 2, 4, 10, 15, 14, 1, 11, 12, 6, 8, 3, 13],
    #v[2, 12, 6, 10, 0, 11, 8, 3, 4, 13, 7, 5, 15, 14, 1, 9],
    #v[12, 5, 1, 15, 14, 13, 4, 10, 0, 7, 6, 3, 9, 2, 8, 11],
    #v[13, 11, 7, 14, 12, 1, 3, 9, 5, 0, 15, 4, 8, 6, 2, 10],
    #v[6, 15, 14, 9, 11, 3, 0, 8, 12, 2, 13, 7, 1, 4, 10, 5],
    #v[10, 2, 8, 4, 7, 6, 1, 5, 15, 11, 9, 14, 3, 12, 13, 0],
    r0, r1 ]

/-- Rotation of a word to the right, for amounts from 1 to 63. -/
def rotateRight (x amount : UInt64) : UInt64 :=
  (x >>> amount) ||| (x <<< (64 - amount))

/-- Mixes two words of a block into four words of the working state. -/
def mix (v : Vector UInt64 16) (a b c d : Fin 16) (x y : UInt64) : Vector UInt64 16 :=
  let v := v.set a (v[a] + v[b] + x)
  let v := v.set d (rotateRight (v[d] ^^^ v[a]) 32)
  let v := v.set c (v[c] + v[d])
  let v := v.set b (rotateRight (v[b] ^^^ v[c]) 24)
  let v := v.set a (v[a] + v[b] + y)
  let v := v.set d (rotateRight (v[d] ^^^ v[a]) 16)
  let v := v.set c (v[c] + v[d])
  v.set b (rotateRight (v[b] ^^^ v[c]) 63)

/-- One round: the four columns of the working state, then its four diagonals. -/
def round (block : Vector UInt64 16) (v : Vector UInt64 16) (order : Vector (Fin 16) 16) :
    Vector UInt64 16 :=
  let v := mix v 0 4 8 12 block[order[0]] block[order[1]]
  let v := mix v 1 5 9 13 block[order[2]] block[order[3]]
  let v := mix v 2 6 10 14 block[order[4]] block[order[5]]
  let v := mix v 3 7 11 15 block[order[6]] block[order[7]]
  let v := mix v 0 5 10 15 block[order[8]] block[order[9]]
  let v := mix v 1 6 11 12 block[order[10]] block[order[11]]
  let v := mix v 2 7 8 13 block[order[12]] block[order[13]]
  mix v 3 4 9 14 block[order[14]] block[order[15]]

/-- The sixteen words of a block. Missing bytes count as zero. -/
def words (block : Bytes) : Vector UInt64 16 :=
  Vector.ofFn fun i => UInt64.ofNat (Bytes.value ((block.drop (8 * i.val)).take 8))

/-- Absorbs one block. `count` is the number of input bytes absorbed so far, this block included. -/
def compress (h : Vector UInt64 8) (block : Bytes) (count : Nat) (isLast : Bool) :
    Vector UInt64 8 :=
  let v : Vector UInt64 16 := h ++ initial
  let v := v.set 12 (v[12] ^^^ UInt64.ofNat count)
  let v := v.set 13 (v[13] ^^^ UInt64.ofNat (count / UInt64.size))
  let v := if isLast then v.set 14 (v[14] ^^^ 0xffffffffffffffff) else v
  let v := schedule.foldl (round (words block)) v
  Vector.ofFn fun i => h[i] ^^^ v[i.val] ^^^ v[i.val + 8]

/-- Absorbs the remaining input after `count` bytes. -/
def absorb (h : Vector UInt64 8) (count : Nat) (input : Bytes) : Vector UInt64 8 :=
  if input.length ≤ 128 then
    compress h input (count + input.length) true
  else
    absorb (compress h (input.take 128) (count + 128) false) (count + 128) (input.drop 128)
termination_by input.length
decreasing_by simp only [List.length_drop]; omega

/-- The 32-byte BLAKE2b digest of `input`. -/
def digest256 (input : Bytes) : Bytes :=
  -- The parameter block: digest length 32, no key, fanout and depth 1.
  let start := initial.set 0 (initial[0] ^^^ 0x01010020)
  let h := absorb start 0 input
  [h[0], h[1], h[2], h[3]].flatMap fun word => Bytes.littleEndian 8 word.toNat

theorem length_digest256 (input : Bytes) : (digest256 input).length = 32 := by
  simp [digest256]

end UtxoCodec.Blake2b
