/-!
# Positions in bytes

A position in a text counts the bytes of UTF-8 in front of it. A piece between two positions exists
only if neither of them lies inside a character.
-/

namespace UtxoCodec.Text

/-- The number of bytes of characters. -/
def byteLength : List Char → Nat
  | [] => 0
  | c :: rest => c.utf8Size + byteLength rest

/-- What follows a position. -/
def dropBytes? : List Char → Nat → Option (List Char)
  | cs, 0 => some cs
  | [], _ + 1 => none
  | c :: rest, n => if c.utf8Size ≤ n then dropBytes? rest (n - c.utf8Size) else none

/-- What stands in front of a position. -/
def takeBytes? : List Char → Nat → Option (List Char)
  | _, 0 => some []
  | [], _ + 1 => none
  | c :: rest, n =>
    if c.utf8Size ≤ n then (takeBytes? rest (n - c.utf8Size)).map (c :: ·) else none

/-- The piece from one position to another one. -/
def slice? (cs : List Char) (start stop : Nat) : Option (List Char) :=
  (dropBytes? cs start).bind fun rest => takeBytes? rest (stop - start)

end UtxoCodec.Text
