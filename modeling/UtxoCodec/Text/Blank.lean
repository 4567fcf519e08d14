/-!
# Blank characters and lines

Blank characters are those with the property White_Space. A text is split into lines at every
newline.
-/

namespace UtxoCodec.Text

/-- Whether a character has the property White_Space. -/
def isBlankChar (c : Char) : Bool :=
  let n := c.toNat
  (9 ≤ n && n ≤ 13) || n == 0x20 || n == 0x85 || n == 0xa0 || n == 0x1680 ||
    (0x2000 ≤ n && n ≤ 0x200a) || n == 0x2028 || n == 0x2029 || n == 0x202f || n == 0x205f ||
    n == 0x3000

/-- Whether characters are blank, all of them. -/
def isBlank (cs : List Char) : Bool := cs.all isBlankChar

/-- The lines of a text without their newlines. What follows the last newline is a line too, also if
it is empty. -/
def lines : List Char → List (List Char)
  | [] => [[]]
  | c :: rest =>
    if c = '\n' then [] :: lines rest
    else match lines rest with
      | line :: more => (c :: line) :: more
      | [] => [[c]]

end UtxoCodec.Text
