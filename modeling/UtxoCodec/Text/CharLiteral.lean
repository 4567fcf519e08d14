import UtxoCodec.Text.Unprintable

/-!
# Quoted characters

Error texts show a single character between apostrophes. Tab, carriage return, newline, NUL, the
apostrophe and the backslash have short escapes. Other characters that cannot be printed are shown
by their code point in hexadecimal; every other character stands for itself.
-/

namespace UtxoCodec.Text

/-- What stands between the apostrophes for `c`. -/
def escapeChar (c : Char) : String :=
  match c with
  | '\x00' => "\\0"
  | '\t' => "\\t"
  | '\r' => "\\r"
  | '\n' => "\\n"
  | '\'' => "\\'"
  | '\\' => "\\\\"
  | c =>
    if isUnprintable c then
      "\\u\x7b" ++ String.ofList (Nat.toDigits 16 c.toNat) ++ "\x7d"
    else
      c.toString

/-- The quoted form of `c`. -/
def charLiteral (c : Char) : String :=
  "'" ++ escapeChar c ++ "'"

end UtxoCodec.Text
