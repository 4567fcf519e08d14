import UtxoCodec.Json.Basic
import UtxoCodec.Binary64.Shortest

/-!
# Compact JSON text

Values are written without blanks, fields in the order in which the object holds them. In strings
only the quotation mark, the backslash and the controls below the space are escaped, so that a
written value has no line break.
-/

namespace UtxoCodec.Json

/-- The four hexadecimal digits of an escape for a character below 256. -/
def unicodeEscape (c : Char) : List Char :=
  let digits := Nat.toDigits 16 c.toNat
  '\\' :: 'u' :: List.replicate (4 - digits.length) '0' ++ digits

/-- The form of a character inside a string. -/
def escaped (c : Char) : List Char :=
  match c with
  | '"' => ['\\', '"']
  | '\\' => ['\\', '\\']
  | '\x08' => ['\\', 'b']
  | '\x0c' => ['\\', 'f']
  | '\n' => ['\\', 'n']
  | '\r' => ['\\', 'r']
  | '\t' => ['\\', 't']
  | c => if c.toNat < 32 then unicodeEscape c else [c]

/-- A string between quotation marks. -/
def quoted (s : String) : List Char :=
  '"' :: s.toList.flatMap escaped ++ ['"']

/-- The text of a number. -/
def Number.chars : Number → List Char
  | .integer value => (toString value).toList
  | .binary value => value.chars

mutual

/-- The characters of a value. -/
def chars : Json → List Char
  | .null => ['n', 'u', 'l', 'l']
  | .bool true => ['t', 'r', 'u', 'e']
  | .bool false => ['f', 'a', 'l', 's', 'e']
  | .number value => value.chars
  | .string value => quoted value
  | .array items => '[' :: itemChars items ++ [']']
  | .object fields => '{' :: fieldChars fields ++ ['}']

/-- Items separated by commas. -/
def itemChars : List Json → List Char
  | [] => []
  | [item] => chars item
  | item :: rest => chars item ++ ',' :: itemChars rest

/-- Fields separated by commas. -/
def fieldChars : List Field → List Char
  | [] => []
  | [(key, value)] => quoted key ++ ':' :: chars value
  | (key, value) :: rest => quoted key ++ ':' :: chars value ++ ',' :: fieldChars rest

end

/-- The compact text of a value. -/
def text (j : Json) : String := String.ofList j.chars

end UtxoCodec.Json
