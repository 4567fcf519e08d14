import UtxoCodec.Json.Number

/-!
# Tokens of JSON text

The scanner is a fold over the characters with a mode that says what the current token is so far.
It takes back nothing: a character that ends a number or a word is scanned again between tokens.
Strings take any character from the space on; escapes of surrogates have to come in pairs.
-/

namespace UtxoCodec.Json

/-- A token: punctuation, or a value without parts. -/
inductive Token where
  | openArray
  | closeArray
  | openObject
  | closeObject
  | comma
  | colon
  | atom (value : Json)
  deriving DecidableEq

namespace Token

/-- What has been read of the current token, most recent character first. -/
inductive Mode where
  | between
  | number (read : List Char)
  | word (read : List Char)
  | inString (read : List Char)
  /-- Behind a backslash; `high` is a high surrogate whose partner has to follow. -/
  | escape (read : List Char) (high : Option Nat)
  /-- Within the four digits of a code unit. -/
  | codeUnit (read : List Char) (high : Option Nat) (digits : Nat) (value : Nat)
  /-- Behind a high surrogate. -/
  | expectPartner (read : List Char) (high : Nat)

/-- A scan in progress: the mode and the tokens found, most recent first. -/
structure Scan where
  mode : Mode
  found : List Token

/-- Whether a character can stand in a number. -/
def isNumberChar (c : Char) : Bool :=
  c.isDigit || c = '-' || c = '+' || c = '.' || c = 'e' || c = 'E'

/-- The value of a bare word. -/
def ofWord? (cs : List Char) : Option Json :=
  if cs = ['n', 'u', 'l', 'l'] then some .null
  else if cs = ['t', 'r', 'u', 'e'] then some (.bool true)
  else if cs = ['f', 'a', 'l', 's', 'e'] then some (.bool false)
  else none

/-- Starts a token. -/
def start? (found : List Token) (c : Char) : Option Scan :=
  match c with
  | ' ' | '\n' | '\t' | '\r' => some ⟨.between, found⟩
  | '[' => some ⟨.between, openArray :: found⟩
  | ']' => some ⟨.between, closeArray :: found⟩
  | '{' => some ⟨.between, openObject :: found⟩
  | '}' => some ⟨.between, closeObject :: found⟩
  | ',' => some ⟨.between, comma :: found⟩
  | ':' => some ⟨.between, colon :: found⟩
  | '"' => some ⟨.inString [], found⟩
  | c =>
    if c.isDigit || c = '-' then some ⟨.number [c], found⟩
    else if c.isLower then some ⟨.word [c], found⟩
    else none

/-- Ends a number or a word. -/
def finish? (s : Scan) : Option (List Token) :=
  match s.mode with
  | .between => some s.found
  | .number read => (Number.ofChars? read.reverse).map fun n => atom (.number n) :: s.found
  | .word read => (ofWord? read.reverse).map fun value => atom value :: s.found
  | _ => none

/-- The character of an escape other than a code unit. -/
def simpleEscape? (c : Char) : Option Char :=
  match c with
  | '"' => some '"'
  | '\\' => some '\\'
  | '/' => some '/'
  | 'b' => some '\x08'
  | 'f' => some '\x0c'
  | 'n' => some '\n'
  | 'r' => some '\r'
  | 't' => some '\t'
  | _ => none

/-- The value of a hexadecimal digit. -/
def hexValue? (c : Char) : Option Nat :=
  if c.isDigit then some (c.toNat - 48)
  else if 'a' ≤ c ∧ c ≤ 'f' then some (c.toNat - 87)
  else if 'A' ≤ c ∧ c ≤ 'F' then some (c.toNat - 55)
  else none

/-- The mode behind a complete code unit. -/
def afterCodeUnit? (read : List Char) (high : Option Nat) (unit : Nat) : Option Mode :=
  let isHigh := 0xd800 ≤ unit ∧ unit ≤ 0xdbff
  let isLow := 0xdc00 ≤ unit ∧ unit ≤ 0xdfff
  match high with
  | some h =>
    if isLow then
      some (.inString (Char.ofNat (0x10000 + (h - 0xd800) * 1024 + (unit - 0xdc00)) :: read))
    else none
  | none =>
    if isHigh then some (.expectPartner read unit)
    else if isLow then none
    else some (.inString (Char.ofNat unit :: read))

/-- Takes one character. -/
def step? (s : Scan) (c : Char) : Option Scan :=
  match s.mode with
  | .between => start? s.found c
  | .number read =>
    if isNumberChar c then some { s with mode := .number (c :: read) }
    else (finish? s).bind fun found => start? found c
  | .word read =>
    if c.isLower then some { s with mode := .word (c :: read) }
    else (finish? s).bind fun found => start? found c
  | .inString read =>
    if c = '"' then some ⟨.between, atom (.string (String.ofList read.reverse)) :: s.found⟩
    else if c = '\\' then some { s with mode := .escape read none }
    else if c.toNat < 32 then none
    else some { s with mode := .inString (c :: read) }
  | .escape read high =>
    if c = 'u' then some { s with mode := .codeUnit read high 0 0 }
    else if high.isSome then none
    else (simpleEscape? c).map fun e => { s with mode := .inString (e :: read) }
  | .codeUnit read high digits value =>
    (hexValue? c).bind fun d =>
      let value := 16 * value + d
      if digits < 3 then some { s with mode := .codeUnit read high (digits + 1) value }
      else (afterCodeUnit? read high value).map fun mode => { s with mode := mode }
  | .expectPartner read high =>
    if c = '\\' then some { s with mode := .escape read (some high) } else none

/-- The tokens of a text. -/
def scan? (cs : List Char) : Option (List Token) :=
  (cs.foldlM step? ⟨.between, []⟩).bind fun s => (finish? s).map List.reverse

end Token

end UtxoCodec.Json
