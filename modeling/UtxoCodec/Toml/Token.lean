/-!
# Tokens of configuration files

The scanner is a fold over the characters with a mode that says what the current token is so far. A
carriage return in front of a newline is dropped beforehand; no other one is accepted.

Strings are basic or literal by their delimiter, and blocks of several lines if they begin with three
of them. A block ends with three delimiters, in front of which up to two more belong to it.
-/

namespace UtxoCodec.Toml

/-- A token. -/
inductive Token where
  | newline
  | blank (chars : List Char)
  | comment
  | equals
  | period
  | comma
  | colon
  | plus
  | openBrace
  | closeBrace
  | openBracket
  | closeBracket
  /-- A bare word: a key, a number, a part of a date, or a truth value. -/
  | word (chars : List Char)
  | string (value : String) (isBlock : Bool)
  deriving DecidableEq

namespace Token

/-- The delimiter of a string. -/
inductive Quote where
  | basic
  | literal
  deriving DecidableEq

/-- The character of a delimiter. -/
def Quote.char : Quote → Char
  | .basic => '"'
  | .literal => '\''

/-- What has been read of a string, most recent character first. -/
structure Body where
  quote : Quote
  isBlock : Bool
  read : List Char

/-- What has been read of the current token, most recent character first. -/
inductive Mode where
  | between
  | blank (read : List Char)
  | comment
  | word (read : List Char)
  /-- Behind `count` delimiters, one or two, that begin a string. -/
  | opening (quote : Quote) (count : Nat)
  /-- Behind the delimiters of a block. -/
  | blockStart (quote : Quote)
  | inside (body : Body)
  /-- Behind `count` delimiters within a block. -/
  | closing (body : Body) (count : Nat)
  | escape (body : Body)
  /-- Within the digits of a code point, of which `left` are missing. -/
  | codePoint (body : Body) (left : Nat) (value : Nat)
  /-- Behind a backslash and blanks in a block; a newline has to follow. -/
  | lineEnd (body : Body)
  /-- Behind a newline that does not count. -/
  | lineStart (body : Body)

/-- A scan in progress: the mode and the tokens found, most recent first. -/
structure Scan where
  mode : Mode
  found : List Token

/-- Whether a character can stand in a word. -/
def isWordChar (c : Char) : Bool := c.isAlphanum || c = '-' || c = '_'

/-- Whether a character can stand in a string as it is. -/
def isPlain (c : Char) : Bool := c = '\t' || (32 ≤ c.toNat && c.toNat ≠ 127)

/-- Starts a token. -/
def start? (found : List Token) (c : Char) : Option Scan :=
  match c with
  | '\n' => some ⟨.between, newline :: found⟩
  | ' ' | '\t' => some ⟨.blank [c], found⟩
  | '#' => some ⟨.comment, found⟩
  | '=' => some ⟨.between, equals :: found⟩
  | '.' => some ⟨.between, period :: found⟩
  | ',' => some ⟨.between, comma :: found⟩
  | ':' => some ⟨.between, colon :: found⟩
  | '+' => some ⟨.between, plus :: found⟩
  | '{' => some ⟨.between, openBrace :: found⟩
  | '}' => some ⟨.between, closeBrace :: found⟩
  | '[' => some ⟨.between, openBracket :: found⟩
  | ']' => some ⟨.between, closeBracket :: found⟩
  | '"' => some ⟨.opening .basic 1, found⟩
  | '\'' => some ⟨.opening .literal 1, found⟩
  | c => if isWordChar c then some ⟨.word [c], found⟩ else none

/-- The token of a complete string. -/
def ofBody (b : Body) : Token := string (String.ofList b.read.reverse) b.isBlock

/-- The string with delimiters that belong to it. -/
def Body.withQuotes (b : Body) (count : Nat) : Body :=
  { b with read := List.replicate count b.quote.char ++ b.read }

/-- Ends the current token, if it may end here. -/
def finish? (s : Scan) : Option (List Token) :=
  match s.mode with
  | .between => some s.found
  | .blank read => some (blank read.reverse :: s.found)
  | .comment => some (comment :: s.found)
  | .word read => some (word read.reverse :: s.found)
  | .opening _ 2 => some (string "" false :: s.found)
  | .closing b count =>
    if 3 ≤ count then some (ofBody (b.withQuotes (count - 3)) :: s.found) else none
  | _ => none

/-- The character of an escape other than a code point. -/
def simpleEscape? (c : Char) : Option Char :=
  match c with
  | '"' => some '"'
  | '\\' => some '\\'
  | 'b' => some '\x08'
  | 'f' => some '\x0c'
  | 'n' => some '\n'
  | 'r' => some '\r'
  | 't' => some '\t'
  | _ => none

/-- The value of a digit, of either case, in a base of at most sixteen. -/
def digitValue? (base : Nat) (c : Char) : Option Nat :=
  let n :=
    if c.isDigit then c.toNat - 48
    else if 'a' ≤ c ∧ c ≤ 'f' then c.toNat - 87
    else if 'A' ≤ c ∧ c ≤ 'F' then c.toNat - 55
    else base
  if n < base then some n else none

/-- The string with one more character. -/
def Body.push (b : Body) (c : Char) : Body := { b with read := c :: b.read }

/-- Takes a character within a string. -/
def inside? (found : List Token) (b : Body) (c : Char) : Option Scan :=
  if c = b.quote.char then
    if b.isBlock then some ⟨.closing b 1, found⟩ else some ⟨.between, ofBody b :: found⟩
  else if c = '\n' then
    if b.isBlock then some ⟨.inside (b.push c), found⟩ else none
  else if c = '\\' ∧ b.quote = .basic then some ⟨.escape b, found⟩
  else if isPlain c then some ⟨.inside (b.push c), found⟩
  else none

/-- Takes the character behind a backslash. -/
def escape? (found : List Token) (b : Body) (c : Char) : Option Scan :=
  match simpleEscape? c with
  | some e => some ⟨.inside (b.push e), found⟩
  | none =>
    if c = 'u' then some ⟨.codePoint b 4 0, found⟩
    else if c = 'U' then some ⟨.codePoint b 8 0, found⟩
    else if ¬ b.isBlock then none
    else if c = '\n' then some ⟨.lineStart b, found⟩
    else if c = ' ' ∨ c = '\t' then some ⟨.lineEnd b, found⟩
    else none

/-- The character of a code point. -/
def ofCodePoint? (n : Nat) : Option Char :=
  if h : n.isValidChar then some (Char.ofNatAux n h) else none

/-- Takes one character. -/
def step? (s : Scan) (c : Char) : Option Scan :=
  let restart := (finish? s).bind fun found => start? found c
  match s.mode with
  | .between => start? s.found c
  | .blank read =>
    if c = ' ' ∨ c = '\t' then some { s with mode := .blank (c :: read) } else restart
  | .comment => if c = '\t' ∨ 32 ≤ c.toNat then some s else restart
  | .word read => if isWordChar c then some { s with mode := .word (c :: read) } else restart
  | .opening quote count =>
    if c = quote.char then
      if count = 1 then some { s with mode := .opening quote 2 }
      else some { s with mode := .blockStart quote }
    else if count = 1 then inside? s.found ⟨quote, false, []⟩ c
    else restart
  | .blockStart quote =>
    if c = '\n' then some { s with mode := .inside ⟨quote, true, []⟩ }
    else inside? s.found ⟨quote, true, []⟩ c
  | .inside b => inside? s.found b c
  | .closing b count =>
    if c = b.quote.char then
      if count = 4 then some ⟨.between, ofBody (b.withQuotes 2) :: s.found⟩
      else some { s with mode := .closing b (count + 1) }
    else if count < 3 then inside? s.found (b.withQuotes count) c
    else restart
  | .escape b => escape? s.found b c
  | .codePoint b left value =>
    (digitValue? 16 c).bind fun d =>
      let value := 16 * value + d
      if left = 1 then
        (ofCodePoint? value).map fun e => { s with mode := .inside (b.push e) }
      else some { s with mode := .codePoint b (left - 1) value }
  | .lineEnd b =>
    if c = ' ' ∨ c = '\t' then some s
    else if c = '\n' then some { s with mode := .lineStart b }
    else none
  | .lineStart b =>
    if c = ' ' ∨ c = '\t' ∨ c = '\n' then some s else inside? s.found b c

/-- The characters without the carriage returns that stand in front of a newline. -/
def foldLineEnds : List Char → List Char
  | [] => []
  | c :: rest =>
    if c = '\r' ∧ rest.head? = some '\n' then foldLineEnds rest else c :: foldLineEnds rest

/-- The tokens of a text. -/
def scan? (cs : List Char) : Option (List Token) :=
  ((foldLineEnds cs).foldlM step? ⟨.between, []⟩).bind fun s => (finish? s).map List.reverse

end Token

end UtxoCodec.Toml
