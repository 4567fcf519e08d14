import UtxoCodec.Toml.Number
import UtxoCodec.Toml.Value

/-!
# Reading configuration files

Values and lines are read from the tokens of a file. A number or a date consists of several tokens: a
period, a plus sign and colons separate their parts. Dates and times are told by their shape alone.

Arrays and inline tables nest. Reading them is bounded by twice the number of tokens, since of two
calls one inside the other at least one takes a token.
-/

namespace UtxoCodec.Toml

/-- A reader of tokens. -/
abbrev TokenReader := StateT (List Token) Option

namespace TokenReader

/-- Refuses the input. -/
def refuse {α : Type} : TokenReader α := fun _ => none

/-- The value of an option, refusing the input if there is none. -/
def ofOption {α : Type} (a : Option α) : TokenReader α := fun tokens => a.map (·, tokens)

/-- Takes a token. -/
def next : TokenReader Token
  | t :: rest => some (t, rest)
  | [] => none

/-- Takes a token if it is the given one. -/
def eat (token : Token) : TokenReader Bool
  | t :: rest => some (if t = token then (true, rest) else (false, t :: rest))
  | [] => some (false, [])

/-- Takes the given token. -/
def expect (token : Token) : TokenReader Unit := do
  unless ← eat token do refuse

/-- Passes over blanks. -/
def skipBlank : TokenReader Unit
  | .blank _ :: rest => some ((), rest)
  | tokens => some ((), tokens)

/-- Takes a word. -/
def word : TokenReader (List Char) := do
  match ← next with
  | .word cs => return cs
  | _ => refuse

/-- Passes over a comment, the end of the line, or the end of the file. -/
def endLine : TokenReader Unit
  | .comment :: .newline :: rest => some ((), rest)
  | [.comment] => some ((), [])
  | .newline :: rest => some ((), rest)
  | [] => some ((), [])
  | _ => none

/-- Passes over blanks, comments and newlines. -/
def skipLines : TokenReader Unit := fun tokens =>
  some ((), tokens.dropWhile fun
    | .blank _ | .comment | .newline => true
    | _ => false)

/-! ## Keys -/

/-- Takes a part of a key. -/
def keyPart : TokenReader String := do
  match ← next with
  | .word cs => return String.ofList cs
  | .string value false => return value
  | _ => refuse

/-- Takes the parts of a key behind the first one. At most `bound` are taken. -/
def moreKeyParts : (bound : Nat) → TokenReader (List String)
  | 0 => return []
  | bound + 1 => do
    skipBlank
    if ← eat .period then
      skipBlank
      let part ← keyPart
      return part :: (← moreKeyParts bound)
    else return []

/-- Takes a key with its periods. -/
def key : TokenReader (List String) := do
  let part ← keyPart
  let tokens ← get
  return part :: (← moreKeyParts tokens.length)

/-! ## Values without parts -/

/-- Takes what follows the whole part of a float: a fraction behind a period, and an exponent. -/
def floatTail (isNegative : Bool) (whole suffix fraction : List Char) : TokenReader Value := do
  let float (exponent : List Char) : TokenReader Value := do
    return .float (← ofOption (Number.float? isNegative whole fraction exponent))
  let exponent (sign cs : List Char) : TokenReader Value := do
    match ← ofOption (Number.digits? 10 true cs) with
    | (ds, []) => float (sign ++ ds)
    | _ => refuse
  match suffix with
  | [] => float []
  | c :: rest =>
    if c ≠ 'e' ∧ c ≠ 'E' then refuse
    else match rest with
      | [] =>
        let _ ← eat .plus
        exponent [] (← word)
      | '-' :: ds => exponent ['-'] ds
      | ds => exponent [] ds

/-- Takes a float that begins with a word. -/
def float (cs : List Char) (hasFraction : Bool) : TokenReader Value := do
  let (isNegative, cs) := Number.splitSign cs
  let (whole, suffix) ← ofOption (Number.digits? 10 false cs)
  if hasFraction then
    unless suffix.isEmpty do refuse
    let (fraction, suffix) ← ofOption (Number.digits? 10 true (← word))
    floatTail isNegative whole suffix fraction
  else floatTail isNegative whole suffix []

/-- Takes a number that begins with a word. -/
def number (cs : List Char) : TokenReader Value := do
  let integer (base : Nat) (isNegative : Bool) (ds : List Char) : TokenReader Value := do
    return .integer (← ofOption (Number.integer? base isNegative ds))
  match cs with
  | '0' :: 'x' :: ds => integer 16 false ds
  | '0' :: 'o' :: ds => integer 8 false ds
  | '0' :: 'b' :: ds => integer 2 false ds
  | _ =>
    let (isNegative, ds) := Number.splitSign cs
    if cs.contains 'e' || cs.contains 'E' then float cs false
    else if ← eat .period then float cs true
    else if ds = ['i', 'n', 'f'] ∨ ds = ['n', 'a', 'n'] then return .notFinite
    else integer 10 isNegative ds

/-- Passes over an hour that a space separates from its date. -/
def skipHour : TokenReader Unit
  | .blank [' '] :: .word _ :: rest => some ((), rest)
  | tokens => some ((), tokens)

/-- Takes a token and the word behind it, if the token is there. -/
def optionalPart (token : Token) : TokenReader Unit := do
  if ← eat token then let _ ← word

/-- Takes what follows the first word of a date or time. -/
def moment (colonTaken : Bool) : TokenReader Value := do
  skipHour
  if colonTaken || (← eat .colon) then
    let _ ← word
    expect .colon
    let _ ← word
    optionalPart .period
    optionalPart .plus
    optionalPart .colon
  return .moment

/-- Whether a word has a part in front of another one. -/
def hasPair (a b : Char) : List Char → Bool
  | c :: d :: rest => (c = a && d = b) || hasPair a b (d :: rest)
  | _ => false

/-- Whether a word is a date: it has a `T`, or a hyphen behind its first character that does not belong
to an exponent. -/
def isDate (cs : List Char) : Bool :=
  cs.contains 'T' || cs.contains 't' ||
    ((cs.drop 1).contains '-' && !hasPair 'e' '-' cs && !hasPair 'E' '-' cs)

/-- Takes a truth value, a number, a date or a time that begins with a word. -/
def scalar (cs : List Char) : TokenReader Value := do
  if cs = ['t', 'r', 'u', 'e'] then return .bool true
  else if cs = ['f', 'a', 'l', 's', 'e'] then return .bool false
  else if cs = ['i', 'n', 'f'] ∨ cs = ['n', 'a', 'n'] ∨
      cs.head?.any (fun c => c.isDigit || c = '-') then
    if isDate cs then moment false
    else if ← eat .colon then moment true
    else number cs
  else refuse

/-! ## Values -/

mutual

/-- Takes a value. -/
def value : (bound : Nat) → TokenReader Value
  | 0 => refuse
  | bound + 1 => do
    match ← next with
    | .string s _ => return .string s
    | .word cs => scalar cs
    | .plus => number (← word)
    | .openBracket => return .array (← items bound)
    | .openBrace =>
      skipBlank
      if ← eat .closeBrace then return .table false []
      return .table false (← fields bound [])
    | _ => refuse

/-- Takes the items of an array and its end. -/
def items : (bound : Nat) → TokenReader (List Value)
  | 0 => refuse
  | bound + 1 => do
    skipLines
    if ← eat .closeBracket then return []
    let item ← value bound
    skipLines
    if ← eat .comma then return item :: (← items bound)
    expect .closeBracket
    return [item]

/-- Takes the fields of an inline table behind those `read`, and its end. -/
def fields : (bound : Nat) → (read : List Field) → TokenReader (List Field)
  | 0, _ => refuse
  | bound + 1, read => do
    let path ← key
    skipBlank
    expect .equals
    skipBlank
    let item ← value bound
    let read ← ofOption (Field.insert? path item read)
    skipBlank
    if ← eat .closeBrace then return read
    expect .comma
    skipBlank
    fields bound read

end

end TokenReader

/-! ## Files -/

/-- A part of a file: the fields that stand below a heading. Headings in double brackets begin an item
of an array of tables. -/
structure Section where
  path : List String
  isItem : Bool
  fields : List Field

namespace Section

open TokenReader

/-- Takes a heading. -/
def heading : TokenReader Section := do
  expect .openBracket
  let isItem ← eat .openBracket
  skipBlank
  let path ← key
  skipBlank
  expect .closeBracket
  if isItem then expect .closeBracket
  skipBlank
  endLine
  return ⟨path, isItem, []⟩

/-- Takes a field of a section. -/
def field (s : Section) : TokenReader Section := do
  let path ← key
  skipBlank
  expect .equals
  skipBlank
  let tokens ← get
  let item ← value (2 * tokens.length + 2)
  let fields ← ofOption (Field.insert? path item s.fields)
  skipBlank
  endLine
  return { s with fields }

/-- Takes the rest of a section and the sections behind it; `bound` is greater than the number of
lines. -/
def rest (s : Section) : (bound : Nat) → TokenReader (List Section)
  | 0 => refuse
  | bound + 1 => do
    skipLines
    match ← get with
    | [] => return [s]
    | .openBracket :: _ => return s :: (← rest (← heading) bound)
    | _ => rest (← s.field) bound

/-- The sections of a text, the first without a heading. -/
def ofText? (text : String) : Option (List Section) := do
  let cs := text.toList
  let tokens ← Token.scan? (if cs.head? = some '\ufeff' then cs.drop 1 else cs)
  let (sections, _) ← (rest ⟨[], false, []⟩ (tokens.length + 1)).run tokens
  return sections

end Section

end UtxoCodec.Toml
