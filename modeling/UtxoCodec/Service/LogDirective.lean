import UtxoCodec.Pattern.Match
import UtxoCodec.Pattern.Reader
import UtxoCodec.Text.Alphanumeric
import UtxoCodec.Text.Blank
import UtxoCodec.Text.Numeral
import UtxoCodec.Text.Offset

/-!
# Directives for the log

A directive has a level, or the beginning of the name of a part of the program with a level behind an
equals sign, or a span and a field of it in brackets before the level; without a level everything is
logged. A field may have a value behind an equals sign: a constant or a pattern.

The places of these pieces are found in the directive without the blanks around it, but the pieces are
cut at the same positions, in bytes, from the directive with its blanks. A cut inside a character is a
fault of its own.
-/

namespace UtxoCodec.Service

/-- How much is logged. -/
inductive LogLevel where
  | off
  | error
  | warn
  | info
  | debug
  | trace
  deriving DecidableEq

namespace LogLevel

/-- The levels by their number. -/
def all : List LogLevel := [off, error, warn, info, debug, trace]

/-- The number of a level: the more is logged, the greater. -/
def toNat (l : LogLevel) : Nat := all.idxOf l

/-- The level with a name in letters of either case, or with a number. -/
def ofChars? (cs : List Char) : Option LogLevel :=
  match Text.unsigned64? cs with
  | some n => all[n]?
  | none => match String.ofList (cs.map Char.toLower) with
    | "off" => some off
    | "error" => some error
    | "warn" => some warn
    | "info" => some info
    | "debug" => some debug
    | "trace" => some trace
    | _ => none

end LogLevel

/-- Why a directive cannot be read. -/
inductive DirectiveFault where
  | malformed
  | splitCharacter
  deriving DecidableEq

/-! ## Fields -/

/-- The value that a directive asks of a field. -/
inductive FieldValue where
  /-- A truth value or a number. No text has it. -/
  | constant (text : List Char)
  | pattern (text : List Char) (p : Pattern)

namespace FieldValue

/-- What stands in the directive. -/
def text : FieldValue → List Char
  | constant text | pattern text _ => text

/-- Whether a text is the value. -/
def matchesText : FieldValue → List Char → Bool
  | constant _, _ => false
  | pattern _ p, cs => p.matchesText cs

/-- Whether characters are an exponent and its sign, or nothing. -/
def isExponent : List Char → Bool
  | [] => true
  | c :: cs =>
    let ds := match cs with
      | '+' :: ds | '-' :: ds => ds
      | ds => ds
    (c = 'e' || c = 'E') && !ds.isEmpty && ds.all Char.isDigit

/-- Whether characters are a decimal number without sign: digits, a period somewhere among them or at
an end of them, and an exponent. -/
def isDecimal (cs : List Char) : Bool :=
  let (whole, rest) := cs.span Char.isDigit
  let (fraction, rest) := match rest with
    | '.' :: rest => rest.span Char.isDigit
    | rest => ([], rest)
  !(whole.isEmpty && fraction.isEmpty) && isExponent rest

/-- Whether characters are a truth value or a number. -/
def isConstant (cs : List Char) : Bool :=
  let number := match cs with
    | '+' :: rest | '-' :: rest => rest
    | rest => rest
  ["true", "false"].contains (String.ofList cs) ||
    ["inf", "infinity", "nan"].contains (String.ofList (number.map Char.toLower)) ||
    isDecimal number

/-- The value that a text spells. -/
def ofChars? (cs : List Char) : Option FieldValue :=
  if isConstant cs then some (.constant cs) else (Pattern.ofChars? cs).map (.pattern cs)

end FieldValue

/-- A field that a directive asks for. -/
structure FieldTest where
  name : List Char
  value : Option FieldValue

namespace FieldTest

/-- Reads a name, and the value behind an equals sign. What follows another one does not count. -/
def ofChars? (cs : List Char) : Option FieldTest :=
  match cs.span (· ≠ '=') with
  | (name, _ :: rest) =>
    (FieldValue.ofChars? (rest.takeWhile (· ≠ '='))).map fun value => ⟨name, some value⟩
  | (name, []) => some ⟨name, none⟩

/-- The test of a field, apart from what its value means. -/
def key (t : FieldTest) : List Char × Option (List Char) := (t.name, t.value.map (·.text))

end FieldTest

/-! ## Directives -/

/-- A directive of a filter. -/
structure LogDirective where
  /-- What the names of the parts of the program begin with. -/
  target : Option (List Char) := none
  span : Option (List Char) := none
  field : Option FieldTest := none
  level : LogLevel := .trace

namespace LogDirective

/-- Cuts a piece from a directive. -/
def cut (text : List Char) (start stop : Nat) : Except DirectiveFault (List Char) :=
  match Text.slice? text start stop with
  | some piece => .ok piece
  | none => .error .splitCharacter

/-- Reads the level that begins at a position; without one everything is logged. -/
def withLevel (d : LogDirective) (text : List Char) (start : Nat) :
    Except DirectiveFault LogDirective := do
  match ← cut text start (Text.byteLength text) with
  | [] => return d
  | name =>
    let some level := LogLevel.ofChars? name | throw .malformed
    return { d with level }

/-- Reads what follows the closing bracket of a span: nothing or a level. -/
def behindSpan (d : LogDirective) (text : List Char) (start : Nat) :
    List Char → Except DirectiveFault LogDirective
  | [] => return d
  | '=' :: _ => d.withLevel text (start + 1)
  | _ => throw .malformed

/-- Reads a field behind its brace, and what follows it. -/
def withField (d : LogDirective) (text : List Char) (start : Nat) (rest : List Char) :
    Except DirectiveFault LogDirective := do
  match rest.span (· ≠ '}') with
  | (field, _ :: behind) =>
    let stop := start + Text.byteLength field
    let piece ← cut text start stop
    if piece.isEmpty then throw .malformed
    let some test := FieldTest.ofChars? piece | throw .malformed
    match behind with
    | ']' :: behind => behindSpan { d with field := some test } text (stop + 2) behind
    | _ => throw .malformed
  | _ => throw .malformed

/-- Reads a span behind its bracket, and what follows it. -/
def withSpan (d : LogDirective) (text : List Char) (start : Nat) (rest : List Char) :
    Except DirectiveFault LogDirective := do
  match rest.span fun c => c ≠ ']' ∧ c ≠ '{' with
  | (name, c :: behind) =>
    let stop := start + Text.byteLength name
    let piece ← cut text start stop
    if c = ']' then behindSpan { d with span := some piece } text (stop + 1) behind
    else
      let span := if piece.isEmpty then none else some piece
      withField { d with span } text (stop + 1) behind
  | _ => throw .malformed

/-- Whether a directive without span can begin with a character. -/
def isStart (c : Char) : Bool := c = '-' || c = ':' || c = '_' || Text.isAlphanumeric c

/-- A directive without the blanks around it. -/
def trim (text : List Char) : List Char :=
  ((text.dropWhile Text.isBlankChar).reverse.dropWhile Text.isBlankChar).reverse

/-- Reads a directive. -/
def ofChars (text : List Char) : Except DirectiveFault LogDirective := do
  match trim text with
  | [] => throw .malformed
  | '[' :: rest => withSpan {} text 1 rest
  | c :: rest =>
    if ¬ isStart c then throw .malformed
    match (c :: rest).span fun c => c ≠ '=' ∧ c ≠ '[' with
    | (_, []) =>
      match LogLevel.ofChars? text with
      | some level => return { level }
      | none => return { target := some text }
    | (word, separator :: rest) =>
      let stop := Text.byteLength word
      let target ← cut text 0 stop
      if separator = '=' then withLevel { target := some target } text (stop + 1)
      else withSpan { target := some target } text (stop + 1) rest

end LogDirective

/-- Splits a text at commas. -/
def splitAtCommas (cs : List Char) : List (List Char) :=
  cs.foldr
    (fun c parts => match parts with
      | part :: more => if c = ',' then [] :: part :: more else (c :: part) :: more
      | [] => [[c]])
    [[]]

end UtxoCodec.Service
