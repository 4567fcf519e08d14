import UtxoCodec.Environment
import UtxoCodec.Text.Alphanumeric
import UtxoCodec.Text.Blank

/-!
# Environment files

A file of assignments `NAME=value`, an `export` in front being optional. A value may be quoted, and a
quoted value may have several lines. A dollar sign is replaced by the variable that it names, with or
without braces, but not between apostrophes. Text behind a blank and `#` is a comment.

Assignments take effect one after the other, and only where a variable has no value yet. The first
malformed line ends the reading. A value that no variable can hold leaves no environment.
-/

namespace UtxoCodec.Environment

/-! ## Logical lines -/

/-- Where the reading of a logical line stands. -/
inductive LineState where
  | plain
  | escape
  | strong
  | strongEscape
  | weak
  | weakEscape
  | blank
  deriving DecidableEq

namespace LineState

/-- The state behind a character outside quotes. -/
def enter (c : Char) : LineState :=
  match c with
  | '\\' => escape
  | '"' => weak
  | '\'' => strong
  | _ => plain

/-- The state behind one more character. -/
def step (state : LineState) (c : Char) : LineState :=
  match state with
  | plain => if Text.isBlankChar c ∧ c ≠ '\n' ∧ c ≠ '\r' then blank else enter c
  | blank => enter c
  | escape => plain
  | weak => if c = '\\' then weakEscape else if c = '"' then plain else weak
  | weakEscape => weak
  | strong => if c = '\\' then strongEscape else if c = '\'' then plain else strong
  | strongEscape => strong

end LineState

/-- Splits a logical line from a text: it ends with the first newline outside quotes and escapes, or in
front of a comment, whose line goes with it. None if the text ends before. `isFresh` says that only
blanks were read; a comment then makes up the line. -/
def splitLine? : LineState → (isFresh : Bool) → (read : List Char) → List Char →
    Option (List Char × List Char)
  | state, _, read, [] =>
    if state = .plain ∧ ¬ read.isEmpty then some (read.reverse, []) else none
  | state, isFresh, read, c :: rest =>
    if c = '#' ∧ (isFresh ∨ state = .blank) then
      some (if isFresh then [] else read.reverse, (rest.dropWhile (· ≠ '\n')).drop 1)
    else
      let next := state.step c
      if c = '\n' ∧ next = .plain then some (read.reverse, rest)
      else splitLine? next (isFresh && Text.isBlankChar c) (c :: read) rest

/-! ## Values -/

/-- The quotes that a value is in. -/
inductive Quoting where
  | none
  | strong
  | weak
  deriving DecidableEq

/-- What is read at the moment. -/
inductive ValueMode where
  | text
  /-- Behind a backslash. -/
  | escape
  /-- A name behind a dollar sign, most recent character first. -/
  | name (read : List Char)
  /-- A name behind a dollar sign and a brace. -/
  | bracedName (read : List Char)
  /-- Behind a blank that ends the value. -/
  | ended
  /-- Within a comment. -/
  | comment

/-- The reading of a value: the output so far, most recent character first. -/
structure ValueReading where
  quoting : Quoting
  mode : ValueMode
  output : List Char

namespace ValueReading

/-- Appends a character. -/
def push (r : ValueReading) (c : Char) : ValueReading :=
  { r with mode := .text, output := c :: r.output }

/-- Appends the value of a variable, if it has one. -/
def substitute (r : ValueReading) (env : Environment) (name : List Char) : ValueReading :=
  let value := (env.get? (String.ofList name.reverse)).getD ""
  { r with mode := .text, output := value.toList.reverse ++ r.output }

/-- Takes a character where neither an escape nor a name is read. -/
def stepText (r : ValueReading) (c : Char) : ValueReading :=
  match r.quoting with
  | .strong => if c = '\'' then { r with quoting := .none } else r.push c
  | .weak =>
    if c = '$' then { r with mode := .name [] }
    else if c = '"' then { r with quoting := .none }
    else if c = '\\' then { r with mode := .escape }
    else r.push c
  | .none =>
    if c = '$' then { r with mode := .name [] }
    else if c = '\'' then { r with quoting := .strong }
    else if c = '"' then { r with quoting := .weak }
    else if c = '\\' then { r with mode := .escape }
    else if c = ' ' ∨ c = '\t' then { r with mode := .ended }
    else r.push c

/-- Takes one character. The character behind a name without braces is text, also if it is a quote. -/
def step? (env : Environment) (r : ValueReading) (c : Char) : Option ValueReading :=
  match r.mode with
  | .text => some (r.stepText c)
  | .escape =>
    if c = 'n' then some (r.push '\n')
    else if c = '\\' ∨ c = '\'' ∨ c = '"' ∨ c = '$' ∨ c = ' ' then some (r.push c)
    else none
  | .name read =>
    if Text.isAlphanumeric c then some { r with mode := .name (c :: read) }
    else if c = '{' ∧ read.isEmpty then some { r with mode := .bracedName [] }
    else
      let r := r.substitute env read
      some (if c = '$' then { r with mode := .name [] } else r.push c)
  | .bracedName read =>
    some (if c = '}' then r.substitute env read else { r with mode := .bracedName (c :: read) })
  | .ended =>
    if c = ' ' ∨ c = '\t' then some r
    else if c = '#' then some { r with mode := .comment }
    else none
  | .comment => some r

/-- The value, if quotes and braces are closed. -/
def result? (env : Environment) (r : ValueReading) : Option String :=
  match r.mode, r.quoting with
  | .bracedName _, _ | _, .strong | _, .weak => none
  | .name read, .none => some (String.ofList (r.substitute env read).output.reverse)
  | _, .none => some (String.ofList r.output.reverse)

end ValueReading

/-- Reads a value. -/
def readValue? (env : Environment) (cs : List Char) : Option String :=
  (cs.foldlM (ValueReading.step? env) ⟨.none, .text, []⟩).bind (ValueReading.result? env)

/-! ## Assignments -/

/-- Splits off the name of a variable. -/
def splitName? (cs : List Char) : Option (List Char × List Char) :=
  let isBegin (c : Char) := c.isAlpha || c = '_'
  if cs.head?.any isBegin then some (cs.span fun c => c.isAlphanum || c = '_' || c = '.') else none

/-- Passes over an equals sign. -/
def dropEquals? : List Char → Option (List Char)
  | '=' :: rest => some rest
  | _ => none

/-- Passes over blanks. -/
def dropBlank (cs : List Char) : List Char := cs.dropWhile Text.isBlankChar

/-- Splits a line into a name and the text of a value. -/
def splitAssignment? (cs : List Char) : Option (List Char × List Char) := do
  let (name, rest) ← splitName? cs
  let rest := dropBlank rest
  match dropEquals? rest with
  | some value => return (name, value)
  | none =>
    if String.ofList name ≠ "export" then none
    let (name, rest) ← splitName? rest
    return (name, ← dropEquals? (dropBlank rest))

/-- Whether there is nothing but a comment, if at all. -/
def isVoid (cs : List Char) : Bool := cs.isEmpty || cs.head? = some '#'

/-- What a line says. -/
inductive LineContent where
  | void
  | assignment (name value : String)
  | malformed

/-- Reads a line. -/
def readLine (env : Environment) (line : List Char) : LineContent :=
  let cs := dropBlank (dropBlank line.reverse).reverse
  if isVoid cs then .void
  else
    let assignment? := do
      let (name, value) ← splitAssignment? cs
      let value := dropBlank value
      let value ← if isVoid value then some "" else readValue? env value
      return LineContent.assignment (String.ofList name) value
    assignment?.getD .malformed

/-- Takes the assignments of at most `bound` lines. -/
def takeLines? (env : Environment) : (bound : Nat) → List Char → Option Environment
  | 0, _ => some env
  | bound + 1, cs =>
    match splitLine? .plain true [] cs with
    | none => some env
    | some (line, rest) =>
      match readLine env line with
      | .void => takeLines? env bound rest
      | .assignment name value =>
        (env.setNew? name value).bind fun env => takeLines? env bound rest
      | .malformed => some env

/-- The environment with the assignments of a file. -/
def takeFile? (env : Environment) (text : String) : Option Environment :=
  let cs := text.toList
  let cs := if cs.head? = some '\ufeff' then cs.drop 1 else cs
  takeLines? env (cs.length + 1) cs

/-- The texts between an opening brace and the next closing one. -/
def bracedTexts : List Char → List String
  | [] => []
  | c :: rest =>
    if c = '{' then String.ofList (rest.takeWhile (· ≠ '}')) :: bracedTexts rest
    else bracedTexts rest

/-- The names of variables that a file may ask for: its words, with and without the marks that a name
may have, and what stands in braces. -/
def mentionedNames (text : String) : List String :=
  let words (isPart : Char → Bool) :=
    (text.toList.splitBy fun a b => isPart a == isPart b).map String.ofList
  words Text.isAlphanumeric ++ (words fun c => c.isAlphanum || c = '_' || c = '.') ++
    bracedTexts text.toList

end UtxoCodec.Environment
