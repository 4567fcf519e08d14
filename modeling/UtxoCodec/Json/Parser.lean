import UtxoCodec.Json.Token

/-!
# Reading JSON text

Tokens are folded with a stack of open arrays and objects. `parseEntries?` keeps the fields of objects
as they stand in the text, repeated keys included; `parse?` gives the value that they denote, in which
the last of several fields with one key counts and fields increase by key. A text whose values nest
too deeply is refused. There is one failure, since no caller tells them apart.
-/

namespace UtxoCodec.Json

/-- An open array or object with what it holds so far, most recent first. An object also has the key
whose value is being read. -/
inductive Frame where
  | array (items : List Json)
  | object (fields : List Field) (key : String)

/-- What may follow. -/
inductive Phase where
  | value
  /-- Behind the opening of an array. -/
  | firstItem
  /-- Behind the opening of an object. -/
  | firstKey
  /-- Behind a comma in an object. -/
  | key
  /-- Behind a key. -/
  | colon
  /-- Behind a complete value. -/
  | after (value : Json)

/-- A reading in progress, innermost frame first. -/
structure Reading where
  frames : List Frame
  phase : Phase

namespace Reading

/-- The number of values that may be nested in one another. -/
def depthLimit : Nat := 127

/-- Opens an array or object. -/
def push? (r : Reading) (frame : Frame) (phase : Phase) : Option Reading :=
  if r.frames.length < depthLimit then some ⟨frame :: r.frames, phase⟩ else none

/-- Takes the beginning of a value. -/
def beginValue? (r : Reading) : Token → Option Reading
  | .atom v => some { r with phase := .after v }
  | .openArray => r.push? (.array []) .firstItem
  | .openObject => r.push? (.object [] "") .firstKey
  | _ => none

/-- Takes a key of the innermost object. -/
def takeKey? (r : Reading) : Token → Option Reading
  | .atom (.string key) =>
    match r.frames with
    | .object fields _ :: outer => some ⟨.object fields key :: outer, .colon⟩
    | _ => none
  | _ => none

/-- Takes what follows a complete value. -/
def afterValue? (r : Reading) (v : Json) (t : Token) : Option Reading :=
  match r.frames, t with
  | .array items :: outer, .comma => some ⟨.array (v :: items) :: outer, .value⟩
  | .array items :: outer, .closeArray => some ⟨outer, .after (.array (v :: items).reverse)⟩
  | .object fields key :: outer, .comma => some ⟨.object ((key, v) :: fields) "" :: outer, .key⟩
  | .object fields key :: outer, .closeObject =>
    some ⟨outer, .after (.object ((key, v) :: fields).reverse)⟩
  | _, _ => none

/-- Takes one token. -/
def step? (r : Reading) (t : Token) : Option Reading :=
  match r.phase with
  | .value => r.beginValue? t
  | .firstItem =>
    match r.frames, t with
    | .array _ :: outer, .closeArray => some ⟨outer, .after (.array [])⟩
    | _, _ => r.beginValue? t
  | .firstKey =>
    match r.frames, t with
    | .object _ _ :: outer, .closeObject => some ⟨outer, .after (.object [])⟩
    | _, _ => r.takeKey? t
  | .key => r.takeKey? t
  | .colon =>
    match t with
    | .colon => some { r with phase := .value }
    | _ => none
  | .after v => r.afterValue? v t

/-- The value, if the text is complete. -/
def result? (r : Reading) : Option Json :=
  match r.frames, r.phase with
  | [], .after v => some v
  | _, _ => none

end Reading

/-- What tokens spell, with the fields of objects in the order of the tokens. -/
def ofTokens? (ts : List Token) : Option Json :=
  (ts.foldlM Reading.step? ⟨[], .value⟩).bind Reading.result?

/-- What a text spells, with the fields of objects as they stand in it. -/
def parseEntries? (text : String) : Option Json :=
  (Token.scan? text.toList).bind ofTokens?

/-- The value of a text. -/
def parse? (text : String) : Option Json :=
  (parseEntries? text).map sorted

end UtxoCodec.Json
