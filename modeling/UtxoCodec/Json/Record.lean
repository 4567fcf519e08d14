import UtxoCodec.Error

/-!
# Reading JSON

`Wire` joins the writer and the reader of a type. A record reader is built from field readers and
knows the names of its fields in the order of declaration. Of the faults of an object the one reported
is that which comes first: bad values and fields that are not allowed in the order of the object, then
absent fields in the order of declaration. Some records are read from an array of their fields too.
-/

namespace UtxoCodec

/-- The JSON form of a type. -/
class Wire (α : Type) where
  /-- The JSON form, fields in the order of declaration. -/
  toJson : α → Json
  /-- Reads the JSON form. -/
  ofJson : Json → Except JsonError α

/-- The JSON form as a value, fields in increasing order. -/
def toWire {α : Type} [Wire α] (a : α) : Json := (Wire.toJson a).sorted

/-- Reads the JSON form. -/
def fromWire {α : Type} [Wire α] (j : Json) : Except JsonError α := Wire.ofJson j

namespace Json

/-! ## Simple values -/

/-- Reads a string. -/
def readString : Json → Except JsonError String
  | .string s => .ok s
  | _ => .error .invalidType

/-- Reads an integer below a limit. -/
def readNat (limit : Nat) : Json → Except JsonError Nat
  | .number (.integer n) => if 0 ≤ n ∧ n < limit then .ok n.toNat else .error .invalidValue
  | _ => .error .invalidType

/-- Reads every item of an array. -/
def readArray {α : Type} (read : Json → Except JsonError α) : Json → Except JsonError (List α)
  | .array items => items.mapM read
  | _ => .error .invalidType

/-- Reads a value that may be null. -/
def readNullable {α : Type} (read : Json → Except JsonError α) : Json → Except JsonError (Option α)
  | .null => .ok none
  | j => (read j).map some

instance : Wire String := ⟨.string, readString⟩

instance : Wire UInt8 :=
  ⟨fun n => nat n.toNat, fun j => (readNat UInt8.size j).map UInt8.ofNat⟩

instance : Wire UInt16 :=
  ⟨fun n => nat n.toNat, fun j => (readNat UInt16.size j).map UInt16.ofNat⟩

instance : Wire UInt32 :=
  ⟨fun n => nat n.toNat, fun j => (readNat UInt32.size j).map UInt32.ofNat⟩

instance : Wire UInt64 :=
  ⟨fun n => nat n.toNat, fun j => (readNat UInt64.size j).map UInt64.ofNat⟩

instance {α : Type} [Wire α] : Wire (List α) :=
  ⟨fun as => .array (as.map Wire.toJson), readArray Wire.ofJson⟩

/-- Bytes as prefixed hexadecimal text. -/
def ofBytes (bytes : Bytes) : Json := .string (Hex.encode bytes)

/-- Reads bytes from prefixed hexadecimal text. -/
def readBytes (j : Json) : Except JsonError Bytes := do
  let text ← readString j
  (Hex.decode text).mapError (.badBytes text)

/-- A 256-bit number as prefixed hexadecimal text. -/
def ofWord256 (n : BitVec 256) : Json := .string (Hex.encodeNumber n.toNat)

/-- Reads a 256-bit number from prefixed hexadecimal text. -/
def readWord256 (j : Json) : Except JsonError (BitVec 256) := do
  let text ← readString j
  (Hex.decodeNumber text).mapError (.badNumber text)

/-! ## Records -/

/-- A reading that failed, with the place of the fault: the earliest place is reported. -/
abbrev Placed := Except (Nat × JsonError)

/-- Joins two readings; of two faults the earlier one counts, the left one if they are level. -/
def Placed.both {α β γ : Type} (f : α → β → γ) : Placed α → Placed β → Placed γ
  | .ok a, .ok b => .ok (f a b)
  | .error e, .ok _ => .error e
  | .ok _, .error e => .error e
  | .error e, .error e' => .error (if e'.1 < e.1 then e' else e)

/-- Where the fields of a record come from. -/
structure Source where
  /-- The value of the field with a name and declared position, and the place of the value. -/
  find? : String → Nat → Option (Nat × Json)
  /-- The fault of an absent field with a name and declared position, and its place. -/
  absent : String → Nat → Nat × JsonError

/-- A reader of records: the declared names, and how to read with a source when `position` fields are
declared before. -/
structure Record (α : Type) where
  names : List String
  read : Source → (position : Nat) → Placed α

namespace Record

/-- Joins two records, the fields of the first declared before those of the second. -/
def both {α β γ : Type} (f : α → β → γ) (r : Record α) (s : Record β) : Record γ where
  names := r.names ++ s.names
  read source position :=
    Placed.both f (r.read source position) (s.read source (position + r.names.length))

instance : Functor Record where
  map f r := ⟨r.names, fun source position => (r.read source position).map f⟩

instance : Seq Record where
  seq r s := both (fun f a => f a) r (s ())

/-- A field that has to be present, or has a default. -/
def fieldOr {α : Type} (default? : Option α) (name : String) (read : Json → Except JsonError α) :
    Record α where
  names := [name]
  read source position :=
    match source.find? name position with
    | some (place, j) => (read j).mapError (place, ·)
    | none => match default? with
      | some a => .ok a
      | none => .error (source.absent name position)

/-- A field that has to be present. -/
def required {α : Type} [Wire α] (name : String) : Record α := fieldOr none name Wire.ofJson

/-- A field that may be absent but not null. -/
def withDefault {α : Type} [Wire α] (name : String) (default : α) : Record α :=
  fieldOr (some default) name Wire.ofJson

/-- A field that may be absent or null. -/
def optional {α : Type} [Wire α] (name : String) : Record (Option α) :=
  fieldOr (some none) name (readNullable Wire.ofJson)

/-- The position and value of the first field with a name. -/
def findFrom? (name : String) : (place : Nat) → List Field → Option (Nat × Json)
  | _, [] => none
  | place, (key, j) :: rest =>
    if key = name then some (place, j) else findFrom? name (place + 1) rest

/-- The fields of an object. Faults of values come in the order of the object, absent fields after
all of them. -/
def objectSource (fields : List Field) : Source where
  find? name _ := findFrom? name 0 fields
  absent name position := (fields.length + position, .missingField name)

/-- The items of an array as fields in the order of declaration. -/
def arraySource (items : List Json) : Source where
  find? _ position := items[position]?.map (position, ·)
  absent _ position := (position, .invalidLength)

/-- The first field that is not declared, as a fault at its place. -/
def refuseUnknown (names : List String) : (place : Nat) → List Field → Placed Unit
  | _, [] => .ok ()
  | place, (key, _) :: rest =>
    if names.contains key then refuseUnknown names (place + 1) rest
    else .error (place, .unknownField key)

/-- Forgets the place of a fault. -/
def unplaced {α : Type} (p : Placed α) : Except JsonError α := p.mapError Prod.snd

/-- Reads the fields of an object and ignores others. -/
def ofFields {α : Type} (r : Record α) (fields : List Field) : Except JsonError α :=
  unplaced (r.read (objectSource fields) 0)

/-- Reads the fields of an object and refuses others. -/
def ofFieldsOnly {α : Type} (r : Record α) (fields : List Field) : Except JsonError α :=
  unplaced (Placed.both (fun a _ => a) (r.read (objectSource fields) 0)
    (refuseUnknown r.names 0 fields))

/-- Reads the fields of a record from the items of an array. -/
def ofItems {α : Type} (r : Record α) (items : List Json) : Except JsonError α := do
  let a ← unplaced (r.read (arraySource items) 0)
  if r.names.length < items.length then .error .invalidLength else return a

/-- Reads an object and ignores other fields. -/
def ofObject {α : Type} (r : Record α) : Json → Except JsonError α
  | .object fields => r.ofFields fields
  | _ => .error .invalidType

/-- Reads an object, ignoring other fields, or an array. -/
def ofObjectOrArray {α : Type} (r : Record α) : Json → Except JsonError α
  | .object fields => r.ofFields fields
  | .array items => r.ofItems items
  | _ => .error .invalidType

/-- Reads an object without other fields, or an array. -/
def ofObjectOnlyOrArray {α : Type} (r : Record α) : Json → Except JsonError α
  | .object fields => r.ofFieldsOnly fields
  | .array items => r.ofItems items
  | _ => .error .invalidType

/-- The fields of an object that a record does not declare. -/
def others {α : Type} (r : Record α) (fields : List Field) : List Field :=
  fields.filter fun field => !r.names.contains field.1

end Record

/-! ## Tagged objects -/

/-- A tagged object: its kind, and the other fields. -/
structure Tagged where
  kind : UInt8
  fields : List Field

/-- The object with a leading kind. -/
def Tagged.toJson (t : Tagged) : Json :=
  .object (("type", nat t.kind.toNat) :: t.fields)

/-- Reads the kind of an object, with `what` for error texts. -/
def Tagged.ofJson (what : String) : Json → Except JsonError Tagged
  | .object fields =>
    match find? fields "type" with
    | none => .error (.missingField "type")
    | some (.number (.integer n)) =>
      if 0 ≤ n ∧ n < UInt64.size then
        if n < UInt8.size then .ok ⟨UInt8.ofNat n.toNat, erase fields "type"⟩
        else .error (.kindOutOfRange what n.toNat)
      else .error (.kindNotInteger what)
    | some _ => .error (.kindNotInteger what)
  | _ => .error .invalidType

/-- A field that is written only if there is a value. -/
def optionalField {α : Type} (name : String) (write : α → Json) : Option α → List Field
  | some a => [(name, write a)]
  | none => []

/-- A field that is written unless the value is empty. -/
def nonemptyField {α : Type} (name : String) (write : List α → Json) : List α → List Field
  | [] => []
  | as => [(name, write as)]

end Json

end UtxoCodec
