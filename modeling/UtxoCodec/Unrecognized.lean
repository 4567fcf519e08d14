import UtxoCodec.Json.Record
import UtxoCodec.Packing

/-!
# Unrecognized elements

An element of a kind that is not known is kept as it came, so that it survives a round trip: the fields
of its JSON object, or the bytes behind its kind. Fields have no binary form; such an element is packed
as its kind byte alone, which no verified value contains.
-/

namespace UtxoCodec

/-- What is kept of an unrecognized element. -/
inductive UnrecognizedBody where
  /-- The fields of the object other than the kind. -/
  | fields (fields : List Json.Field)
  /-- The bytes behind the kind byte. -/
  | packed (bytes : Bytes)
  deriving DecidableEq

/-- An element of an unrecognized kind. -/
structure Unrecognized where
  kind : UInt8
  body : UnrecognizedBody
  deriving DecidableEq

namespace Unrecognized

/-- The binary form. -/
def pack (u : Unrecognized) : Bytes :=
  match u.body with
  | .packed bytes => u.kind :: bytes
  | .fields _ => [u.kind]

/-- The JSON form. -/
def toJson (u : Unrecognized) : Json :=
  match u.body with
  | .fields fields => (Json.Tagged.mk u.kind fields).toJson
  | .packed bytes => (Json.Tagged.mk u.kind [("opaque", Json.ofBytes bytes)]).toJson

/-- The element of a tagged object. -/
def ofTagged (t : Json.Tagged) : Unrecognized := ⟨t.kind, .fields t.fields⟩

end Unrecognized

end UtxoCodec
