import UtxoCodec.Address
import UtxoCodec.SortedKinds
import UtxoCodec.Unrecognized

/-!
# Features

Data that an output carries without changing how it is consumed: at most four features, one of a kind,
increasing by kind. A feature of an unknown kind is kept if it comes as JSON and is an error in binary
form.
-/

namespace UtxoCodec

/-- A feature of an output. -/
inductive Feature where
  | sender (address : Address)
  | issuer (address : Address)
  | metadata (data : Bytes)
  | tag (tag : Bytes)
  | unknown (element : Unrecognized)
  deriving DecidableEq

namespace Feature

/-- The greatest length of metadata. -/
def greatestMetadata : Nat := 8192

/-- The greatest length of a tag. -/
def greatestTag : Nat := 64

/-- The kind byte. -/
def kind : Feature → UInt8
  | sender _ => 0
  | issuer _ => 1
  | metadata _ => 2
  | tag _ => 3
  | unknown u => u.kind

/-- Checks that bytes are present and not too many. -/
def verifyLength (what : String) (greatest : Nat) (bytes : Bytes) : Except EncodingError Unit :=
  if 1 ≤ bytes.length ∧ bytes.length ≤ greatest then .ok ()
  else .error (.invalidLength what bytes.length 1 greatest)

/-- Checks the rules of a single feature. -/
def verify : Feature → Except EncodingError Unit
  | metadata data => verifyLength "metadata" greatestMetadata data
  | tag bytes => verifyLength "tag" greatestTag bytes
  | unknown u => .error (.unrecognizedKind "feature" u.kind)
  | _ => .ok ()

/-- Reads what is behind the kind. -/
def unpackBody (checking : Checking) (kind : UInt8) : Unpacker Feature := do
  if kind = 0 then return sender (← unpack checking)
  else if kind = 1 then return issuer (← unpack checking)
  else if kind = 2 then
    return metadata (← Unpacker.sized checking "metadata" 2 1 greatestMetadata)
  else if kind = 3 then return tag (← Unpacker.sized checking "tag" 1 1 greatestTag)
  else Unpacker.unknownKind "feature" kind

instance : Packable Feature where
  pack f := match f with
    | sender a | issuer a => f.kind :: pack a
    | metadata data => f.kind :: packSized 2 data
    | tag bytes => f.kind :: packSized 1 bytes
    | unknown u => u.pack
  unpack checking := do unpackBody checking (← Unpacker.byte)
  verify := verify

/-- The JSON form. -/
def toJson (f : Feature) : Json :=
  let tagged (fields : List Json.Field) := (Json.Tagged.mk f.kind fields).toJson
  match f with
  | sender a | issuer a => tagged [("address", Wire.toJson a)]
  | metadata data => tagged [("data", Json.ofBytes data)]
  | tag bytes => tagged [("tag", Json.ofBytes bytes)]
  | unknown u => u.toJson

/-- Reads the fields behind the kind. -/
def ofTagged (t : Json.Tagged) : Except JsonError Feature :=
  open Json.Record in
  if t.kind = 0 then (sender <$> required "address").ofFields t.fields
  else if t.kind = 1 then (issuer <$> required "address").ofFields t.fields
  else if t.kind = 2 then (metadata <$> fieldOr none "data" Json.readBytes).ofFields t.fields
  else if t.kind = 3 then (tag <$> fieldOr none "tag" Json.readBytes).ofFields t.fields
  else .ok (unknown (.ofTagged t))

instance : Wire Feature where
  toJson := toJson
  ofJson j := do ofTagged (← Json.Tagged.ofJson "feature" j)

end Feature

/-- The features of an output. -/
structure Features where
  items : List Feature
  deriving DecidableEq

namespace Features

/-- The greatest number of features. -/
def greatestCount : Nat := 4

/-- No features. -/
def empty : Features := ⟨[]⟩

/-- Checks the count and the order of the kinds. -/
def verifyKinds (fs : Features) : Except EncodingError Unit :=
  SortedKinds.verify Feature.kind "feature" greatestCount fs.items

/-- Checks the count, the order of the kinds and every feature. -/
def verify (fs : Features) : Except EncodingError Unit := do
  fs.verifyKinds
  verifyAll Feature.verify fs.items

/-- Sorts features by kind and checks their count and that kinds differ. -/
def ofList (features : List Feature) : Except EncodingError Features := do
  let fs : Features := ⟨SortedKinds.sort Feature.kind features⟩
  fs.verifyKinds
  return fs

/-- The issuer. -/
def issuer? (fs : Features) : Option Address :=
  fs.items.findSome? fun
    | .issuer a => some a
    | _ => none

/-- The metadata. -/
def metadata? (fs : Features) : Option Bytes :=
  fs.items.findSome? fun
    | .metadata data => some data
    | _ => none

instance : Packable Features where
  pack fs := packCounted pack fs.items
  unpack checking := do
    let items ← Unpacker.counted checking "features" greatestCount (unpack checking)
    let fs : Features := ⟨items⟩
    checking.require fs.verifyKinds
    return fs
  verify := verify

instance : Wire Features where
  toJson fs := Wire.toJson fs.items
  ofJson j := do (ofList (← Wire.ofJson j)).mapError .encoding

end Features

end UtxoCodec
