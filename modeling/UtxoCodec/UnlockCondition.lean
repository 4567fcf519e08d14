import UtxoCodec.Address
import UtxoCodec.Amount
import UtxoCodec.SortedKinds
import UtxoCodec.Unrecognized

/-!
# Unlock conditions

The conditions under which an output may be consumed: at most seven, one of a kind, increasing by kind.
A condition of an unknown kind is kept if it comes as JSON and is an error in binary form.
-/

namespace UtxoCodec

/-- Returns an amount to an address if anyone else consumes the output. -/
structure StorageDepositReturn where
  returnAddress : Address
  amount : Amount
  deriving DecidableEq

/-- Locks the output until a time. -/
structure Timelock where
  unixTime : UInt32
  deriving DecidableEq

/-- Hands the output to an address once a time has passed. -/
structure Expiration where
  returnAddress : Address
  unixTime : UInt32
  deriving DecidableEq

namespace StorageDepositReturn

/-- The fields of the JSON form. -/
def record : Json.Record StorageDepositReturn :=
  open Json.Record in mk <$> required "returnAddress" <*> required "amount"

/-- The fields in JSON. -/
def fields (c : StorageDepositReturn) : List Json.Field :=
  [("returnAddress", Wire.toJson c.returnAddress), ("amount", Wire.toJson c.amount)]

instance : Wire StorageDepositReturn := ⟨fun c => .object c.fields, record.ofObjectOrArray⟩

end StorageDepositReturn

namespace Timelock

/-- The fields of the JSON form. -/
def record : Json.Record Timelock :=
  open Json.Record in mk <$> required "unixTime"

/-- The fields in JSON. -/
def fields (c : Timelock) : List Json.Field := [("unixTime", Wire.toJson c.unixTime)]

instance : Wire Timelock := ⟨fun c => .object c.fields, record.ofObjectOrArray⟩

end Timelock

namespace Expiration

/-- The fields of the JSON form. -/
def record : Json.Record Expiration :=
  open Json.Record in mk <$> required "returnAddress" <*> required "unixTime"

/-- The fields in JSON. -/
def fields (c : Expiration) : List Json.Field :=
  [("returnAddress", Wire.toJson c.returnAddress), ("unixTime", Wire.toJson c.unixTime)]

instance : Wire Expiration := ⟨fun c => .object c.fields, record.ofObjectOrArray⟩

end Expiration

/-- A condition for consuming an output. -/
inductive UnlockCondition where
  /-- The address that may consume the output. -/
  | address (address : Address)
  | storageDepositReturn (condition : StorageDepositReturn)
  | timelock (condition : Timelock)
  | expiration (condition : Expiration)
  /-- The address that may change the state of an alias. -/
  | stateController (address : Address)
  /-- The address that may govern an alias. -/
  | governor (address : Address)
  /-- The alias that controls a foundry, for good. -/
  | immutableAlias (address : Address)
  | unknown (element : Unrecognized)
  deriving DecidableEq

namespace UnlockCondition

/-- The kind byte. -/
def kind : UnlockCondition → UInt8
  | address _ => 0
  | storageDepositReturn _ => 1
  | timelock _ => 2
  | expiration _ => 3
  | stateController _ => 4
  | governor _ => 5
  | immutableAlias _ => 6
  | unknown u => u.kind

/-- Checks the rules of a single condition. -/
def verify : UnlockCondition → Except EncodingError Unit
  | storageDepositReturn c => c.amount.verify
  | timelock c => if c.unixTime = 0 then .error (.nullTimestamp "timelock") else .ok ()
  | expiration c => if c.unixTime = 0 then .error (.nullTimestamp "expiration") else .ok ()
  | immutableAlias a =>
    match a with
    | .alias _ => .ok ()
    | a => .error (.disallowed "foundry" "immutable alias address" a.kind)
  | unknown u => .error (.unrecognizedKind "unlock condition" u.kind)
  | _ => .ok ()

/-- The bytes behind the kind of a known condition. -/
def packBody : UnlockCondition → Bytes
  | address a | stateController a | governor a | immutableAlias a => pack a
  | storageDepositReturn c => pack c.returnAddress ++ pack c.amount
  | timelock c => Bytes.littleEndian 4 c.unixTime.toNat
  | expiration c => pack c.returnAddress ++ Bytes.littleEndian 4 c.unixTime.toNat
  | unknown _ => []

/-- Reads a time. -/
def unpackTime : Unpacker UInt32 := do
  return UInt32.ofNat (← Unpacker.number 4)

/-- Reads what is behind the kind. -/
def unpackBody (checking : Checking) (kind : UInt8) : Unpacker UnlockCondition := do
  if kind = 0 then return address (← unpack checking)
  else if kind = 1 then
    let returnAddress ← unpack checking
    return storageDepositReturn ⟨returnAddress, ← unpack checking⟩
  else if kind = 2 then return timelock ⟨← unpackTime⟩
  else if kind = 3 then
    let returnAddress ← unpack checking
    return expiration ⟨returnAddress, ← unpackTime⟩
  else if kind = 4 then return stateController (← unpack checking)
  else if kind = 5 then return governor (← unpack checking)
  else if kind = 6 then return immutableAlias (← unpack checking)
  else Unpacker.unknownKind "unlock condition" kind

instance : Packable UnlockCondition where
  pack c := match c with
    | unknown u => u.pack
    | c => c.kind :: c.packBody
  unpack checking := do
    let kind ← Unpacker.byte
    let c ← unpackBody checking kind
    checking.require c.verify
    return c
  verify := verify

/-- The JSON form. -/
def toJson (c : UnlockCondition) : Json :=
  let tagged (fields : List Json.Field) := (Json.Tagged.mk c.kind fields).toJson
  match c with
  | address a | stateController a | governor a | immutableAlias a =>
    tagged [("address", Wire.toJson a)]
  | storageDepositReturn c => tagged c.fields
  | timelock c => tagged c.fields
  | expiration c => tagged c.fields
  | unknown u => u.toJson

/-- Reads the fields behind the kind. -/
def ofTagged (t : Json.Tagged) : Except JsonError UnlockCondition :=
  let withAddress (make : Address → UnlockCondition) :=
    (make <$> Json.Record.required "address").ofFields t.fields
  if t.kind = 0 then withAddress address
  else if t.kind = 1 then (StorageDepositReturn.record.ofFields t.fields).map storageDepositReturn
  else if t.kind = 2 then (Timelock.record.ofFields t.fields).map timelock
  else if t.kind = 3 then (Expiration.record.ofFields t.fields).map expiration
  else if t.kind = 4 then withAddress stateController
  else if t.kind = 5 then withAddress governor
  else if t.kind = 6 then withAddress immutableAlias
  else .ok (unknown (.ofTagged t))

instance : Wire UnlockCondition where
  toJson := toJson
  ofJson j := do ofTagged (← Json.Tagged.ofJson "unlock condition" j)

end UnlockCondition

/-- The unlock conditions of an output. -/
structure UnlockConditions where
  items : List UnlockCondition
  deriving DecidableEq

namespace UnlockConditions

/-- The greatest number of unlock conditions. -/
def greatestCount : Nat := 7

/-- Checks the count and the order of the kinds. -/
def verifyKinds (cs : UnlockConditions) : Except EncodingError Unit :=
  SortedKinds.verify UnlockCondition.kind "unlock condition" greatestCount cs.items

/-- Checks the count, the order of the kinds and every condition. -/
def verify (cs : UnlockConditions) : Except EncodingError Unit := do
  cs.verifyKinds
  verifyAll UnlockCondition.verify cs.items

/-- Sorts conditions by kind and checks their count and that kinds differ. -/
def ofList (conditions : List UnlockCondition) : Except EncodingError UnlockConditions := do
  let cs : UnlockConditions := ⟨SortedKinds.sort UnlockCondition.kind conditions⟩
  cs.verifyKinds
  return cs

/-- The condition of a kind. -/
def get? (cs : UnlockConditions) (kind : UInt8) : Option UnlockCondition :=
  cs.items.find? (·.kind == kind)

/-- The address that may consume the output. -/
def address? (cs : UnlockConditions) : Option Address :=
  cs.items.findSome? fun
    | .address a => some a
    | _ => none

/-- The address in the condition of a foundry. -/
def immutableAlias? (cs : UnlockConditions) : Option Address :=
  cs.items.findSome? fun
    | .immutableAlias a => some a
    | _ => none

/-- The storage deposit to return. -/
def storageDepositReturn? (cs : UnlockConditions) : Option StorageDepositReturn :=
  cs.items.findSome? fun
    | .storageDepositReturn c => some c
    | _ => none

instance : Packable UnlockConditions where
  pack cs := packCounted pack cs.items
  unpack checking := do
    let items ← Unpacker.counted checking "unlock conditions" greatestCount (unpack checking)
    let cs : UnlockConditions := ⟨items⟩
    checking.require cs.verifyKinds
    return cs
  verify := verify

instance : Wire UnlockConditions where
  toJson cs := Wire.toJson cs.items
  ofJson j := do (ofList (← Wire.ofJson j)).mapError .encoding

end UnlockConditions

end UtxoCodec
