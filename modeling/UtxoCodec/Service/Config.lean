import UtxoCodec.Derivation.Cache
import UtxoCodec.Toml.Document

/-!
# Configuration

A configuration file has a section for the protocol and one for the cache. Both, and the fields in
them, may be absent; other sections and fields are ignored. A section may also be written as an array
of its fields; a date in place of a section sets nothing. A section or field that is known may not be
repeated.
-/

namespace UtxoCodec.Service

/-- The configuration of the service. -/
structure Config where
  /-- The file with the protocol parameters. -/
  parametersPath : Option String
  /-- The number of derived identifiers to remember. -/
  cacheCapacity : Nat
  deriving DecidableEq

namespace Config

open Toml

/-- The configuration where nothing is configured. -/
def default : Config := ⟨none, DerivationCache.defaultCapacity⟩

/-- The value of a field that is not repeated; none if it is. -/
def unique? (fields : List Field) (key : String) : Option (Option Value) :=
  match fields.filter (·.1 == key) with
  | [] => some none
  | [field] => some (some field.2)
  | _ => none

/-- The value of the only field of a section; none if the section is malformed. -/
def onlyField? (key : String) : Option Value → Option (Option Value)
  | none => some none
  | some (.table _ fields) => unique? fields key
  | some .moment => some none
  | some (.array []) => some none
  | some (.array [value]) => some (some value)
  | _ => none

/-- Reads a path, if there is one. -/
def readPath? : Option Value → Option (Option String)
  | none => some none
  | some (.string path) => some (some path)
  | _ => none

/-- Reads a capacity; without one it is the default. -/
def readCapacity? : Option Value → Option Nat
  | none => some DerivationCache.defaultCapacity
  | some (.integer n) => if 0 ≤ n then some n.toNat else none
  | _ => none

/-- The configuration in a file. -/
def ofText? (text : String) : Option Config := do
  let fields ← Toml.ofText? text
  let protocol ← unique? fields "protocol"
  let cache ← unique? fields "cache"
  return {
    parametersPath := ← readPath? (← onlyField? "parameters_path" protocol)
    cacheCapacity := ← readCapacity? (← onlyField? "capacity" cache) }

end Config

end UtxoCodec.Service
