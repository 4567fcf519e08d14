import UtxoCodec.Binary64

/-!
# Values of configuration files

The values of TOML. Fields of a table stand in the order of the file and may repeat a key, so that a
reader can tell a repeated field from a single one.
-/

namespace UtxoCodec.Toml

/-- A value of a configuration file. -/
inductive Value where
  | string (value : String)
  | integer (value : Int)
  | float (value : Binary64)
  /-- An infinity, or what is no number. -/
  | notFinite
  | bool (value : Bool)
  /-- A date or a time. It counts as a table without any field of interest. -/
  | moment
  | array (items : List Value)
  /-- A table. An open one was begun by a dotted key and takes further dotted keys. -/
  | table (isOpen : Bool) (fields : List (String × Value))

/-- A field of a table. -/
abbrev Field := String × Value

namespace Field

/-- Gives the first field with a key another value. -/
def replaceFirst (key : String) (value : Value) : List Field → List Field
  | [] => []
  | field :: rest =>
    if field.1 = key then (key, value) :: rest else field :: replaceFirst key value rest

/-- Adds a value under a dotted key. The tables on the way are open; all but the last part of the key
must not name anything else. -/
def insert? : (path : List String) → Value → List Field → Option (List Field)
  | [], _, _ => none
  | [key], value, fields => some (fields ++ [(key, value)])
  | key :: path, value, fields =>
    match fields.lookup key with
    | some (.table true inner) =>
      (insert? path value inner).map fun inner => replaceFirst key (.table true inner) fields
    | some _ => none
    | none => (insert? path value []).map fun inner => fields ++ [(key, .table true inner)]

end Field

end UtxoCodec.Toml
