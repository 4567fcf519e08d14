import UtxoCodec.Binary64

/-!
# JSON values

Objects are lists of fields. A writer chooses the order of the fields; `sorted` gives the value in
which fields increase by key at every depth, the form in which values are compared and read. Keys
are ordered by code point, which is the order of their UTF-8 forms. Equality is decidable.
-/

namespace UtxoCodec

/-- A JSON number: an integer, or a finite binary number written with a fraction or exponent. -/
inductive Json.Number where
  | integer (value : Int)
  | binary (value : Binary64)
  deriving DecidableEq, Repr

/-- A JSON value. -/
inductive Json where
  | null
  | bool (value : Bool)
  | number (value : Json.Number)
  | string (value : String)
  | array (items : List Json)
  | object (fields : List (String × Json))
  deriving Repr, Inhabited

namespace Json

/-- A field of an object. -/
abbrev Field := String × Json

/-- The number of an integer. -/
def nat (n : Nat) : Json := .number (.integer n)

/-! ## Equality -/

mutual

/-- Decides equality of values. -/
def decEq : (a b : Json) → Decidable (a = b)
  | .null, .null => isTrue rfl
  | .bool x, .bool y =>
    if h : x = y then isTrue (by rw [h]) else isFalse (by simpa using h)
  | .number x, .number y =>
    if h : x = y then isTrue (by rw [h]) else isFalse (by simpa using h)
  | .string x, .string y =>
    if h : x = y then isTrue (by rw [h]) else isFalse (by simpa using h)
  | .array xs, .array ys =>
    match decEqItems xs ys with
    | isTrue h => isTrue (by rw [h])
    | isFalse h => isFalse (by simpa using h)
  | .object xs, .object ys =>
    match decEqFields xs ys with
    | isTrue h => isTrue (by rw [h])
    | isFalse h => isFalse (by simpa using h)
  | .null, .bool _ | .null, .number _ | .null, .string _ | .null, .array _ | .null, .object _
  | .bool _, .null | .bool _, .number _ | .bool _, .string _ | .bool _, .array _
  | .bool _, .object _ | .number _, .null | .number _, .bool _ | .number _, .string _
  | .number _, .array _ | .number _, .object _ | .string _, .null | .string _, .bool _
  | .string _, .number _ | .string _, .array _ | .string _, .object _ | .array _, .null
  | .array _, .bool _ | .array _, .number _ | .array _, .string _ | .array _, .object _
  | .object _, .null | .object _, .bool _ | .object _, .number _ | .object _, .string _
  | .object _, .array _ => isFalse (by simp)

/-- Decides equality of item lists. -/
def decEqItems : (a b : List Json) → Decidable (a = b)
  | [], [] => isTrue rfl
  | [], _ :: _ | _ :: _, [] => isFalse (by simp)
  | x :: xs, y :: ys =>
    match decEq x y, decEqItems xs ys with
    | isTrue h, isTrue h' => isTrue (by rw [h, h'])
    | isFalse h, _ => isFalse (by simp [h])
    | _, isFalse h => isFalse (by simp [h])

/-- Decides equality of field lists. -/
def decEqFields : (a b : List Field) → Decidable (a = b)
  | [], [] => isTrue rfl
  | [], _ :: _ | _ :: _, [] => isFalse (by simp)
  | (k, x) :: xs, (l, y) :: ys =>
    match decEq x y, decEqFields xs ys with
    | isTrue h, isTrue h' =>
      if hk : k = l then isTrue (by rw [hk, h, h']) else isFalse (by simp [hk])
    | isFalse h, _ => isFalse (by simp [h])
    | _, isFalse h => isFalse (by simp [h])

end

instance : DecidableEq Json := decEq

/-! ## Objects -/

/-- The value of the first field with the key. -/
def find? (fields : List Field) (key : String) : Option Json :=
  fields.lookup key

/-- The fields without those of the key. -/
def erase (fields : List Field) (key : String) : List Field :=
  fields.filter fun field => field.1 ≠ key

/-- Puts a field at the place of its key in increasing order. A field with the same key is
replaced. -/
def insert (key : String) (value : Json) : List Field → List Field
  | [] => [(key, value)]
  | (k, v) :: rest =>
    if key < k then (key, value) :: (k, v) :: rest
    else if key = k then (key, value) :: rest
    else (k, v) :: insert key value rest

/-- The object with the given fields in increasing order of their keys. Of several fields with one
key the last one counts. -/
def ofFields (fields : List Field) : List Field :=
  fields.foldl (fun done field => insert field.1 field.2 done) []

mutual

/-- The value with the fields of every object in increasing order. -/
def sorted : Json → Json
  | .array items => .array (sortedItems items)
  | .object fields => .object (ofFields (sortedFields fields))
  | .null => .null
  | .bool value => .bool value
  | .number value => .number value
  | .string value => .string value

/-- Sorts every item. -/
def sortedItems : List Json → List Json
  | [] => []
  | item :: rest => sorted item :: sortedItems rest

/-- Sorts the value of every field and keeps their order. -/
def sortedFields : List Field → List Field
  | [] => []
  | (key, value) :: rest => (key, sorted value) :: sortedFields rest

end

/-! ## Canonical values -/

/-- Whether keys strictly increase. -/
def KeysIncrease (fields : List Field) : Prop :=
  fields.Pairwise fun a b => a.1 < b.1

mutual

/-- Keys strictly increase in every object of the value. -/
def Canonical : Json → Prop
  | .array items => CanonicalItems items
  | .object fields => KeysIncrease fields ∧ CanonicalFields fields
  | .null | .bool _ | .number _ | .string _ => True

/-- Every item is canonical. -/
def CanonicalItems : List Json → Prop
  | [] => True
  | item :: rest => Canonical item ∧ CanonicalItems rest

/-- The value of every field is canonical. -/
def CanonicalFields : List Field → Prop
  | [] => True
  | (_, value) :: rest => Canonical value ∧ CanonicalFields rest

end

end Json

end UtxoCodec
