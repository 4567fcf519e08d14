import UtxoCodec.Json.Record
import UtxoCodec.Proofs.Json.Object
import UtxoCodec.Proofs.Outcome

/-!
# Reading back records

`ReadsBack` says that a value is read back from what is written for it. `Record.Yields` says what
a record reader gives, whichever way the fields come to it; `Record.Writes` says which fields it
reads a value from. Both follow the declaration of the record, field by field, so that a record of
a type is treated once: what its reader yields is written by fields that it reads back.
`Record.Reads` says what is read from given fields, or that they are refused.
-/

namespace UtxoCodec

/-- The value is read back from its JSON form in increasing order. -/
def ReadsBack {α : Type} (write : α → Json) (read : Json → Except JsonError α) (a : α) : Prop :=
  read (write a).sorted = .ok a

/-- The value survives being sent as JSON. -/
def Survives {α : Type} [Wire α] (a : α) : Prop := ReadsBack Wire.toJson Wire.ofJson a

/-- A type of which every value that is read from JSON survives being sent again. -/
class LawfulWire (α : Type) [Wire α] : Prop where
  survives_of_ofJson : ∀ {j : Json} {a : α}, j.Canonical → Wire.ofJson j = .ok a → Survives a

namespace Json

open Outcome

/-! ## Sources -/

namespace Record

variable {α β γ : Type}

theorem both_eq_ok {f : α → β → γ} {p : Placed α} {q : Placed β} {c : γ} :
    Placed.both f p q = .ok c ↔ ∃ a b, p = .ok a ∧ q = .ok b ∧ f a b = c := by
  cases p with
  | error e => cases q <;> simp [Placed.both]
  | ok a => cases q <;> simp [Placed.both]

theorem unplaced_eq_ok {p : Placed α} {a : α} : unplaced p = .ok a ↔ p = .ok a :=
  mapError_eq_ok

theorem findFrom?_eq_none {name : String} {place : Nat} {fields : List Field}
    (h : Json.find? fields name = none) : findFrom? name place fields = none := by
  induction fields generalizing place with
  | nil => rfl
  | cons field rest ih =>
    obtain ⟨k, v⟩ := field
    rw [find?_cons] at h
    by_cases hk : name = k
    · rw [if_pos hk] at h
      cases h
    · rw [if_neg hk] at h
      rw [findFrom?, if_neg (Ne.symm hk)]
      exact ih h

theorem findFrom?_eq_some {name : String} {place : Nat} {fields : List Field} {j : Json}
    (h : Json.find? fields name = some j) : ∃ p, findFrom? name place fields = some (p, j) := by
  induction fields generalizing place with
  | nil => cases h
  | cons field rest ih =>
    obtain ⟨k, v⟩ := field
    rw [find?_cons] at h
    by_cases hk : name = k
    · rw [if_pos hk] at h
      cases h
      exact ⟨place, by rw [findFrom?, if_pos hk.symm]⟩
    · rw [if_neg hk] at h
      rw [findFrom?, if_neg (Ne.symm hk)]
      exact ih h

theorem mem_of_findFrom? {name : String} {place p : Nat} {fields : List Field} {j : Json}
    (h : findFrom? name place fields = some (p, j)) : (name, j) ∈ fields := by
  induction fields generalizing place with
  | nil => cases h
  | cons field rest ih =>
    obtain ⟨k, v⟩ := field
    rw [findFrom?] at h
    by_cases hk : k = name
    · rw [if_pos hk] at h
      cases h
      rw [hk]
      exact List.mem_cons_self
    · rw [if_neg hk] at h
      exact List.mem_cons_of_mem _ (ih h)

theorem refuseUnknown_eq_ok {names : List String} {place : Nat} {fields : List Field}
    (h : ∀ key ∈ keys fields, key ∈ names) : refuseUnknown names place fields = .ok () := by
  induction fields generalizing place with
  | nil => rfl
  | cons field rest ih =>
    obtain ⟨k, v⟩ := field
    obtain ⟨hk, hrest⟩ := List.forall_mem_cons.1 h
    rw [refuseUnknown, if_pos (List.contains_iff_mem.2 hk)]
    exact ih hrest

theorem mem_names_of_refuseUnknown {names : List String} {place : Nat} {fields : List Field}
    (h : refuseUnknown names place fields = .ok ()) : ∀ key ∈ keys fields, key ∈ names := by
  induction fields generalizing place with
  | nil => exact fun key hkey => absurd hkey List.not_mem_nil
  | cons field rest ih =>
    obtain ⟨k, v⟩ := field
    rw [refuseUnknown] at h
    split at h
    · next hk => exact List.forall_mem_cons.2 ⟨List.contains_iff_mem.1 hk, ih h⟩
    · cases h

/-- A reader that refuses other fields finds nothing under names that are not declared. -/
theorem find?_of_ofFieldsOnly {r : Record α} {fields : List Field} {a : α} {name : String}
    (h : r.ofFieldsOnly fields = .ok a) (hname : name ∉ r.names) :
    Json.find? fields name = none := by
  obtain ⟨_, _, -, hknown, -⟩ := both_eq_ok.1 (unplaced_eq_ok.1 h)
  exact find?_eq_none.2 fun hmem => hname (mem_names_of_refuseUnknown hknown name hmem)

/-- The values that a source finds are canonical. -/
def CanonicalSource (source : Source) : Prop :=
  ∀ {name position place j}, source.find? name position = some (place, j) → j.Canonical

theorem canonical_objectSource {fields : List Field} (h : CanonicalFields fields) :
    CanonicalSource (objectSource fields) :=
  fun hfind => canonicalFields_iff.1 h _ (mem_of_findFrom? hfind)

theorem canonical_arraySource {items : List Json} (h : CanonicalItems items) :
    CanonicalSource (arraySource items) := by
  intro name position place j hfind
  obtain ⟨item, hitem, heq⟩ := Option.map_eq_some_iff.1 hfind
  cases heq
  exact canonicalItems_iff.1 h _ (List.mem_of_getElem? hitem)

/-! ## What a record yields -/

/-- Whatever the record reads from canonical values has the property. -/
def Yields (r : Record α) (P : α → Prop) : Prop :=
  ∀ source position a, CanonicalSource source → r.read source position = .ok a → P a

namespace Yields

theorem mono {r : Record α} {P Q : α → Prop} (h : Yields r P) (hPQ : ∀ a, P a → Q a) :
    Yields r Q :=
  fun source position a hs hread => hPQ a (h source position a hs hread)

theorem map {r : Record α} {P : α → Prop} {Q : β → Prop} {f : α → β} (h : Yields r P)
    (hf : ∀ a, P a → Q (f a)) : Yields (f <$> r) Q := by
  intro source position b hs hread
  obtain ⟨a, ha, rfl⟩ := map_eq_ok.1 hread
  exact hf a (h _ _ _ hs ha)

theorem seq {r : Record (α → β)} {s : Record α} {P : α → Prop} {Q : β → Prop}
    (hr : Yields r fun f => ∀ a, P a → Q (f a)) (hs : Yields s P) : Yields (r <*> s) Q := by
  intro source position b hsource hread
  obtain ⟨f, a, hf, ha, rfl⟩ := both_eq_ok.1 hread
  exact hr _ _ _ hsource hf a (hs _ _ _ hsource ha)

theorem fieldOr {default? : Option α} {name : String} {read : Json → Except JsonError α}
    {P : α → Prop} (hread : ∀ {j a}, j.Canonical → read j = .ok a → P a)
    (hdefault : ∀ a, default? = some a → P a) : Yields (fieldOr default? name read) P := by
  intro source position a hs h
  simp only [Record.fieldOr] at h
  split at h
  · next hfind => exact hread (hs hfind) (mapError_eq_ok.1 h)
  split at h
  · cases h
    exact hdefault _ rfl
  · cases h

theorem required [Wire α] [LawfulWire α] {name : String} :
    Yields (required name : Record α) Survives :=
  fieldOr LawfulWire.survives_of_ofJson (fun _ h => nomatch h)

theorem withDefault [Wire α] [LawfulWire α] {name : String} {default : α} (h : Survives default) :
    Yields (withDefault name default) Survives :=
  fieldOr LawfulWire.survives_of_ofJson fun _ heq => by
    cases heq
    exact h

theorem optional [Wire α] [LawfulWire α] {name : String} :
    Yields (optional name : Record (Option α)) fun o => ∀ a, o = some a → Survives a := by
  refine fieldOr (fun {j o} hj hread a ho => ?_) fun o heq a ho => ?_
  · subst ho
    unfold readNullable at hread
    split at hread
    · cases hread
    · obtain ⟨b, hb, heq⟩ := map_eq_ok.1 hread
      cases heq
      exact LawfulWire.survives_of_ofJson hj hb
  · subst ho
    cases heq

variable {r : Record α} {P : α → Prop} {a : α} {j : Json}

theorem of_ofFields {fields : List Field} (h : Yields r P) (hfields : CanonicalFields fields)
    (heq : r.ofFields fields = .ok a) : P a :=
  h _ _ _ (canonical_objectSource hfields) (unplaced_eq_ok.1 heq)

theorem of_ofFieldsOnly {fields : List Field} (h : Yields r P) (hfields : CanonicalFields fields)
    (heq : r.ofFieldsOnly fields = .ok a) : P a := by
  obtain ⟨b, _, hb, -, rfl⟩ := both_eq_ok.1 (unplaced_eq_ok.1 heq)
  exact h _ _ _ (canonical_objectSource hfields) hb

theorem of_ofItems {items : List Json} (h : Yields r P) (hitems : CanonicalItems items)
    (heq : r.ofItems items = .ok a) : P a := by
  obtain ⟨b, hb, hlen⟩ := bind_eq_ok.1 heq
  split at hlen
  · cases hlen
  · cases hlen
    exact h _ _ _ (canonical_arraySource hitems) (unplaced_eq_ok.1 hb)

theorem of_ofObject (h : Yields r P) (hj : j.Canonical) (heq : r.ofObject j = .ok a) : P a := by
  unfold ofObject at heq
  split at heq
  · exact h.of_ofFields hj.2 heq
  · cases heq

theorem of_ofObjectOrArray (h : Yields r P) (hj : j.Canonical)
    (heq : r.ofObjectOrArray j = .ok a) : P a := by
  unfold ofObjectOrArray at heq
  split at heq
  · exact h.of_ofFields hj.2 heq
  · exact h.of_ofItems hj heq
  · cases heq

theorem of_ofObjectOnlyOrArray (h : Yields r P) (hj : j.Canonical)
    (heq : r.ofObjectOnlyOrArray j = .ok a) : P a := by
  unfold ofObjectOnlyOrArray at heq
  split at heq
  · exact h.of_ofFieldsOnly hj.2 heq
  · exact h.of_ofItems hj heq
  · cases heq

end Yields

/-- Whatever the record reads, from whichever values, has the property. -/
def Gives (r : Record α) (P : α → Prop) : Prop :=
  ∀ source position a, r.read source position = .ok a → P a

namespace Gives

theorem map {r : Record α} {P : β → Prop} {f : α → β} (h : ∀ a, P (f a)) : Gives (f <$> r) P := by
  intro source position b hread
  obtain ⟨a, -, rfl⟩ := map_eq_ok.1 hread
  exact h a

theorem seq {r : Record (α → β)} {s : Record α} {P : β → Prop}
    (h : Gives r fun f => ∀ a, P (f a)) : Gives (r <*> s) P := by
  intro source position b hread
  obtain ⟨f, a, hf, -, rfl⟩ := both_eq_ok.1 hread
  exact h _ _ _ hf a

theorem of_ofObject {r : Record α} {P : α → Prop} {a : α} {j : Json} (h : Gives r P)
    (heq : r.ofObject j = .ok a) : P a := by
  unfold ofObject at heq
  split at heq
  · exact h _ _ _ (unplaced_eq_ok.1 heq)
  · cases heq

end Gives

/-! ## Which fields a record reads back -/

/-- The fields are some of those that the record declares, in order, and wherever its names are
looked up as in them, the record reads the value. -/
structure Writes (r : Record α) (fields : List Field) (a : α) : Prop where
  keys_sublist : (keys fields).Sublist r.names
  reads : r.names.Nodup → ∀ {found : List Field},
    (∀ name ∈ r.names, Json.find? found name = Json.find? (sortedFields fields) name) →
      ∀ position, r.read (objectSource found) position = .ok a

namespace Writes

theorem congr {r : Record α} {fields fields' : List Field} {a : α} (h : Writes r fields a)
    (heq : fields = fields') : Writes r fields' a :=
  heq ▸ h

theorem map {r : Record α} {fields : List Field} {a : α} (h : Writes r fields a) (f : α → β) :
    Writes (f <$> r) fields (f a) where
  keys_sublist := h.keys_sublist
  reads hnodup _ hfound position := map_eq_ok.2 ⟨a, h.reads hnodup hfound position, rfl⟩

theorem seq {r : Record (α → β)} {s : Record α} {fields others : List Field} {f : α → β} {a : α}
    (hr : Writes r fields f) (hs : Writes s others a) :
    Writes (r <*> s) (fields ++ others) (f a) where
  keys_sublist := by
    unfold keys
    rw [List.map_append]
    exact hr.keys_sublist.append hs.keys_sublist
  reads hnodup found hfound position := by
    obtain ⟨hr', hs', hdisjoint⟩ := List.nodup_append.1 hnodup
    -- a name of one half is not among the keys of the other
    have hleft : ∀ name ∈ r.names,
        Json.find? found name = Json.find? (sortedFields fields) name := by
      intro name hname
      have hnone : Json.find? (sortedFields others) name = none := by
        rw [find?_eq_none, keys_sortedFields]
        exact fun hmem => hdisjoint _ hname _ (hs.keys_sublist.mem hmem) rfl
      rw [hfound name (List.mem_append_left _ hname), sortedFields_append, find?_append, hnone,
        Option.or_none]
    have hright : ∀ name ∈ s.names,
        Json.find? found name = Json.find? (sortedFields others) name := by
      intro name hname
      have hnone : Json.find? (sortedFields fields) name = none := by
        rw [find?_eq_none, keys_sortedFields]
        exact fun hmem => hdisjoint _ (hr.keys_sublist.mem hmem) _ hname rfl
      rw [hfound name (List.mem_append_right _ hname), sortedFields_append, find?_append, hnone,
        Option.none_or]
    exact both_eq_ok.2 ⟨f, a, hr.reads hr' hleft position, hs.reads hs' hright _, rfl⟩

theorem present {default? : Option α} {name : String} {read : Json → Except JsonError α} {j : Json}
    {a : α} (h : read j.sorted = .ok a) : Writes (fieldOr default? name read) [(name, j)] a where
  keys_sublist := List.Sublist.refl _
  reads _ found hfound position := by
    have hfind : Json.find? found name = some j.sorted := by
      rw [hfound name (List.mem_singleton.2 rfl), sortedFields, find?_cons, if_pos rfl]
    obtain ⟨place, hplace⟩ : ∃ place, findFrom? name 0 found = some (place, j.sorted) :=
      findFrom?_eq_some hfind
    simp only [fieldOr, objectSource, hplace, h]
    rfl

theorem absent {default : α} {name : String} {read : Json → Except JsonError α} :
    Writes (fieldOr (some default) name read) [] default where
  keys_sublist := List.nil_sublist _
  reads _ found hfound position := by
    have hfind : Json.find? found name = none := hfound name (List.mem_singleton.2 rfl)
    simp only [fieldOr, objectSource, findFrom?_eq_none hfind]

theorem required [Wire α] {name : String} {a : α} (h : Survives a) :
    Writes (required name) [(name, Wire.toJson a)] a :=
  present h

theorem withDefault [Wire α] {name : String} {default a : α} (h : Survives a) :
    Writes (withDefault name default) [(name, Wire.toJson a)] a :=
  present h

/-- A list of which nothing is written if it is empty. -/
theorem nonempty {name : String} {write : List β → Json} {read : Json → Except JsonError α}
    (make : List β → α) {items : List β} (h : read (write items).sorted = .ok (make items)) :
    Writes (fieldOr (some (make [])) name read) (nonemptyField name write items) (make items) := by
  cases items with
  | nil => exact absent
  | cons item rest => exact present h

/-- A value of which nothing is written if it is not set. -/
theorem optionalField {name : String} {write : β → Json}
    {read : Json → Except JsonError (Option β)} {o : Option β}
    (h : ∀ b, o = some b → read (write b).sorted = .ok (some b)) :
    Writes (fieldOr (some none) name read) (optionalField name write o) o := by
  cases o with
  | none => exact absent
  | some b => exact present (h b rfl)

/-- A value that is not written as null is not taken for one that is not set. -/
theorem optional [Wire α] {name : String} {o : Option α} (h : ∀ a, o = some a → Survives a)
    (hnull : ∀ a : α, (Wire.toJson a).sorted ≠ .null) :
    Writes (optional name) (Json.optionalField name Wire.toJson o) o := by
  refine optionalField fun a ha => ?_
  have hread : Wire.ofJson (Wire.toJson a).sorted = .ok a := h a ha
  unfold readNullable
  split
  · next heq => exact absurd heq (hnull a)
  · rw [hread]
    rfl

variable {r : Record α} {fields : List Field} {a : α}

theorem keys_nodup (h : Writes r fields a) (hnodup : r.names.Nodup) : (keys fields).Nodup :=
  hnodup.sublist h.keys_sublist

theorem find?_written (h : Writes r fields a) (hnodup : r.names.Nodup) (name : String) :
    Json.find? (Json.ofFields (sortedFields fields)) name =
      Json.find? (sortedFields fields) name := by
  refine find?_ofFields ?_ name
  rw [keys_sortedFields]
  exact h.keys_nodup hnodup

/-- What is written is read back. -/
theorem ofFields (h : Writes r fields a) (hnodup : r.names.Nodup) :
    r.ofFields (Json.ofFields (sortedFields fields)) = .ok a :=
  unplaced_eq_ok.2 (h.reads hnodup (fun name _ => h.find?_written hnodup name) 0)

theorem mem_names_of_mem_keys (h : Writes r fields a) :
    ∀ key ∈ keys (Json.ofFields (sortedFields fields)), key ∈ r.names := by
  intro key hmem
  obtain ⟨field, hfield, rfl⟩ := List.mem_map.1 hmem
  have hkey : field.1 ∈ keys (sortedFields fields) :=
    List.mem_map.2 ⟨field, mem_ofFields hfield, rfl⟩
  rw [keys_sortedFields] at hkey
  exact h.keys_sublist.mem hkey

/-- What is written is read back by a reader that refuses other fields, too. -/
theorem ofFieldsOnly (h : Writes r fields a) (hnodup : r.names.Nodup) :
    r.ofFieldsOnly (Json.ofFields (sortedFields fields)) = .ok a :=
  unplaced_eq_ok.2 <| both_eq_ok.2 ⟨a, (), unplaced_eq_ok.1 (h.ofFields hnodup),
    refuseUnknown_eq_ok h.mem_names_of_mem_keys, rfl⟩

theorem ofObjectOrArray (h : Writes r fields a) (hnodup : r.names.Nodup) :
    r.ofObjectOrArray (Json.object fields).sorted = .ok a :=
  h.ofFields hnodup

theorem ofObject (h : Writes r fields a) (hnodup : r.names.Nodup) :
    r.ofObject (Json.object fields).sorted = .ok a :=
  h.ofFields hnodup

theorem ofObjectOnlyOrArray (h : Writes r fields a) (hnodup : r.names.Nodup) :
    r.ofObjectOnlyOrArray (Json.object fields).sorted = .ok a :=
  h.ofFieldsOnly hnodup

end Writes

/-! ## What a record reads from an object -/

theorem find?_optionalField (name : String) (write : α → Json) (o : Option α) (key : String) :
    Json.find? (Json.optionalField name write o) key =
      if key = name then o.map write else none := by
  cases o with
  | none => simp [Json.optionalField]
  | some a => simp [Json.optionalField, find?_cons]

/-- What the record reads from the fields, if it takes them. The fields of the record are looked up
in all fields, so nothing is said of their order or of other fields. -/
def Reads (r : Record α) (fields : List Field) (a? : Option α) : Prop :=
  ∀ position, (r.read (objectSource fields) position).toOption = a?

namespace Reads

variable {fields : List Field} {name : String}

theorem map {r : Record α} {a? : Option α} (h : Reads r fields a?) (f : α → β) :
    Reads (f <$> r) fields (f <$> a?) := by
  intro position
  rw [← h position]
  show ((r.read (objectSource fields) position).map f).toOption = _
  cases r.read (objectSource fields) position <;> rfl

theorem seq {r : Record (α → β)} {s : Record α} {f? : Option (α → β)} {a? : Option α}
    (hr : Reads r fields f?) (hs : Reads s fields a?) : Reads (r <*> s) fields (f? <*> a?) := by
  intro position
  rw [← hr position, ← hs (position + r.names.length)]
  show (Placed.both _ (r.read (objectSource fields) position)
    (s.read (objectSource fields) (position + r.names.length))).toOption = _
  cases r.read (objectSource fields) position <;>
    cases s.read (objectSource fields) (position + r.names.length) <;> rfl

theorem present {default? : Option α} {read : Json → Except JsonError α} {j : Json}
    (h : Json.find? fields name = some j) :
    Reads (fieldOr default? name read) fields (read j).toOption := by
  intro position
  obtain ⟨place, hplace⟩ : ∃ place, findFrom? name 0 fields = some (place, j) :=
    findFrom?_eq_some h
  simp only [fieldOr, objectSource, hplace]
  cases read j <;> rfl

theorem absent {default? : Option α} {read : Json → Except JsonError α}
    (h : Json.find? fields name = none) : Reads (fieldOr default? name read) fields default? := by
  intro position
  simp only [fieldOr, objectSource, findFrom?_eq_none h]
  cases default? <;> rfl

theorem found {default? : Option α} {read : Json → Except JsonError α} {j : Json} {a : α}
    (hfind : Json.find? fields name = some j) (h : read j = .ok a) :
    Reads (fieldOr default? name read) fields (some a) := by
  have hread : (read j).toOption = some a := congrArg Except.toOption h
  rw [← hread]
  exact present hfind

theorem required [Wire α] {a : α} (hfind : Json.find? fields name = some (toWire a))
    (h : Survives a) : Reads (required name) fields (some a) :=
  found hfind h

/-- A reader that refuses other fields reads the same if there are none. -/
theorem ofFieldsOnly {r : Record α} {a? : Option α} (h : Reads r fields a?)
    (hkeys : ∀ key ∈ keys fields, key ∈ r.names) : (r.ofFieldsOnly fields).toOption = a? := by
  rw [← h 0]
  unfold Record.ofFieldsOnly
  rw [refuseUnknown_eq_ok hkeys]
  cases r.read (objectSource fields) 0 <;> rfl

end Reads

end Record

end Json

end UtxoCodec
