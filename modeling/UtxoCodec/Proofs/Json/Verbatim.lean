import UtxoCodec.Proofs.Json.Tagged

/-!
# Values that are written as they were read

`Verbatim` says of a type that whatever is read of it is written as the value it was read from.
Objects that increase by key are equal if their keys are looked up as the same, so this is a matter
of what is written under every key: under those that a record declares (`Record.Takes` says what it
reads under which name), under the others, and under that of the kind.
-/

namespace UtxoCodec

/-- Whatever is read from JSON is written as it came. -/
def Verbatim (α : Type) [Wire α] : Prop :=
  ∀ (j : Json) (a : α), j.Canonical → fromWire j = .ok a → toWire a = j

namespace Json

open Outcome

/-- The value of a field, if the value is an object that has it. -/
def field? : Json → String → Option Json
  | .object fields, name => find? fields name
  | _, _ => none

theorem canonical_field? {j v : Json} {name : String} (hj : j.Canonical)
    (h : j.field? name = some v) : v.Canonical := by
  cases j with
  | object fields => exact canonicalFields_iff.1 hj.2 _ (mem_of_find? h)
  | _ => cases h

/-- The value is an object with a kind that is not among those known. -/
def OfUnknownKind (known : List Nat) (j : Json) : Prop :=
  ∃ kind, kind < 256 ∧ kind ∉ known ∧ j.field? "type" = some (nat kind)

/-! ## Objects -/

/-- Fields are sorted into an object if they are found in it. -/
theorem sorted_object_eq {written found : List Field} (hnodup : (keys written).Nodup)
    (hfound : KeysIncrease found) (h : ∀ key, (find? written key).map sorted = find? found key) :
    (Json.object written).sorted = .object found := by
  refine congrArg Json.object (fields_ext (keysIncrease_ofFields _) hfound fun key => ?_)
  rw [find?_ofFields (by rwa [keys_sortedFields]), find?_sortedFields, h key]

theorem field?_sorted_object {written : List Field} (hnodup : (keys written).Nodup)
    (name : String) :
    (Json.object written).sorted.field? name = (find? written name).map sorted := by
  show find? (ofFields (sortedFields written)) name = _
  rw [find?_ofFields (by rwa [keys_sortedFields]), find?_sortedFields]

/-! ## Tagged objects -/

namespace Tagged

variable {what name : String} {j : Json} {t : Tagged}

/-- What a tagged object is split into. -/
theorem ofJson_eq_ok (h : Tagged.ofJson what j = .ok t) :
    ∃ fields, j = .object fields ∧ find? fields "type" = some (nat t.kind.toNat) ∧
      t.fields = erase fields "type" := by
  unfold Tagged.ofJson at h
  split at h
  · next fields =>
    split at h
    · cases h
    · next n hkind =>
      split at h
      · next hwide =>
        split at h
        · next hbyte =>
          cases h
          refine ⟨fields, rfl, ?_, rfl⟩
          have hlt : n.toNat < UInt8.size := by
            have hbyte' : n < (UInt8.size : Int) := hbyte
            omega
          have hnat : ((UInt8.ofNat n.toNat).toNat : Int) = n := by
            rw [UInt8.toNat_ofNat_of_lt' hlt]
            exact Int.toNat_of_nonneg hwide.1
          rw [hkind, nat, hnat]
        · cases h
      · cases h
    · cases h
  · cases h

/-- A tagged object is written as it was read. -/
theorem sorted_toJson (hj : j.Canonical) (h : Tagged.ofJson what j = .ok t) :
    t.toJson.sorted = j := by
  have hkept := keptFields hj h
  obtain ⟨fields, rfl, hkind, hfields⟩ := ofJson_eq_ok h
  refine sorted_object_eq (List.nodup_cons.2 ⟨hkept.untagged, hkept.keysIncrease.nodup⟩) hj.1
    fun key => ?_
  rw [find?_cons]
  by_cases hkey : key = "type"
  · rw [if_pos hkey, hkey, hkind]
    rfl
  · rw [if_neg hkey, hfields, find?_erase, if_neg hkey, ← find?_sortedFields,
      sortedFields_of_canonical hj.2]

theorem field?_of_ofJson (h : Tagged.ofJson what j = .ok t) (hname : name ≠ "type") :
    j.field? name = find? t.fields name := by
  obtain ⟨fields, rfl, -, hfields⟩ := ofJson_eq_ok h
  rw [hfields, find?_erase, if_neg hname]
  rfl

theorem field?_sorted_toJson (hnodup : ("type" :: keys t.fields).Nodup) (hname : name ≠ "type") :
    t.toJson.sorted.field? name = (find? t.fields name).map sorted := by
  have hkeys : (keys (("type", nat t.kind.toNat) :: t.fields)).Nodup := hnodup
  refine (field?_sorted_object hkeys name).trans ?_
  rw [find?_cons, if_neg hname]

/-- An object of a kind that is not known is read as tagged. -/
theorem ofJson_of_unknownKind {known : List Nat} (h : j.OfUnknownKind known) :
    ∃ t, Tagged.ofJson what j = .ok t ∧ t.kind.toNat ∉ known := by
  obtain ⟨kind, hbyte, hknown, hkind⟩ := h
  have hnat : (UInt8.ofNat kind).toNat = kind := UInt8.toNat_ofNat_of_lt' hbyte
  cases j with
  | object fields =>
    refine ⟨⟨UInt8.ofNat kind, erase fields "type"⟩, ofJson_of_find? ?_, ?_⟩
    · rw [hnat]
      exact hkind
    · rwa [hnat]
  | _ => cases hkind

end Tagged

/-! ## What a record reads under a name -/

namespace Record

variable {α β : Type}

/-- Whatever the record reads from the fields has the property. -/
def Takes (fields : List Field) (r : Record α) (P : α → Prop) : Prop :=
  ∀ position a, r.read (objectSource fields) position = .ok a → P a

/-- The value is what is read under a name, if there is something. -/
def Found [Wire α] (fields : List Field) (name : String) (a : α) : Prop :=
  ∀ j, Json.find? fields name = some j → Wire.ofJson j = .ok a

namespace Takes

variable {fields : List Field} {name : String}

theorem any {r : Record α} : Takes fields r fun _ => True := fun _ _ _ => trivial

theorem map {r : Record α} {P : α → Prop} {Q : β → Prop} {f : α → β} (h : Takes fields r P)
    (hf : ∀ a, P a → Q (f a)) : Takes fields (f <$> r) Q := by
  intro position b hread
  obtain ⟨a, ha, rfl⟩ := map_eq_ok.1 hread
  exact hf a (h position a ha)

theorem seq {r : Record (α → β)} {s : Record α} {P : α → Prop} {Q : β → Prop}
    (hr : Takes fields r fun f => ∀ a, P a → Q (f a)) (hs : Takes fields s P) :
    Takes fields (r <*> s) Q := by
  intro position b hread
  obtain ⟨f, a, hf, ha, rfl⟩ := both_eq_ok.1 hread
  exact hr _ _ hf a (hs _ _ ha)

theorem of_ofFields {r : Record α} {P : α → Prop} {a : α} (h : Takes fields r P)
    (heq : r.ofFields fields = .ok a) : P a :=
  h _ _ (unplaced_eq_ok.1 heq)

theorem of_ofFieldsOnly {r : Record α} {P : α → Prop} {a : α} (h : Takes fields r P)
    (heq : r.ofFieldsOnly fields = .ok a) : P a := by
  obtain ⟨b, _, hb, -, rfl⟩ := both_eq_ok.1 (unplaced_eq_ok.1 heq)
  exact h _ _ hb

theorem fieldOr {default? : Option α} {read : Json → Except JsonError α} {P : α → Prop}
    (hread : ∀ j a, Json.find? fields name = some j → read j = .ok a → P a)
    (hdefault : ∀ a, Json.find? fields name = none → default? = some a → P a) :
    Takes fields (fieldOr default? name read) P := by
  intro position a h
  cases hfind : Json.find? fields name with
  | some j =>
    obtain ⟨place, hplace⟩ : ∃ place, findFrom? name 0 fields = some (place, j) :=
      findFrom?_eq_some hfind
    simp only [Record.fieldOr, objectSource, hplace] at h
    exact hread j a hfind (mapError_eq_ok.1 h)
  | none =>
    simp only [Record.fieldOr, objectSource, findFrom?_eq_none hfind] at h
    cases default? with
    | none => cases h
    | some b =>
      cases h
      exact hdefault a hfind rfl

/-- Under the name of a field of a type that is written as it was read stands what is written. -/
theorem verbatim [Wire α] (hα : Verbatim α) (hfields : CanonicalFields fields) :
    Takes fields (required name) fun a : α => Json.find? fields name = some (toWire a) := by
  refine fieldOr (fun j a hfind hread => ?_) fun _ _ h => nomatch h
  rw [hfind, hα j a (canonicalFields_iff.1 hfields _ (mem_of_find? hfind)) hread]

theorem found [Wire α] {default? : Option α} :
    Takes fields (Record.fieldOr default? name Wire.ofJson) (Found fields name) := by
  refine fieldOr (fun j a hfind hread j' hfind' => ?_) fun a hnone _ j hfind => ?_
  · rw [hfind] at hfind'
    cases hfind'
    exact hread
  · rw [hnone] at hfind
    cases hfind

end Takes

end Record

end Json

end UtxoCodec
