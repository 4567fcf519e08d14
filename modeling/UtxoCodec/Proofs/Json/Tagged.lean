import UtxoCodec.Proofs.Json.Record

/-!
# Reading back tagged objects

A tagged object is read back as its kind and its fields in increasing order
(`Tagged.ofJson_toJson`). The fields that come with a kind that is not known are kept as they are:
they increase, are canonical and do not hold another kind (`KeptFields`), so writing them again
changes nothing.
-/

namespace UtxoCodec.Json

open Outcome

theorem readNat_nat {limit n : Nat} (h : n < limit) : readNat limit (nat n) = .ok n := by
  have hlt : (0 : Int) ≤ n ∧ (n : Int) < limit := ⟨Int.natCast_nonneg n, Int.ofNat_lt.2 h⟩
  show (if _ then Except.ok (n : Int).toNat else _) = _
  rw [if_pos hlt, Int.toNat_natCast]

/-- The object with its kind set. -/
def setKind (kind : UInt8) : Json → Json
  | .object fields => .object (insert "type" (nat kind.toNat) fields)
  | j => j

/-- Fields beside a kind, as they come from a canonical object. -/
structure KeptFields (fields : List Field) : Prop where
  keysIncrease : KeysIncrease fields
  canonical : CanonicalFields fields
  untagged : "type" ∉ keys fields

namespace KeptFields

variable {fields : List Field}

theorem ofFields_sortedFields (h : KeptFields fields) :
    ofFields (sortedFields fields) = fields := by
  rw [sortedFields_of_canonical h.canonical, ofFields_of_keysIncrease h.keysIncrease]

end KeptFields

namespace Tagged

variable {what : String}

/-- The fields beside the kind are those of the object in increasing order. -/
theorem erase_type {kind : Json} {fields : List Field} (hnodup : (keys fields).Nodup)
    (huntagged : "type" ∉ keys fields) :
    erase (ofFields (sortedFields (("type", kind) :: fields))) "type" =
      ofFields (sortedFields fields) := by
  refine fields_ext ((keysIncrease_ofFields _).filter _) (keysIncrease_ofFields _) fun key => ?_
  have htagged : (keys (sortedFields (("type", kind) :: fields))).Nodup := by
    rw [keys_sortedFields]
    exact List.nodup_cons.2 ⟨huntagged, hnodup⟩
  have huntagged' : (keys (sortedFields fields)).Nodup := by
    rw [keys_sortedFields]
    exact hnodup
  rw [find?_erase, find?_ofFields htagged, find?_ofFields huntagged', sortedFields, find?_cons]
  by_cases hkey : key = "type"
  · rw [if_pos hkey, hkey]
    exact (find?_eq_none.2 (by rwa [keys_sortedFields])).symm
  · rw [if_neg hkey, if_neg hkey]

/-- The kind is split off the fields. -/
theorem ofJson_of_find? {kind : UInt8} {fields : List Field}
    (hkind : find? fields "type" = some (nat kind.toNat)) :
    Tagged.ofJson what (.object fields) = .ok ⟨kind, erase fields "type"⟩ := by
  have hbyte : kind.toNat < 256 := kind.toNat_lt
  have hwide : (0 : Int) ≤ kind.toNat ∧ (kind.toNat : Int) < UInt64.size := by
    unfold UInt64.size
    omega
  have hnarrow : (kind.toNat : Int) < UInt8.size := by
    unfold UInt8.size
    omega
  unfold Tagged.ofJson
  simp only [hkind]
  unfold nat
  dsimp only
  rw [if_pos hwide, if_pos hnarrow, Int.toNat_natCast, UInt8.ofNat_toNat]

/-- A tagged object is read back with its fields in increasing order. -/
theorem ofJson_toJson {t : Tagged} (hnodup : (keys t.fields).Nodup)
    (huntagged : "type" ∉ keys t.fields) :
    Tagged.ofJson what t.toJson.sorted = .ok ⟨t.kind, ofFields (sortedFields t.fields)⟩ := by
  obtain ⟨kind, fields⟩ := t
  have htagged : (keys (sortedFields (("type", nat kind.toNat) :: fields))).Nodup := by
    rw [keys_sortedFields]
    exact List.nodup_cons.2 ⟨huntagged, hnodup⟩
  have hkind : find? (ofFields (sortedFields (("type", nat kind.toNat) :: fields))) "type" =
      some (nat kind.toNat) := by
    rw [find?_ofFields htagged, sortedFields, find?_cons, if_pos rfl]
    rfl
  rw [Tagged.toJson, sorted, ofJson_of_find? hkind, erase_type hnodup huntagged]

/-- An object whose kind was set is read as the kind and its fields. -/
theorem ofJson_setKind {kind : UInt8} {fields : List Field} (hincrease : KeysIncrease fields)
    (huntagged : "type" ∉ keys fields) :
    Tagged.ofJson what (setKind kind (.object fields)) = .ok ⟨kind, fields⟩ := by
  have hkind : find? (insert "type" (nat kind.toNat) fields) "type" = some (nat kind.toNat) := by
    rw [find?_insert, if_pos rfl]
  have hrest : erase (insert "type" (nat kind.toNat) fields) "type" = fields := by
    refine fields_ext ((hincrease.insert _ _).filter _) hincrease fun key => ?_
    rw [find?_erase, find?_insert]
    by_cases hkey : key = "type"
    · rw [if_pos hkey, hkey]
      exact (find?_eq_none.2 huntagged).symm
    · rw [if_neg hkey, if_neg hkey]
  rw [setKind, ofJson_of_find? hkind, hrest]

/-- A tagged object with the fields of a record is read back. -/
theorem ofJson_written {α : Type} {r : Record α} {kind : UInt8} {fields : List Field} {a : α}
    (h : r.Writes fields a) (hnodup : ("type" :: r.names).Nodup) :
    Tagged.ofJson what (Tagged.mk kind fields).toJson.sorted =
      .ok ⟨kind, ofFields (sortedFields fields)⟩ := by
  obtain ⟨huntagged, hnames⟩ := List.nodup_cons.1 hnodup
  exact ofJson_toJson (t := ⟨kind, fields⟩) (h.keys_nodup hnames)
    fun hmem => huntagged (h.keys_sublist.mem hmem)

/-- A value that is written as the fields of a record beside a kind survives, if its reader takes
those fields for it. -/
theorem survives {α β : Type} [Wire α] {ofTagged : Tagged → Except JsonError α} {r : Record β}
    {kind : UInt8} {fields : List Field} {a : α} {b : β}
    (hread : ∀ j, Wire.ofJson j = Tagged.ofJson what j >>= ofTagged)
    (hwrite : Wire.toJson a = (Tagged.mk kind fields).toJson) (h : r.Writes fields b)
    (hnodup : ("type" :: r.names).Nodup)
    (hfields : ∀ found, r.ofFields found = .ok b → ofTagged ⟨kind, found⟩ = .ok a) :
    Survives a := by
  -- the fields come back sorted: the reader sees what the record finds in them, not their order
  show Wire.ofJson (Wire.toJson a).sorted = _
  rw [hread, hwrite, ofJson_written h hnodup]
  exact hfields _ (h.ofFields (List.nodup_cons.1 hnodup).2)

/-- What is read from a canonical object besides the kind is kept as it is. -/
theorem keptFields {j : Json} {t : Tagged} (hj : j.Canonical) (h : Tagged.ofJson what j = .ok t) :
    KeptFields t.fields := by
  unfold Tagged.ofJson at h
  split at h
  · split at h
    · cases h
    · split at h
      · split at h
        · cases h
          refine ⟨hj.1.filter _, hj.2.filter _, fun hmem => ?_⟩
          obtain ⟨field, hfield, hkey⟩ := List.mem_map.1 hmem
          simp [erase, hkey] at hfield
        · cases h
      · cases h
    · cases h
  · cases h

end Tagged

end UtxoCodec.Json
