import UtxoCodec.Protocol
import UtxoCodec.Proofs.Wire.Element

/-!
# JSON forms of protocol parameters

Fields of newer protocol versions are kept beside those that a record declares. They are as they
came (`Record.ExtraFields`), so a record that is written with them reads back both
(`Writes.ofFields_extra`).
-/

namespace UtxoCodec

open Outcome Json

namespace Json.Record

variable {α : Type}

/-- Fields beside those of a record, as they come from a canonical object. -/
structure ExtraFields (r : Record α) (extra : List Field) : Prop where
  keysIncrease : KeysIncrease extra
  canonical : CanonicalFields extra
  undeclared : ∀ key ∈ keys extra, key ∉ r.names

theorem extraFields_others (r : Record α) {fields : List Field} (hkeys : KeysIncrease fields)
    (hfields : CanonicalFields fields) : ExtraFields r (r.others fields) where
  keysIncrease := hkeys.filter _
  canonical := hfields.filter _
  undeclared key hmem hname := by
    obtain ⟨field, hfield, rfl⟩ := List.mem_map.1 hmem
    have hother := (List.mem_filter.1 hfield).2
    simp [hname] at hother

namespace Writes

variable {r : Record α} {fields extra : List Field} {a : α}

theorem find?_extra (h : Writes r fields a) (hnodup : r.names.Nodup) (hextra : ExtraFields r extra)
    (key : String) : Json.find? (Json.ofFields (sortedFields (fields ++ extra))) key =
      (Json.find? (sortedFields fields) key).or (Json.find? extra key) := by
  have hkeys : (keys (sortedFields (fields ++ extra))).Nodup := by
    rw [keys_sortedFields]
    unfold keys
    rw [List.map_append]
    refine List.nodup_append.2 ⟨h.keys_nodup hnodup, hextra.keysIncrease.nodup, ?_⟩
    rintro key hleft _ hright rfl
    exact hextra.undeclared key hright (h.keys_sublist.mem hleft)
  rw [find?_ofFields hkeys, sortedFields_append, find?_append,
    sortedFields_of_canonical hextra.canonical]

/-- A record reads past fields that it does not declare. -/
theorem ofFields_extra (h : Writes r fields a) (hnodup : r.names.Nodup)
    (hextra : ExtraFields r extra) :
    r.ofFields (Json.ofFields (sortedFields (fields ++ extra))) = .ok a := by
  refine unplaced_eq_ok.2 (h.reads hnodup (fun name hname => ?_) 0)
  have hnone : Json.find? extra name = none :=
    find?_eq_none.2 fun hmem => hextra.undeclared name hmem hname
  rw [h.find?_extra hnodup hextra, hnone, Option.or_none]

/-- The fields that a record does not declare are found as they were. -/
theorem others_extra (h : Writes r fields a) (hnodup : r.names.Nodup)
    (hextra : ExtraFields r extra) :
    r.others (Json.ofFields (sortedFields (fields ++ extra))) = extra := by
  refine fields_ext ((keysIncrease_ofFields _).filter _) hextra.keysIncrease fun key => ?_
  refine (find?_filter (fun key => !r.names.contains key) _ key).trans ?_
  by_cases hname : key ∈ r.names
  · have hnone : Json.find? extra key = none :=
      find?_eq_none.2 fun hmem => hextra.undeclared key hmem hname
    simp [hname, hnone]
  · have hnone : Json.find? (sortedFields fields) key = none := by
      rw [find?_eq_none, keys_sortedFields]
      exact fun hmem => hname (h.keys_sublist.mem hmem)
    rw [h.find?_extra hnodup hextra, hnone, Option.none_or]
    simp [hname]

end Writes

end Json.Record

namespace RentStructure

theorem writes (r : RentStructure) :
    record.Writes [("vByteCost", Wire.toJson r.byteCost),
      ("vByteFactorData", Wire.toJson r.factorData), ("vByteFactorKey", Wire.toJson r.factorKey)]
      (mk r.byteCost r.factorData r.factorKey) :=
  .seq (.seq (.map (.required (survives_uint32 r.byteCost)) _)
    (.required (survives_uint8 r.factorData))) (.required (survives_uint8 r.factorKey))

theorem survives {r : RentStructure} (h : record.ExtraFields r.extra) : Survives r := by
  have hread := r.writes.ofFields_extra (by decide) h
  have hothers := r.writes.others_extra (by decide) h
  refine bind_eq_ok.2 ⟨_, hread, ?_⟩
  exact congrArg (fun extra => Except.ok (mk r.byteCost r.factorData r.factorKey extra)) hothers

theorem yields : record.Yields fun make => ∀ extra, (make extra).extra = extra :=
  .seq (.seq (.map .required fun _ _ _ _ _ _ _ => rfl) .required) .required

instance : LawfulWire RentStructure where
  survives_of_ofJson {j r} hj h := by
    cases j with
    | object fields =>
      obtain ⟨make, hmake, h⟩ := bind_eq_ok.1 h
      cases h
      refine survives ?_
      rw [yields.of_ofFields hj.2 hmake]
      exact Record.extraFields_others record hj.1 hj.2
    | _ => cases h

end RentStructure

namespace ProtocolParameters

theorem writes {p : ProtocolParameters} (h : Survives p.rentStructure) :
    record.Writes [("version", Wire.toJson p.version), ("networkName", .string p.networkName),
      ("bech32Hrp", .string p.bech32Hrp), ("minPowScore", Wire.toJson p.minPowScore),
      ("belowMaxDepth", Wire.toJson p.belowMaxDepth),
      ("rentStructure", Wire.toJson p.rentStructure), ("tokenSupply", Wire.toJson p.tokenSupply)]
      (mk p.version p.networkName p.bech32Hrp p.minPowScore p.belowMaxDepth p.rentStructure
        p.tokenSupply) :=
  .seq (.seq (.seq (.seq (.seq (.seq (.map (.required (survives_uint8 p.version)) _)
    (.required (survives_string p.networkName))) (.required (survives_string p.bech32Hrp)))
    (.required (survives_uint32 p.minPowScore))) (.required (survives_uint8 p.belowMaxDepth)))
    (.required h)) (.required p.tokenSupply.survives)

theorem survives {p : ProtocolParameters} (hrent : Survives p.rentStructure)
    (h : record.ExtraFields p.extra) : Survives p := by
  have hread := (writes hrent).ofFields_extra (by decide) h
  have hothers := (writes hrent).others_extra (by decide) h
  refine bind_eq_ok.2 ⟨_, hread, ?_⟩
  exact congrArg (fun extra => Except.ok (mk p.version p.networkName p.bech32Hrp p.minPowScore
    p.belowMaxDepth p.rentStructure p.tokenSupply extra)) hothers

theorem yields : record.Yields fun make =>
    ∀ extra, Survives (make extra).rentStructure ∧ (make extra).extra = extra :=
  .seq (.seq (.seq (.seq (.seq (.seq (.map .required
    fun _ _ _ _ _ _ _ _ _ _ _ hrent _ _ _ => ⟨hrent, rfl⟩) .required) .required) .required)
    .required) .required) .required

instance : LawfulWire ProtocolParameters where
  survives_of_ofJson {j p} hj h := by
    cases j with
    | object fields =>
      obtain ⟨make, hmake, h⟩ := bind_eq_ok.1 h
      cases h
      obtain ⟨hrent, hextra⟩ := yields.of_ofFields hj.2 hmake (record.others fields)
      refine survives hrent ?_
      rw [hextra]
      exact Record.extraFields_others record hj.1 hj.2
    | _ => cases h

end ProtocolParameters

end UtxoCodec
