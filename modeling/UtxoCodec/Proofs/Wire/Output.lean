import UtxoCodec.Proofs.Packing.Decode
import UtxoCodec.Proofs.Wire.Collection

/-!
# JSON forms of outputs

The record of each kind of output reads back the fields that are written, lists that were left out
because they are empty included, if its collections survive. That is so for what the record yields
and for what verifies. An opaque output survives if its body verifies, and one that is kept as
fields if the fields are as they came. Main statement: `Output.survives_of_verify`, next to the
instances of `LawfulWire`.
-/

namespace UtxoCodec

open Outcome Json

/-! ## Parts of outputs -/

theorem NativeTokens.survives_empty : Survives NativeTokens.empty :=
  survives rfl

theorem Features.survives_empty : Survives Features.empty :=
  survives rfl fun _ hf => absurd hf List.not_mem_nil

theorem NativeTokens.writes {ts : NativeTokens} (h : Survives ts) :
    (Record.withDefault "nativeTokens" NativeTokens.empty).Writes
      (nonemptyField "nativeTokens" Wire.toJson ts.items) ts :=
  .nonempty NativeTokens.mk h

theorem Features.writes {fs : Features} (name : String) (h : Survives fs) :
    (Record.withDefault name Features.empty).Writes
      (nonemptyField name Wire.toJson fs.items) fs :=
  .nonempty Features.mk h

/-- The collections of an output that keeps the rules of its kind survive. -/
theorem OutputRules.survives_of_verify {rules : OutputRules} {conditions : UnlockConditions}
    {features immutableFeatures : Features}
    (h : rules.verify conditions features immutableFeatures = .ok ()) :
    Survives conditions ∧ Survives features ∧ Survives immutableFeatures := by
  obtain ⟨hconditions, hfeatures, himmutable, -⟩ := verify_eq_ok.1 h
  exact ⟨UnlockConditions.survives_of_verify hconditions, Features.survives_of_verify hfeatures,
    Features.survives_of_verify himmutable⟩

/-! ## The kinds -/

namespace TreasuryOutput

theorem writes (o : TreasuryOutput) : record.Writes o.fields o :=
  .map (.required o.amount.survives) _

theorem survives (o : TreasuryOutput) : Survives o :=
  o.writes.ofObjectOnlyOrArray (by decide)

instance : LawfulWire TreasuryOutput := ⟨fun _ _ => survives _⟩

end TreasuryOutput

namespace BasicOutput

theorem writes {o : BasicOutput} (htokens : Survives o.nativeTokens)
    (hconditions : Survives o.unlockConditions) (hfeatures : Survives o.features) :
    record.Writes o.fields o := by
  refine .congr (.seq (.seq (.seq (.map (.required o.amount.survives) _)
    (NativeTokens.writes htokens)) (.required hconditions))
    (Features.writes "features" hfeatures)) ?_
  simp only [fields, List.append_assoc, List.cons_append, List.nil_append]

theorem writes_of_verify {o : BasicOutput} (h : o.verify = .ok ()) : record.Writes o.fields o := by
  obtain ⟨-, htokens, hrules⟩ := verify_eq_ok.1 h
  obtain ⟨hconditions, hfeatures, -⟩ := OutputRules.survives_of_verify hrules
  exact writes (NativeTokens.survives htokens) hconditions hfeatures

theorem yields : record.Yields fun o => record.Writes o.fields o :=
  .seq (.seq (.seq (.map .required fun _ _ _ htokens _ hconditions _ hfeatures =>
    writes htokens hconditions hfeatures) (.withDefault NativeTokens.survives_empty)) .required)
    (.withDefault Features.survives_empty)

instance : LawfulWire BasicOutput where
  survives_of_ofJson hj h := (yields.of_ofObjectOnlyOrArray hj h).ofObjectOnlyOrArray (by decide)

end BasicOutput

namespace AliasOutput

theorem writes {o : AliasOutput} (htokens : Survives o.nativeTokens)
    (hconditions : Survives o.unlockConditions) (hfeatures : Survives o.features)
    (himmutable : Survives o.immutableFeatures) : record.Writes o.fields o := by
  have hmetadata : (Record.fieldOr (some []) "stateMetadata" readBytes).Writes
      (nonemptyField "stateMetadata" ofBytes o.stateMetadata) o.stateMetadata :=
    .nonempty (fun bytes => bytes) (readBytes_ofBytes o.stateMetadata)
  refine .congr (.seq (.seq (.seq (.seq (.seq (.seq (.seq (.seq
    (.map (.required o.amount.survives) _) (NativeTokens.writes htokens))
    (.required o.aliasId.survives)) (.required (survives_uint32 o.stateIndex))) hmetadata)
    (.required (survives_uint32 o.foundryCounter))) (.required hconditions))
    (Features.writes "features" hfeatures)) (Features.writes "immutableFeatures" himmutable)) ?_
  simp only [fields, List.append_assoc, List.cons_append, List.nil_append]

theorem writes_of_verify {o : AliasOutput} (h : o.verify = .ok ()) : record.Writes o.fields o := by
  obtain ⟨-, htokens, -, hrules⟩ := verify_eq_ok.1 h
  obtain ⟨hconditions, hfeatures, himmutable⟩ := OutputRules.survives_of_verify hrules
  exact writes (NativeTokens.survives htokens) hconditions hfeatures himmutable

theorem yields : record.Yields fun o => record.Writes o.fields o :=
  .seq (.seq (.seq (.seq (.seq (.seq (.seq (.seq (.map .required
    fun _ _ _ htokens _ _ _ _ _ _ _ _ _ hconditions _ hfeatures _ himmutable =>
      writes htokens hconditions hfeatures himmutable)
    (.withDefault NativeTokens.survives_empty)) .required) .required)
    (.fieldOr (P := fun _ => True) (fun _ _ => trivial) (fun _ _ => trivial))) .required) .required)
    (.withDefault Features.survives_empty)) (.withDefault Features.survives_empty)

instance : LawfulWire AliasOutput where
  survives_of_ofJson hj h := (yields.of_ofObjectOnlyOrArray hj h).ofObjectOnlyOrArray (by decide)

end AliasOutput

namespace FoundryOutput

theorem writes {o : FoundryOutput} (htokens : Survives o.nativeTokens)
    (hscheme : Survives o.tokenScheme) (hconditions : Survives o.unlockConditions)
    (hfeatures : Survives o.features) (himmutable : Survives o.immutableFeatures) :
    record.Writes o.fields o := by
  refine .congr (.seq (.seq (.seq (.seq (.seq (.seq (.map (.required o.amount.survives) _)
    (NativeTokens.writes htokens)) (.required (survives_uint32 o.serialNumber)))
    (.required hscheme)) (.required hconditions)) (Features.writes "features" hfeatures))
    (Features.writes "immutableFeatures" himmutable)) ?_
  simp only [fields, List.append_assoc, List.cons_append, List.nil_append]

theorem writes_of_verify {o : FoundryOutput} (h : o.verify = .ok ()) :
    record.Writes o.fields o := by
  obtain ⟨-, htokens, hscheme, hrules⟩ := verify_eq_ok.1 h
  obtain ⟨hconditions, hfeatures, himmutable⟩ := OutputRules.survives_of_verify hrules
  exact writes (NativeTokens.survives htokens) (TokenScheme.survives_of_verify hscheme) hconditions
    hfeatures himmutable

theorem yields : record.Yields fun o => record.Writes o.fields o :=
  .seq (.seq (.seq (.seq (.seq (.seq (.map .required
    fun _ _ _ htokens _ _ _ hscheme _ hconditions _ hfeatures _ himmutable =>
      writes htokens hscheme hconditions hfeatures himmutable)
    (.withDefault NativeTokens.survives_empty)) .required) .required) .required)
    (.withDefault Features.survives_empty)) (.withDefault Features.survives_empty)

instance : LawfulWire FoundryOutput where
  survives_of_ofJson hj h := (yields.of_ofObjectOnlyOrArray hj h).ofObjectOnlyOrArray (by decide)

end FoundryOutput

namespace NftOutput

theorem writes {o : NftOutput} (htokens : Survives o.nativeTokens)
    (hconditions : Survives o.unlockConditions) (hfeatures : Survives o.features)
    (himmutable : Survives o.immutableFeatures) : record.Writes o.fields o := by
  refine .congr (.seq (.seq (.seq (.seq (.seq (.map (.required o.amount.survives) _)
    (NativeTokens.writes htokens)) (.required o.nftId.survives)) (.required hconditions))
    (Features.writes "features" hfeatures)) (Features.writes "immutableFeatures" himmutable)) ?_
  simp only [fields, List.append_assoc, List.cons_append, List.nil_append]

theorem writes_of_verify {o : NftOutput} (h : o.verify = .ok ()) : record.Writes o.fields o := by
  obtain ⟨-, htokens, hrules⟩ := verify_eq_ok.1 h
  obtain ⟨hconditions, hfeatures, himmutable⟩ := OutputRules.survives_of_verify hrules
  exact writes (NativeTokens.survives htokens) hconditions hfeatures himmutable

theorem yields : record.Yields fun o => record.Writes o.fields o :=
  .seq (.seq (.seq (.seq (.seq (.map .required
    fun _ _ _ htokens _ _ _ hconditions _ hfeatures _ himmutable =>
      writes htokens hconditions hfeatures himmutable)
    (.withDefault NativeTokens.survives_empty)) .required) .required)
    (.withDefault Features.survives_empty)) (.withDefault Features.survives_empty)

instance : LawfulWire NftOutput where
  survives_of_ofJson hj h := (yields.of_ofObjectOnlyOrArray hj h).ofObjectOnlyOrArray (by decide)

end NftOutput

/-! ## The sum of the kinds -/

namespace Output

theorem ofJson_eq (j : Json) :
    (Wire.ofJson j : Except JsonError Output) = Tagged.ofJson "output" j >>= ofTagged :=
  rfl

section

variable {found : List Field}

theorem ofTagged_treasury (h : find? found "opaque" = none) :
    ofTagged ⟨TreasuryOutput.kind, found⟩ =
      (TreasuryOutput.record.ofFieldsOnly found).map treasury := by
  simp [ofTagged, h]

theorem ofTagged_basic (h : find? found "opaque" = none) :
    ofTagged ⟨BasicOutput.kind, found⟩ = (BasicOutput.record.ofFieldsOnly found).map basic := by
  simp [ofTagged, h, TreasuryOutput.kind, BasicOutput.kind]

theorem ofTagged_alias (h : find? found "opaque" = none) :
    ofTagged ⟨AliasOutput.kind, found⟩ = (AliasOutput.record.ofFieldsOnly found).map «alias» := by
  simp [ofTagged, h, TreasuryOutput.kind, BasicOutput.kind, AliasOutput.kind]

theorem ofTagged_foundry (h : find? found "opaque" = none) :
    ofTagged ⟨FoundryOutput.kind, found⟩ =
      (FoundryOutput.record.ofFieldsOnly found).map foundry := by
  simp [ofTagged, h, TreasuryOutput.kind, BasicOutput.kind, AliasOutput.kind, FoundryOutput.kind]

theorem ofTagged_nft (h : find? found "opaque" = none) :
    ofTagged ⟨NftOutput.kind, found⟩ = (NftOutput.record.ofFieldsOnly found).map nft := by
  simp [ofTagged, h, TreasuryOutput.kind, BasicOutput.kind, AliasOutput.kind, FoundryOutput.kind,
    NftOutput.kind]

end

/-- An output of a known kind survives if its record reads back the fields that are written. -/
theorem survives_of_writes {β : Type} {r : Record β} {kind : UInt8} {fields : List Field} {b : β}
    {make : β → Output} (hw : r.Writes fields b) (hnodup : ("type" :: "opaque" :: r.names).Nodup)
    (hwrite : toJson (make b) = (Tagged.mk kind fields).toJson)
    (hread : ∀ {found}, find? found "opaque" = none →
      ofTagged ⟨kind, found⟩ = (r.ofFieldsOnly found).map make) : Survives (make b) := by
  obtain ⟨htype, hrest⟩ := List.nodup_cons.1 hnodup
  obtain ⟨hbare, hnames⟩ := List.nodup_cons.1 hrest
  have huntagged : ("type" :: r.names).Nodup :=
    List.nodup_cons.2 ⟨fun hmem => htype (List.mem_cons_of_mem _ hmem), hnames⟩
  have hnone : find? (ofFields (sortedFields fields)) "opaque" = none :=
    find?_eq_none.2 fun hmem => hbare (hw.mem_names_of_mem_keys _ hmem)
  show Wire.ofJson (toJson (make b)).sorted = _
  rw [ofJson_eq, hwrite, Tagged.ofJson_written hw huntagged]
  refine (hread hnone).trans ?_
  rw [hw.ofFieldsOnly hnames]
  rfl

theorem survives_treasury (o : TreasuryOutput) : Survives (treasury o) :=
  survives_of_writes o.writes (by decide) rfl ofTagged_treasury

theorem survives_basic {o : BasicOutput} (h : BasicOutput.record.Writes o.fields o) :
    Survives (basic o) :=
  survives_of_writes h (by decide) rfl ofTagged_basic

theorem survives_alias {o : AliasOutput} (h : AliasOutput.record.Writes o.fields o) :
    Survives («alias» o) :=
  survives_of_writes h (by decide) rfl ofTagged_alias

theorem survives_foundry {o : FoundryOutput} (h : FoundryOutput.record.Writes o.fields o) :
    Survives (foundry o) :=
  survives_of_writes h (by decide) rfl ofTagged_foundry

theorem survives_nft {o : NftOutput} (h : NftOutput.record.Writes o.fields o) : Survives (nft o) :=
  survives_of_writes h (by decide) rfl ofTagged_nft

/-- An opaque output survives if its body may be kept as bytes. -/
theorem survives_opaque {kind : UInt8} {body : Bytes} (h : verifyOpaque kind body = .ok ()) :
    Survives (unknown ⟨kind, .packed body⟩) := by
  have hread : Tagged.ofJson "output" (Tagged.mk kind [("opaque", ofBytes body)]).toJson.sorted =
      .ok ⟨kind, [("opaque", ofBytes body)]⟩ :=
    Tagged.ofJson_toJson (t := ⟨kind, [("opaque", ofBytes body)]⟩) (by simp [keys]) (by simp [keys])
  refine bind_eq_ok.2 ⟨_, hread, ?_⟩
  have hdecode : (Hex.decode (Hex.encode body)).mapError JsonError.opaqueBytes = .ok body :=
    mapError_eq_ok.2 (Hex.decode_encode body)
  have hverify : (verifyOpaque kind body).mapError JsonError.encoding = .ok () :=
    mapError_eq_ok.2 h
  simp [ofTagged, find?_cons, erase, ofOpaque, ofBytes, hdecode, hverify, bind, Except.bind, pure,
    Except.pure]

/-- Every output that has an encoding survives. -/
theorem survives_of_verify {o : Output} (h : o.verify = .ok ()) : Survives o := by
  cases o with
  | treasury o => exact survives_treasury o
  | basic o => exact survives_basic (BasicOutput.writes_of_verify h)
  | «alias» o => exact survives_alias (AliasOutput.writes_of_verify h)
  | foundry o => exact survives_foundry (FoundryOutput.writes_of_verify h)
  | nft o => exact survives_nft (NftOutput.writes_of_verify h)
  | unknown u =>
    obtain ⟨kind, fields | body⟩ := u
    · cases h
    · exact survives_opaque h

/-- An opaque body that is read may be kept as bytes. -/
theorem ofOpaque_eq_ok {kind : UInt8} {body : Json} {others : List Field} {o : Output}
    (h : ofOpaque kind body others = .ok o) :
    ∃ bytes, verifyOpaque kind bytes = .ok () ∧ o = unknown ⟨kind, .packed bytes⟩ := by
  unfold ofOpaque at h
  cases others with
  | cons field rest => cases h
  | nil =>
    split at h
    · obtain ⟨bytes, -, h⟩ := bind_eq_ok.1 h
      obtain ⟨_, hverify, h⟩ := bind_eq_ok.1 h
      cases h
      exact ⟨bytes, mapError_eq_ok.1 hverify, rfl⟩
    · cases h

/-- What is read behind a kind survives. -/
theorem survives_of_ofTagged {t : Tagged} {o : Output} (hkept : KeptFields t.fields)
    (h : ofTagged t = .ok o) : Survives o := by
  have hread := h
  unfold ofTagged at h
  split at h
  · obtain ⟨bytes, hverify, rfl⟩ := ofOpaque_eq_ok h
    exact survives_opaque hverify
  · split at h
    · obtain ⟨x, -, rfl⟩ := map_eq_ok.1 h
      exact survives_treasury x
    split at h
    · obtain ⟨x, hx, rfl⟩ := map_eq_ok.1 h
      exact survives_basic (BasicOutput.yields.of_ofFieldsOnly hkept.canonical hx)
    split at h
    · obtain ⟨x, hx, rfl⟩ := map_eq_ok.1 h
      exact survives_alias (AliasOutput.yields.of_ofFieldsOnly hkept.canonical hx)
    split at h
    · obtain ⟨x, hx, rfl⟩ := map_eq_ok.1 h
      exact survives_foundry (FoundryOutput.yields.of_ofFieldsOnly hkept.canonical hx)
    split at h
    · obtain ⟨x, hx, rfl⟩ := map_eq_ok.1 h
      exact survives_nft (NftOutput.yields.of_ofFieldsOnly hkept.canonical hx)
    · cases h
      -- what came as fields is read again as it was read before
      exact bind_eq_ok.2 ⟨t, Unrecognized.ofJson_fields hkept, hread⟩

instance : LawfulWire Output where
  survives_of_ofJson hj h := by
    obtain ⟨t, ht, h⟩ := bind_eq_ok.1 h
    exact survives_of_ofTagged (Tagged.keptFields hj ht) h

end Output

end UtxoCodec
