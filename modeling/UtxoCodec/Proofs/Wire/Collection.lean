import UtxoCodec.Proofs.Wire.Element

/-!
# JSON forms of token schemes, unlock conditions and features

An element of a known kind survives being sent as JSON. One of an unknown kind does if its kind is
not known and its fields are kept as they came (`KeptFields`), as is the case for what is read. A
collection that was sorted and whose elements survive does so too.
-/

namespace UtxoCodec

open Outcome Json

/-! ## Unrecognized elements -/

namespace Unrecognized

/-- An element that is kept as fields is read back as the kind and the fields. -/
theorem ofJson_fields {what : String} {kind : UInt8} {fields : List Field} (h : KeptFields fields) :
    Tagged.ofJson what (toJson ⟨kind, .fields fields⟩).sorted = .ok ⟨kind, fields⟩ := by
  have hread : Tagged.ofJson what (Tagged.mk kind fields).toJson.sorted = _ :=
    Tagged.ofJson_toJson h.keysIncrease.nodup h.untagged
  rw [h.ofFields_sortedFields] at hread
  exact hread

end Unrecognized

/-- A tagged type is lawful if its known kinds survive: an element that was kept as fields is read
in the same way again. -/
theorem LawfulWire.ofTagged {α : Type} [Wire α] {what : String} {read : Tagged → Except JsonError α}
    (unknown : Unrecognized → α) (hread : ∀ j, Wire.ofJson j = Tagged.ofJson what j >>= read)
    (hwrite : ∀ u, Wire.toJson (unknown u) = u.toJson)
    (hkept : ∀ t u, read t = .ok (unknown u) → u = .ofTagged t)
    (hknown : ∀ a, (∀ u, a ≠ unknown u) → Survives a) : LawfulWire α where
  survives_of_ofJson {j a} hj h := by
    rw [hread] at h
    obtain ⟨t, ht, h⟩ := bind_eq_ok.1 h
    by_cases ha : ∀ u, a ≠ unknown u
    · exact hknown a ha
    · obtain ⟨u, hu⟩ := Classical.not_forall.1 ha
      obtain rfl := Classical.not_not.1 hu
      obtain rfl := hkept t u h
      show Wire.ofJson (Wire.toJson (unknown (.ofTagged t))).sorted = _
      rw [hread, hwrite]
      exact bind_eq_ok.2 ⟨t, Unrecognized.ofJson_fields (Tagged.keptFields hj ht), h⟩

theorem Json.Record.map_ofFields {α β : Type} (f : α → β) (r : Record α) (fields : List Field) :
    (f <$> r).ofFields fields = (r.ofFields fields).map f := by
  show Except.mapError _ (Except.map f _) = Except.map f (Except.mapError _ _)
  cases r.read (Record.objectSource fields) 0 <;> rfl

/-! ## Token schemes -/

namespace SimpleTokenScheme

theorem writes (s : SimpleTokenScheme) : record.Writes s.fields s :=
  .seq (.seq (.map (.present (readWord256_ofWord256 s.mintedTokens)) _)
    (.present (readWord256_ofWord256 s.meltedTokens)))
    (.present (readWord256_ofWord256 s.maximumSupply))

theorem survives (s : SimpleTokenScheme) : Survives s :=
  s.writes.ofObjectOrArray (by decide)

instance : LawfulWire SimpleTokenScheme := ⟨fun _ _ => survives _⟩

end SimpleTokenScheme

namespace TokenScheme

theorem survives_simple (s : SimpleTokenScheme) : Survives (simple s) := by
  refine Tagged.survives (fun _ => rfl) rfl s.writes (by decide) fun found h => ?_
  rw [if_pos rfl, h]
  rfl

theorem survives_of_verify {s : TokenScheme} (h : s.verify = .ok ()) : Survives s := by
  cases s with
  | simple s => exact survives_simple s
  | unknown u => cases h

instance : LawfulWire TokenScheme := by
  refine .ofTagged unknown (fun _ => rfl) (fun _ => rfl) (fun t u h => ?_) fun s hs => ?_
  · split at h
    · obtain ⟨simple, -, h⟩ := bind_eq_ok.1 h
      cases h
    · cases h
      rfl
  · cases s with
    | simple s => exact survives_simple s
    | unknown u => exact absurd rfl (hs u)

end TokenScheme

/-! ## Unlock conditions -/

namespace StorageDepositReturn

theorem writes (c : StorageDepositReturn) : record.Writes c.fields c :=
  .seq (.map (.required c.returnAddress.survives) _) (.required c.amount.survives)

theorem survives (c : StorageDepositReturn) : Survives c :=
  c.writes.ofObjectOrArray (by decide)

instance : LawfulWire StorageDepositReturn := ⟨fun _ _ => survives _⟩

end StorageDepositReturn

namespace Timelock

theorem writes (c : Timelock) : record.Writes c.fields c :=
  .map (.required (survives_uint32 c.unixTime)) _

theorem survives (c : Timelock) : Survives c :=
  c.writes.ofObjectOrArray (by decide)

instance : LawfulWire Timelock := ⟨fun _ _ => survives _⟩

end Timelock

namespace Expiration

theorem writes (c : Expiration) : record.Writes c.fields c :=
  .seq (.map (.required c.returnAddress.survives) _) (.required (survives_uint32 c.unixTime))

theorem survives (c : Expiration) : Survives c :=
  c.writes.ofObjectOrArray (by decide)

instance : LawfulWire Expiration := ⟨fun _ _ => survives _⟩

end Expiration

namespace UnlockCondition

theorem writes_address (make : Address → UnlockCondition) (a : Address) :
    (make <$> Record.required "address").Writes [("address", Wire.toJson a)] (make a) :=
  .map (.required a.survives) make

theorem ofJson_eq (j : Json) : (Wire.ofJson j : Except JsonError UnlockCondition) =
    Tagged.ofJson "unlock condition" j >>= ofTagged :=
  rfl

theorem survives_of_ne_unknown {c : UnlockCondition} (h : ∀ u, c ≠ unknown u) : Survives c := by
  cases c with
  | address a =>
    have hw := writes_address address a
    refine Tagged.survives ofJson_eq rfl hw (by decide) fun found hread => ?_
    simp [ofTagged, kind, hread]
  | storageDepositReturn c | timelock c | expiration c =>
    refine Tagged.survives ofJson_eq rfl c.writes (by decide) fun found hread => ?_
    simp [ofTagged, kind, hread, Except.map]
  | stateController a =>
    have hw := writes_address stateController a
    refine Tagged.survives ofJson_eq rfl hw (by decide) fun found hread => ?_
    simp [ofTagged, kind, hread]
  | governor a =>
    have hw := writes_address governor a
    refine Tagged.survives ofJson_eq rfl hw (by decide) fun found hread => ?_
    simp [ofTagged, kind, hread]
  | immutableAlias a =>
    have hw := writes_address immutableAlias a
    refine Tagged.survives ofJson_eq rfl hw (by decide) fun found hread => ?_
    simp [ofTagged, kind, hread]
  | unknown u => exact absurd rfl (h u)

/-- Only the fields of a kind that is not known are kept as they come. -/
theorem ofTagged_eq_unknown {t : Tagged} {u : Unrecognized} (h : ofTagged t = .ok (unknown u)) :
    u = .ofTagged t := by
  unfold ofTagged at h
  simp only [Record.map_ofFields] at h
  obtain ⟨-, h⟩ := else_of_ite_map h fun _ heq => nomatch heq
  obtain ⟨-, h⟩ := else_of_ite_map h fun _ heq => nomatch heq
  obtain ⟨-, h⟩ := else_of_ite_map h fun _ heq => nomatch heq
  obtain ⟨-, h⟩ := else_of_ite_map h fun _ heq => nomatch heq
  obtain ⟨-, h⟩ := else_of_ite_map h fun _ heq => nomatch heq
  obtain ⟨-, h⟩ := else_of_ite_map h fun _ heq => nomatch heq
  obtain ⟨-, h⟩ := else_of_ite_map h fun _ heq => nomatch heq
  cases h
  rfl

theorem survives_of_verify {c : UnlockCondition} (h : c.verify = .ok ()) : Survives c := by
  refine survives_of_ne_unknown ?_
  rintro u rfl
  cases h

instance : LawfulWire UnlockCondition :=
  .ofTagged unknown ofJson_eq (fun _ => rfl) (fun _ _ => ofTagged_eq_unknown)
    fun _ => survives_of_ne_unknown

end UnlockCondition

namespace UnlockConditions

theorem survives {cs : UnlockConditions} (h : cs.verifyKinds = .ok ())
    (hitems : ∀ c ∈ cs.items, Survives c) : Survives cs := by
  refine bind_eq_ok.2 ⟨cs.items, survives_list hitems, ?_⟩
  exact mapError_eq_ok.2 (ofList_items h)

theorem survives_of_ofList {conditions : List UnlockCondition} {cs : UnlockConditions}
    (hitems : ∀ c ∈ conditions, Survives c) (h : ofList conditions = .ok cs) : Survives cs := by
  obtain ⟨hkinds, hsorted⟩ := check_eq_ok.1 h
  rw [hsorted] at hkinds
  exact survives hkinds fun c hc => hitems c ((collects.perm _ _ h).mem_iff.1 hc)

theorem survives_of_verify {cs : UnlockConditions} (h : cs.verify = .ok ()) : Survives cs := by
  obtain ⟨hkinds, hitems⟩ := verify_eq_ok.1 h
  exact survives hkinds fun c hc => UnlockCondition.survives_of_verify (hitems c hc)

instance : LawfulWire UnlockConditions where
  survives_of_ofJson hj h := by
    obtain ⟨conditions, hread, h⟩ := bind_eq_ok.1 h
    exact survives_of_ofList (survives_of_readArray hj hread) (mapError_eq_ok.1 h)

end UnlockConditions

/-! ## Features -/

namespace Feature

theorem writes_address (make : Address → Feature) (a : Address) :
    (make <$> Record.required "address").Writes [("address", Wire.toJson a)] (make a) :=
  .map (.required a.survives) make

theorem writes_bytes (name : String) (make : Bytes → Feature) (bytes : Bytes) :
    (make <$> Record.fieldOr none name readBytes).Writes [(name, ofBytes bytes)] (make bytes) :=
  .map (.present (readBytes_ofBytes bytes)) make

theorem ofJson_eq (j : Json) : (Wire.ofJson j : Except JsonError Feature) =
    Tagged.ofJson "feature" j >>= ofTagged :=
  rfl

theorem survives_of_ne_unknown {f : Feature} (h : ∀ u, f ≠ unknown u) : Survives f := by
  cases f with
  | sender a =>
    have hw := writes_address sender a
    refine Tagged.survives ofJson_eq rfl hw (by decide) fun found hread => ?_
    simp [ofTagged, kind, hread]
  | issuer a =>
    have hw := writes_address issuer a
    refine Tagged.survives ofJson_eq rfl hw (by decide) fun found hread => ?_
    simp [ofTagged, kind, hread]
  | metadata data =>
    have hw := writes_bytes "data" metadata data
    refine Tagged.survives ofJson_eq rfl hw (by decide) fun found hread => ?_
    simp [ofTagged, kind, hread]
  | tag bytes =>
    have hw := writes_bytes "tag" tag bytes
    refine Tagged.survives ofJson_eq rfl hw (by decide) fun found hread => ?_
    simp [ofTagged, kind, hread]
  | unknown u => exact absurd rfl (h u)

/-- Only the fields of a kind that is not known are kept as they come. -/
theorem ofTagged_eq_unknown {t : Tagged} {u : Unrecognized} (h : ofTagged t = .ok (unknown u)) :
    u = .ofTagged t := by
  unfold ofTagged at h
  simp only [Record.map_ofFields] at h
  obtain ⟨-, h⟩ := else_of_ite_map h fun _ heq => nomatch heq
  obtain ⟨-, h⟩ := else_of_ite_map h fun _ heq => nomatch heq
  obtain ⟨-, h⟩ := else_of_ite_map h fun _ heq => nomatch heq
  obtain ⟨-, h⟩ := else_of_ite_map h fun _ heq => nomatch heq
  cases h
  rfl

theorem survives_of_verify {f : Feature} (h : f.verify = .ok ()) : Survives f := by
  refine survives_of_ne_unknown ?_
  rintro u rfl
  cases h

instance : LawfulWire Feature :=
  .ofTagged unknown ofJson_eq (fun _ => rfl) (fun _ _ => ofTagged_eq_unknown)
    fun _ => survives_of_ne_unknown

end Feature

namespace Features

theorem survives {fs : Features} (h : fs.verifyKinds = .ok ())
    (hitems : ∀ f ∈ fs.items, Survives f) : Survives fs := by
  refine bind_eq_ok.2 ⟨fs.items, survives_list hitems, ?_⟩
  exact mapError_eq_ok.2 (ofList_items h)

theorem survives_of_ofList {features : List Feature} {fs : Features}
    (hitems : ∀ f ∈ features, Survives f) (h : ofList features = .ok fs) : Survives fs := by
  obtain ⟨hkinds, hsorted⟩ := check_eq_ok.1 h
  rw [hsorted] at hkinds
  exact survives hkinds fun f hf => hitems f ((collects.perm _ _ h).mem_iff.1 hf)

theorem survives_of_verify {fs : Features} (h : fs.verify = .ok ()) : Survives fs := by
  obtain ⟨hkinds, hitems⟩ := verify_eq_ok.1 h
  exact survives hkinds fun f hf => Feature.survives_of_verify (hitems f hf)

instance : LawfulWire Features where
  survives_of_ofJson hj h := by
    obtain ⟨features, hread, h⟩ := bind_eq_ok.1 h
    exact survives_of_ofList (survives_of_readArray hj hread) (mapError_eq_ok.1 h)

end Features

end UtxoCodec
