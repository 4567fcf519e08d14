import UtxoCodec.Proofs.Wire.Verbatim

/-!
# What an output keeps of its JSON

An output of a known kind may hold elements of unknown kinds: unlock conditions and features, which
are sorted and checked, and a token scheme. Each that was read is written as it came and once
(`KeepsUnrecognized`). The elements that are collected differ by kind and are read back as they were
(`Survives`), so what is written for them differs (`Collects.count_toWire`). Main statement:
`unrecognized_verbatim`.
-/

namespace UtxoCodec

open Outcome Json

/-- Every item of an unknown kind that one value has in the list under a name, the other has there
once. -/
def KeepsItems (known : List Nat) (name : String) (j j' : Json) : Prop :=
  ∀ items x, j.field? name = some (.array items) → x ∈ items → x.OfUnknownKind known →
    ∃ written, j'.field? name = some (.array written) ∧ written.count x = 1

/-- An object of an unknown kind that one value has under a name, the other has there. -/
def KeepsField (known : List Nat) (name : String) (j j' : Json) : Prop :=
  ∀ x, j.field? name = some x → x.OfUnknownKind known → j'.field? name = some x

/-- The JSON of an output has all that was not recognized in the JSON that it was read from. -/
structure KeepsUnrecognized (j j' : Json) : Prop where
  unlockConditions : KeepsItems [0, 1, 2, 3, 4, 5, 6] "unlockConditions" j j'
  features : KeepsItems [0, 1, 2, 3] "features" j j'
  immutableFeatures : KeepsItems [0, 1, 2, 3] "immutableFeatures" j j'
  tokenScheme : KeepsField [0] "tokenScheme" j j'

/-! ## Elements -/

section

variable {known : List Nat} {name : String} {j j' : Json}

theorem KeepsItems.of_absent (h : j.field? name = none) : KeepsItems known name j j' := by
  intro items x hitems
  rw [h] at hitems
  cases hitems

theorem KeepsField.of_absent (h : j.field? name = none) : KeepsField known name j j' := by
  intro x hx
  rw [h] at hx
  cases hx

theorem Survives.eq_of_toWire_eq {α : Type} [Wire α] {a b : α} (ha : Survives a) (hb : Survives b)
    (h : toWire a = toWire b) : a = b := by
  have hread : Wire.ofJson (toWire a) = .ok a := ha
  have hread' : Wire.ofJson (toWire b) = .ok b := hb
  rw [h, hread'] at hread
  cases hread
  rfl

theorem KeepsUnknown.toWire_eq {α : Type} [Wire α] {x : Json} {a : α} (h : KeepsUnknown α known [])
    (hx : x.Canonical) (hkind : x.OfUnknownKind known) (hread : Wire.ofJson x = .ok a) :
    toWire a = x := by
  obtain ⟨b, hb, hwritten⟩ := h x hx hkind fun _ hname => absurd hname List.not_mem_nil
  have hread' : Wire.ofJson x = .ok b := hb
  rw [hread] at hread'
  cases hread'
  exact hwritten

theorem toWire_list {α : Type} [Wire α] (as : List α) : toWire as = .array (as.map toWire) := by
  show Json.array (sortedItems (as.map Wire.toJson)) = _
  rw [sortedItems_eq_map, List.map_map]
  rfl

variable {α γ : Type} [Wire α] [LawfulWire α] {ofList : List α → Except EncodingError γ}
  {items : γ → List α} {kind : α → UInt8} {greatest : Nat} {sound : α → Prop} {c : γ}

/-- What is written for a collected element is written once. -/
theorem Collects.count_toWire (hc : Collects ofList items kind greatest sound) {found : List Json}
    {l : List α} (hfound : (Json.array found).Canonical)
    (hread : Wire.ofJson (.array found) = .ok l) (hof : ofList l = .ok c) {a : α} (ha : a ∈ items c) :
    ((items c).map toWire).count (toWire a) = 1 := by
  have hsurvives : ∀ b ∈ items c, Survives b := fun b hb =>
    survives_of_readArray hfound hread b ((hc.perm l c hof).mem_iff.1 hb)
  have hnodup : (items c).Nodup :=
    List.Nodup.of_map kind ((hc.increasing l c hof).imp UInt8.ne_of_lt)
  have hwritten : ((items c).map toWire).Nodup :=
    List.Nodup.map_on (fun a ha b hb => (hsurvives a ha).eq_of_toWire_eq (hsurvives b hb)) hnodup
  exact List.count_eq_one_of_mem hwritten (List.mem_map_of_mem ha)

/-- A list that is collected from one value and written in another. -/
theorem KeepsItems.of_collects (hc : Collects ofList items kind greatest sound)
    (hknown : KeepsUnknown α known []) (hj : j.Canonical)
    (hread : ∀ v, j.field? name = some v → ∃ l : List α, Wire.ofJson v = .ok l ∧ ofList l = .ok c)
    (hwritten : items c ≠ [] → j'.field? name = some (toWire (items c))) :
    KeepsItems known name j j' := by
  intro found x hfound hx hkind
  obtain ⟨l, hl, hof⟩ := hread _ hfound
  have hcanonical := canonical_field? hj hfound
  obtain ⟨a, ha, hxa⟩ := exists_of_mapM (f := Wire.ofJson) hl x hx
  obtain rfl := hknown.toWire_eq (canonicalItems_iff.1 hcanonical x hx) hkind hxa
  have hmem : a ∈ items c := (hc.perm l c hof).mem_iff.2 ha
  refine ⟨(items c).map toWire, ?_, hc.count_toWire hcanonical hl hof hmem⟩
  rw [hwritten (List.ne_nil_of_mem hmem), toWire_list]

end

/-! ## Places in an output -/

/-- A value is read as a tagged object, and another one is written for it. -/
structure Rewritten (j : Json) (t t' : Tagged) : Prop where
  canonical : j.Canonical
  read : Tagged.ofJson "output" j = .ok t
  nodup : ("type" :: keys t'.fields).Nodup

namespace Rewritten

variable {j : Json} {t t' : Tagged} {name : String}

theorem field?_read (h : Rewritten j t t') (hname : name ≠ "type") :
    j.field? name = find? t.fields name :=
  Tagged.field?_of_ofJson h.read hname

/-- Nothing stands under a name that is not declared. -/
theorem field?_undeclared (h : Rewritten j t t') {α : Type} {r : Record α} {a : α}
    (hread : r.ofFieldsOnly t.fields = .ok a) (hname : name ≠ "type")
    (hundeclared : name ∉ r.names) : j.field? name = none := by
  rw [h.field?_read hname]
  exact Record.find?_of_ofFieldsOnly hread hundeclared

theorem field?_written (h : Rewritten j t t') (hname : name ≠ "type") {α : Type} [Wire α] {a : α}
    (hwritten : find? t'.fields name = some (Wire.toJson a)) :
    t'.toJson.sorted.field? name = some (toWire a) := by
  rw [Tagged.field?_sorted_toJson h.nodup hname, hwritten]
  rfl

/-- A collection that is read from a list and written as one. -/
theorem collected (h : Rewritten j t t') (hname : name ≠ "type") {α γ : Type} [Wire α]
    [LawfulWire α] [Wire γ] {ofList : List α → Except EncodingError γ} {items : γ → List α}
    {kind : α → UInt8} {greatest : Nat} {sound : α → Prop} {known : List Nat} {c : γ}
    (hc : Collects ofList items kind greatest sound) (hknown : KeepsUnknown α known [])
    (hofJson : ∀ v, (Wire.ofJson v : Except JsonError γ) =
      Wire.ofJson v >>= fun l => (ofList l).mapError .encoding)
    (hread : Record.Found t.fields name c)
    (hwritten : items c ≠ [] → find? t'.fields name = some (Wire.toJson (items c))) :
    KeepsItems known name j t'.toJson.sorted := by
  refine .of_collects hc hknown h.canonical (fun v hv => ?_)
    fun hne => h.field?_written hname (hwritten hne)
  rw [h.field?_read hname] at hv
  obtain ⟨l, hl, hof⟩ := bind_eq_ok.1 ((hofJson v).symm.trans (hread v hv))
  exact ⟨l, hl, mapError_eq_ok.1 hof⟩

theorem unlockConditions (h : Rewritten j t t') {cs : UnlockConditions}
    (hread : Record.Found t.fields "unlockConditions" cs)
    (hwritten : find? t'.fields "unlockConditions" = some (Wire.toJson cs)) :
    KeepsItems [0, 1, 2, 3, 4, 5, 6] "unlockConditions" j t'.toJson.sorted :=
  h.collected (by decide) UnlockConditions.collects UnlockCondition.keepsUnknown (fun _ => rfl)
    hread fun _ => hwritten

theorem features (h : Rewritten j t t') (hname : name ≠ "type") {fs : Features}
    (hread : Record.Found t.fields name fs)
    (hwritten : fs.items ≠ [] → find? t'.fields name = some (Wire.toJson fs.items)) :
    KeepsItems [0, 1, 2, 3] name j t'.toJson.sorted :=
  h.collected hname Features.collects Feature.keepsUnknown (fun _ => rfl) hread hwritten

theorem tokenScheme (h : Rewritten j t t') {s : TokenScheme}
    (hread : Record.Found t.fields "tokenScheme" s)
    (hwritten : find? t'.fields "tokenScheme" = some (Wire.toJson s)) :
    KeepsField [0] "tokenScheme" j t'.toJson.sorted := by
  intro x hx hkind
  have hfound := hx
  rw [h.field?_read (by decide)] at hfound
  rw [h.field?_written (by decide) hwritten,
    TokenScheme.keepsUnknown.toWire_eq (canonical_field? h.canonical hx) hkind (hread x hfound)]

end Rewritten

theorem find?_nonemptyField {α : Type} (name : String) (write : List α → Json) (as : List α)
    (key : String) : find? (nonemptyField name write as) key =
      if key = name ∧ as ≠ [] then some (write as) else none := by
  cases as with
  | nil => simp [nonemptyField]
  | cons a rest => simp [nonemptyField, find?_cons]

/-! ## The kinds -/

namespace Output

variable {j : Json} {t : Tagged}

theorem keeps_treasury {o : TreasuryOutput} (h : Rewritten j t ⟨TreasuryOutput.kind, o.fields⟩)
    (hread : TreasuryOutput.record.ofFieldsOnly t.fields = .ok o) :
    KeepsUnrecognized j (toWire (treasury o)) where
  unlockConditions := .of_absent (h.field?_undeclared hread (by decide) (by decide))
  features := .of_absent (h.field?_undeclared hread (by decide) (by decide))
  immutableFeatures := .of_absent (h.field?_undeclared hread (by decide) (by decide))
  tokenScheme := .of_absent (h.field?_undeclared hread (by decide) (by decide))

theorem keeps_basic {o : BasicOutput} (h : Rewritten j t ⟨BasicOutput.kind, o.fields⟩)
    (hread : BasicOutput.record.ofFieldsOnly t.fields = .ok o) :
    KeepsUnrecognized j (toWire (basic o)) := by
  have htakes : Record.Takes t.fields BasicOutput.record fun o =>
      Record.Found t.fields "unlockConditions" o.unlockConditions ∧
        Record.Found t.fields "features" o.features :=
    .seq (.seq (.seq (.map .any fun _ _ _ _ _ hconditions _ hfeatures =>
      ⟨hconditions, hfeatures⟩) .any) .found) .found
  obtain ⟨hconditions, hfeatures⟩ := htakes.of_ofFieldsOnly hread
  refine ⟨h.unlockConditions hconditions ?_, h.features (by decide) hfeatures fun hne => ?_,
    .of_absent (h.field?_undeclared hread (by decide) (by decide)),
    .of_absent (h.field?_undeclared hread (by decide) (by decide))⟩
  · simp [BasicOutput.fields, find?_append, find?_cons, find?_nonemptyField]
  · simp [BasicOutput.fields, find?_append, find?_cons, find?_nonemptyField, hne]

theorem keeps_alias {o : AliasOutput} (h : Rewritten j t ⟨AliasOutput.kind, o.fields⟩)
    (hread : AliasOutput.record.ofFieldsOnly t.fields = .ok o) :
    KeepsUnrecognized j (toWire («alias» o)) := by
  have htakes : Record.Takes t.fields AliasOutput.record fun o =>
      Record.Found t.fields "unlockConditions" o.unlockConditions ∧
        Record.Found t.fields "features" o.features ∧
        Record.Found t.fields "immutableFeatures" o.immutableFeatures :=
    .seq (.seq (.seq (.seq (.seq (.seq (.seq (.seq (.map .any
      fun _ _ _ _ _ _ _ _ _ _ _ _ _ hconditions _ hfeatures _ himmutable =>
        ⟨hconditions, hfeatures, himmutable⟩) .any) .any) .any) .any) .any) .found) .found) .found
  obtain ⟨hconditions, hfeatures, himmutable⟩ := htakes.of_ofFieldsOnly hread
  refine ⟨h.unlockConditions hconditions ?_, h.features (by decide) hfeatures fun hne => ?_,
    h.features (by decide) himmutable fun hne => ?_,
    .of_absent (h.field?_undeclared hread (by decide) (by decide))⟩
  · simp [AliasOutput.fields, find?_append, find?_cons, find?_nonemptyField]
  · simp [AliasOutput.fields, find?_append, find?_cons, find?_nonemptyField, hne]
  · simp [AliasOutput.fields, find?_append, find?_cons, find?_nonemptyField, hne]

theorem keeps_foundry {o : FoundryOutput} (h : Rewritten j t ⟨FoundryOutput.kind, o.fields⟩)
    (hread : FoundryOutput.record.ofFieldsOnly t.fields = .ok o) :
    KeepsUnrecognized j (toWire (foundry o)) := by
  have htakes : Record.Takes t.fields FoundryOutput.record fun o =>
      Record.Found t.fields "tokenScheme" o.tokenScheme ∧
        Record.Found t.fields "unlockConditions" o.unlockConditions ∧
        Record.Found t.fields "features" o.features ∧
        Record.Found t.fields "immutableFeatures" o.immutableFeatures :=
    .seq (.seq (.seq (.seq (.seq (.seq (.map .any
      fun _ _ _ _ _ _ _ hscheme _ hconditions _ hfeatures _ himmutable =>
        ⟨hscheme, hconditions, hfeatures, himmutable⟩) .any) .any) .found) .found) .found) .found
  obtain ⟨hscheme, hconditions, hfeatures, himmutable⟩ := htakes.of_ofFieldsOnly hread
  refine ⟨h.unlockConditions hconditions ?_, h.features (by decide) hfeatures fun hne => ?_,
    h.features (by decide) himmutable fun hne => ?_, h.tokenScheme hscheme ?_⟩
  · simp [FoundryOutput.fields, find?_append, find?_cons, find?_nonemptyField]
  · simp [FoundryOutput.fields, find?_append, find?_cons, find?_nonemptyField, hne]
  · simp [FoundryOutput.fields, find?_append, find?_cons, find?_nonemptyField, hne]
  · simp [FoundryOutput.fields, find?_append, find?_cons, find?_nonemptyField]

theorem keeps_nft {o : NftOutput} (h : Rewritten j t ⟨NftOutput.kind, o.fields⟩)
    (hread : NftOutput.record.ofFieldsOnly t.fields = .ok o) :
    KeepsUnrecognized j (toWire (nft o)) := by
  have htakes : Record.Takes t.fields NftOutput.record fun o =>
      Record.Found t.fields "unlockConditions" o.unlockConditions ∧
        Record.Found t.fields "features" o.features ∧
        Record.Found t.fields "immutableFeatures" o.immutableFeatures :=
    .seq (.seq (.seq (.seq (.seq (.map .any
      fun _ _ _ _ _ _ _ hconditions _ hfeatures _ himmutable =>
        ⟨hconditions, hfeatures, himmutable⟩) .any) .any) .found) .found) .found
  obtain ⟨hconditions, hfeatures, himmutable⟩ := htakes.of_ofFieldsOnly hread
  refine ⟨h.unlockConditions hconditions ?_, h.features (by decide) hfeatures fun hne => ?_,
    h.features (by decide) himmutable fun hne => ?_,
    .of_absent (h.field?_undeclared hread (by decide) (by decide))⟩
  · simp [NftOutput.fields, find?_append, find?_cons, find?_nonemptyField]
  · simp [NftOutput.fields, find?_append, find?_cons, find?_nonemptyField, hne]
  · simp [NftOutput.fields, find?_append, find?_cons, find?_nonemptyField, hne]

/-- An opaque output has nothing but its body. -/
theorem field?_of_ofOpaque {o : Output} {body : Json} {name : String}
    (hj : Tagged.ofJson "output" j = .ok t)
    (h : ofOpaque t.kind body (erase t.fields "opaque") = .ok o) (htype : name ≠ "type")
    (hbody : name ≠ "opaque") : j.field? name = none := by
  rw [Tagged.field?_of_ofJson hj htype]
  have herased := find?_erase t.fields "opaque" name
  rw [if_neg hbody] at herased
  rw [← herased]
  unfold ofOpaque at h
  cases hothers : erase t.fields "opaque" with
  | nil => rfl
  | cons field rest =>
    rw [hothers] at h
    cases h

theorem keepsUnrecognized {o : Output} (hj : j.Canonical) (hread : fromWire j = .ok o)
    (hkind : isKnownKind o.kind = true) : KeepsUnrecognized j (toWire o) := by
  obtain ⟨t, ht, h⟩ := bind_eq_ok.1 hread
  have hkept := Tagged.keptFields hj ht
  have rewritten {α : Type} {r : Record α} {kind : UInt8} {fields : List Field} {a : α}
      (hw : r.Writes fields a) (hnames : ("type" :: r.names).Nodup) :
      Rewritten j t ⟨kind, fields⟩ :=
    ⟨hj, ht, hnames.sublist (hw.keys_sublist.cons_cons "type")⟩
  unfold ofTagged at h
  split at h
  · refine ⟨.of_absent ?_, .of_absent ?_, .of_absent ?_, .of_absent ?_⟩ <;>
      exact field?_of_ofOpaque ht h (by decide) (by decide)
  · split at h
    · obtain ⟨x, hx, rfl⟩ := map_eq_ok.1 h
      exact keeps_treasury (rewritten x.writes (by decide)) hx
    split at h
    · obtain ⟨x, hx, rfl⟩ := map_eq_ok.1 h
      have hw := BasicOutput.yields.of_ofFieldsOnly hkept.canonical hx
      exact keeps_basic (rewritten hw (by decide)) hx
    split at h
    · obtain ⟨x, hx, rfl⟩ := map_eq_ok.1 h
      have hw := AliasOutput.yields.of_ofFieldsOnly hkept.canonical hx
      exact keeps_alias (rewritten hw (by decide)) hx
    split at h
    · obtain ⟨x, hx, rfl⟩ := map_eq_ok.1 h
      have hw := FoundryOutput.yields.of_ofFieldsOnly hkept.canonical hx
      exact keeps_foundry (rewritten hw (by decide)) hx
    split at h
    · obtain ⟨x, hx, rfl⟩ := map_eq_ok.1 h
      have hw := NftOutput.yields.of_ofFieldsOnly hkept.canonical hx
      exact keeps_nft (rewritten hw (by decide)) hx
    · next hne₁ hne₂ hne₃ hne₄ hne₅ =>
      cases h
      have hkind' : isKnownKind t.kind = true := hkind
      simp [isKnownKind, hne₁, hne₂, hne₃, hne₄, hne₅] at hkind'

end Output

/-! ## The statement -/

/-- Parameters are written as they were read, with all fields that they do not declare, and so is an
element or an output of an unknown kind. In an output of a known kind every element that is not
recognized is written as it came, once; no key is written twice either. -/
theorem unrecognized_verbatim :
    (Verbatim RentStructure ∧ Verbatim ProtocolParameters) ∧
    (KeepsUnknown UnlockCondition [0, 1, 2, 3, 4, 5, 6] [] ∧ KeepsUnknown Feature [0, 1, 2, 3] [] ∧
      KeepsUnknown TokenScheme [0] [] ∧ KeepsUnknown Output [2, 3, 4, 5, 6] ["opaque"]) ∧
    ∀ (j : Json) (o : Output), j.Canonical → fromWire j = .ok o →
      Output.isKnownKind o.kind = true →
        KeepsUnrecognized j (toWire o) ∧ (toWire o).Canonical := by
  refine ⟨⟨RentStructure.verbatim, ProtocolParameters.verbatim⟩,
    ⟨UnlockCondition.keepsUnknown, Feature.keepsUnknown, TokenScheme.keepsUnknown,
      Output.keepsUnknown⟩, ?_⟩
  intro j o hj hread hkind
  exact ⟨Output.keepsUnrecognized hj hread hkind, canonical_sorted _⟩

/-- Prices with a field that is not declared, and a basic output with two unlock conditions of
unknown kinds, the greater one first. -/
theorem unrecognized_verbatim_decreasing :
    let prices := Json.object [("later", .null), ("vByteCost", nat 1), ("vByteFactorData", nat 2),
      ("vByteFactorKey", nat 3)]
    let rent : RentStructure := ⟨1, 2, 3, [("later", .null)]⟩
    let first := Json.object [("kept", .array []), ("type", nat 9)]
    let j := Json.object [("amount", .string "1"), ("type", nat 3),
      ("unlockConditions", .array [first, .object [("type", nat 8)]])]
    let conditions : UnlockConditions :=
      ⟨[.unknown ⟨8, .fields []⟩, .unknown ⟨9, .fields [("kept", .array [])]⟩]⟩
    let o := Output.basic ⟨⟨1⟩, .empty, conditions, .empty⟩
    (fromWire prices = .ok rent ∧ toWire rent = prices) ∧
    (∃ c : UnlockCondition, fromWire first = .ok c ∧ toWire c = first) ∧
    fromWire j = .ok o ∧ ∃ written, (toWire o).field? "unlockConditions" = some (.array written) ∧
      written.count first = 1 := by
  intro prices rent first j conditions o
  have hj : j.Canonical := by decide
  have hkind : first.OfUnknownKind [0, 1, 2, 3, 4, 5, 6] := ⟨9, by decide, by decide, rfl⟩
  have hcollect : UnlockConditions.ofList conditions.items.reverse = .ok conditions := by
    rw [UnlockConditions.ofList_of_perm (List.reverse_perm conditions.items)]
    exact UnlockConditions.ofList_items rfl
  have hread : fromWire j = .ok o := by
    have hamount : (Wire.ofJson (.string "1") : Except JsonError Amount) = .ok ⟨1⟩ := rfl
    have hconditions : Wire.ofJson (.array [first, .object [("type", nat 8)]]) = .ok conditions :=
      mapError_eq_ok.2 hcollect
    have hreads : BasicOutput.record.Reads
        [("amount", .string "1"),
          ("unlockConditions", .array [first, .object [("type", nat 8)]])]
        (some ⟨⟨1⟩, .empty, conditions, .empty⟩) :=
      .seq (.seq (.seq (.map (.found rfl hamount) _) (.absent rfl)) (.found rfl hconditions))
        (.absent rfl)
    exact map_eq_ok.2 ⟨_, toOption_eq_some.1 (hreads.ofFieldsOnly (by decide)), rfl⟩
  obtain ⟨⟨hrent, -⟩, ⟨hcondition, -⟩, houtput⟩ := unrecognized_verbatim
  refine ⟨⟨rfl, hrent prices rent (by decide) rfl⟩, ?_, hread, ?_⟩
  · exact hcondition first (by decide) hkind fun _ hname => absurd hname List.not_mem_nil
  · exact (houtput j o hj hread rfl).1.unlockConditions _ first rfl List.mem_cons_self hkind

end UtxoCodec
