import UtxoCodec.Draft
import UtxoCodec.Proofs.Wire.Collection

/-!
# JSON forms of drafts

A draft is read back by the record of its kind if what it holds survives, and what the record of a
kind yields is a draft of that kind whose parts do. Main statement: `Draft.ofJson_toJson`.
-/

namespace UtxoCodec

open Outcome Json

/-! ## Parts that are not set -/

theorem Amount.sorted_ne_null (a : Amount) : (Wire.toJson a).sorted ≠ .null :=
  fun h => by cases h

theorem sorted_uint32_ne_null (n : UInt32) : (Wire.toJson n).sorted ≠ .null :=
  fun h => by cases h

theorem sorted_list_ne_null {α : Type} [Wire α] (as : List α) : (Wire.toJson as).sorted ≠ .null :=
  fun h => by cases h

namespace DraftSubject

/-- The token scheme and the immutable features survive. -/
def PartsSurvive : DraftSubject → Prop
  | .basic => True
  | .alias _ _ _ _ fs => ∀ features, fs = some features → Survives features
  | .foundry _ scheme fs => Survives scheme ∧ ∀ features, fs = some features → Survives features
  | .nft _ fs => ∀ features, fs = some features → Survives features

/-- The fields of the parts that only the kind has, but for the immutable features. -/
def ownFields : DraftSubject → List Field
  | .basic => []
  | .alias id index metadata counter _ =>
    [("aliasId", Wire.toJson id)] ++ optionalField "stateIndex" Wire.toJson index ++
      optionalField "stateMetadata" ofBytes metadata ++
      optionalField "foundryCounter" Wire.toJson counter
  | .foundry serialNumber scheme _ =>
    [("serialNumber", Wire.toJson serialNumber), ("tokenScheme", Wire.toJson scheme)]
  | .nft id _ => [("nftId", Wire.toJson id)]

/-- The immutable features, if the kind has them and they are set. -/
def immutableFeatures? : DraftSubject → Option (List Feature)
  | .basic => none
  | .alias _ _ _ _ fs | .foundry _ _ fs | .nft _ fs => fs

theorem PartsSurvive.immutableFeatures {s : DraftSubject} (h : s.PartsSurvive) :
    ∀ features, s.immutableFeatures? = some features → Survives features := by
  cases s with
  | basic => exact nofun
  | «alias» id index metadata counter fs => exact h
  | foundry serialNumber scheme fs => exact h.2
  | nft id fs => exact h

end DraftSubject

namespace Draft

/-- What a draft holds survives. -/
structure PartsSurvive (d : Draft) : Prop where
  unlockConditions : Survives d.unlockConditions
  features : ∀ features, d.features = some features → Survives features
  subject : d.subject.PartsSurvive

/-! ## The records of the kinds -/

/-- The record of the parts that all kinds share, around the parts of a kind. -/
def sharedRecord {α : Type} (own : Record α) (tail : Record (α → DraftSubject)) : Record Draft :=
  (fun amount tokens own conditions features tail =>
      ⟨amount, tokens, conditions, features, tail own⟩)
    <$> Record.optional "amount" <*> Record.optional "nativeTokens" <*> own
    <*> Record.withDefault "unlockConditions" [] <*> Record.optional "features" <*> tail

/-- The record of the parts of an alias. -/
def aliasRecord : Record (Option (List Feature) → DraftSubject) :=
  (fun id index metadata counter => DraftSubject.alias id index metadata counter)
    <$> Record.required "aliasId" <*> Record.optional "stateIndex"
    <*> Record.fieldOr (some none) "stateMetadata" (fun j => (readBytes j).map some)
    <*> Record.optional "foundryCounter"

/-- The record of the parts of a foundry. -/
def foundryRecord : Record (Option (List Feature) → DraftSubject) :=
  DraftSubject.foundry <$> Record.required "serialNumber" <*> Record.required "tokenScheme"

/-- The record of the parts of an NFT. -/
def nftRecord : Record (Option (List Feature) → DraftSubject) :=
  DraftSubject.nft <$> Record.required "nftId"

/-- The record of the immutable features, behind the other parts. -/
def immutableRecord : Record ((Option (List Feature) → DraftSubject) → DraftSubject) :=
  (fun fs make => make fs) <$> Record.optional "immutableFeatures"

theorem record_basic : record .basic =
    sharedRecord ⟨[], fun _ _ => .ok ()⟩ ⟨[], fun _ _ => .ok fun _ => .basic⟩ :=
  rfl

theorem record_alias : record .alias = sharedRecord aliasRecord immutableRecord := rfl

theorem record_foundry : record .foundry = sharedRecord foundryRecord immutableRecord := rfl

theorem record_nft : record .nft = sharedRecord nftRecord immutableRecord := rfl

theorem names_nodup (kind : DraftKind) : (record kind).names.Nodup := by
  cases kind <;> decide

/-! ## Reading back -/

/-- The fields of a draft around those of its kind. -/
def sharedFields (d : Draft) (own tail : List Field) : List Field :=
  optionalField "amount" Wire.toJson d.amount ++
    optionalField "nativeTokens" Wire.toJson d.nativeTokens ++ own ++
    [("unlockConditions", Wire.toJson d.unlockConditions)] ++
    optionalField "features" Wire.toJson d.features ++ tail

theorem writes_shared {α : Type} {own : Record α} {tail : Record (α → DraftSubject)}
    {ownFields tailFields : List Field} {ownParts : α} {make : α → DraftSubject} {d : Draft}
    (h : d.PartsSurvive) (hown : own.Writes ownFields ownParts)
    (htail : tail.Writes tailFields make)
    (hsubject : d.subject = make ownParts) :
    (sharedRecord own tail).Writes (d.sharedFields ownFields tailFields) d := by
  obtain ⟨amount, nativeTokens, unlockConditions, features, subject⟩ := d
  obtain rfl : subject = make ownParts := hsubject
  exact .seq (.seq (.seq (.seq (.seq (.map
    (.optional (fun a _ => a.survives) Amount.sorted_ne_null) _)
    (.optional (fun _ _ => survives_list fun t _ => t.survives) sorted_list_ne_null)) hown)
    (.withDefault h.unlockConditions)) (.optional h.features sorted_list_ne_null)) htail

theorem writes_immutable {fs : Option (List Feature)}
    (h : ∀ features, fs = some features → Survives features) :
    immutableRecord.Writes (optionalField "immutableFeatures" Wire.toJson fs) fun make => make fs :=
  .map (.optional h sorted_list_ne_null) _

theorem writes_alias (id : AliasId) (index : Option UInt32) (metadata : Option Bytes)
    (counter : Option UInt32) : aliasRecord.Writes
      ([("aliasId", Wire.toJson id)] ++ optionalField "stateIndex" Wire.toJson index ++
        optionalField "stateMetadata" ofBytes metadata ++
        optionalField "foundryCounter" Wire.toJson counter)
      (DraftSubject.alias id index metadata counter) := by
  refine .seq (.seq (.seq (.map (.required id.survives) _)
    (.optional (fun n _ => survives_uint32 n) sorted_uint32_ne_null))
    (.optionalField fun bytes _ => ?_))
    (.optional (fun n _ => survives_uint32 n) sorted_uint32_ne_null)
  exact map_eq_ok.2 ⟨bytes, readBytes_ofBytes bytes, rfl⟩

theorem writes_foundry (serialNumber : UInt32) {scheme : TokenScheme} (h : Survives scheme) :
    foundryRecord.Writes
      [("serialNumber", Wire.toJson serialNumber), ("tokenScheme", Wire.toJson scheme)]
      (DraftSubject.foundry serialNumber scheme) :=
  .seq (.map (.required (survives_uint32 serialNumber)) _) (.required h)

theorem writes_nft (id : NftId) :
    nftRecord.Writes [("nftId", Wire.toJson id)] (DraftSubject.nft id) :=
  .map (.required id.survives) _

theorem writes_nothing {α : Type} (a : α) : Record.Writes ⟨[], fun _ _ => .ok a⟩ [] a where
  keys_sublist := List.Sublist.refl _
  reads _ _ _ _ := rfl

/-- The fields that a draft is written as. -/
def fields (d : Draft) : List Field :=
  d.sharedFields d.subject.ownFields
    (optionalField "immutableFeatures" Wire.toJson d.subject.immutableFeatures?)

theorem toJson_eq (d : Draft) : d.toJson = .object d.fields := by
  obtain ⟨amount, nativeTokens, unlockConditions, features, subject⟩ := d
  cases subject <;>
    simp [toJson, fields, sharedFields, DraftSubject.ownFields, DraftSubject.immutableFeatures?]

/-- The record of a draft's kind reads back what is written, if it survives. -/
theorem writes {d : Draft} (h : d.PartsSurvive) : (record d.kind).Writes d.fields d := by
  obtain ⟨amount, nativeTokens, unlockConditions, features, subject⟩ := d
  have hsubject := h.subject
  cases subject with
  | basic => exact writes_shared h (writes_nothing ()) (writes_nothing _) rfl
  | «alias» id index metadata counter fs =>
    exact writes_shared h (writes_alias id index metadata counter) (writes_immutable hsubject) rfl
  | foundry serialNumber scheme fs =>
    exact writes_shared h (writes_foundry serialNumber hsubject.1) (writes_immutable hsubject.2) rfl
  | nft id fs => exact writes_shared h (writes_nft id) (writes_immutable hsubject) rfl

/-- A draft is read back by the record of its kind if what it holds survives. -/
theorem ofJson_toJson {d : Draft} (h : d.PartsSurvive) :
    ofJson d.kind d.toJson.sorted = .ok d := by
  rw [toJson_eq]
  exact (writes h).ofObjectOrArray (names_nodup d.kind)

/-! ## What is read -/

theorem yields_shared {α : Type} {own : Record α} {tail : Record (α → DraftSubject)}
    {P : α → Prop} {Q : DraftSubject → Prop} (hown : own.Yields P)
    (htail : tail.Yields fun make => ∀ a, P a → Q (make a)) :
    (sharedRecord own tail).Yields fun d => Survives d.unlockConditions ∧
      (∀ features, d.features = some features → Survives features) ∧ Q d.subject :=
  .seq (.seq (.seq (.seq (.seq (.map .optional
    fun _ _ _ _ a ha _ hconditions _ hfeatures _ hmake =>
      ⟨hconditions, hfeatures, hmake a ha⟩) .optional) hown)
    (.withDefault (survives_list fun _ hc => absurd hc List.not_mem_nil))) .optional) htail

/-- The subject is one of the kind, and its parts survive. -/
def SubjectSurvives (kind : DraftKind) (s : DraftSubject) : Prop :=
  s.PartsSurvive ∧ (ofSubject s).kind = kind

theorem yields_immutable {kind : DraftKind} : immutableRecord.Yields fun finish =>
    ∀ make, (∀ fs, (∀ features, fs = some features → Survives features) →
      SubjectSurvives kind (make fs)) → SubjectSurvives kind (finish make) :=
  .map .optional fun fs hfs _ hmake => hmake fs hfs

theorem yields_alias : aliasRecord.Yields fun make =>
    ∀ fs, (∀ features, fs = some features → Survives features) →
      SubjectSurvives .alias (make fs) :=
  .seq (.seq (.seq (.map .required fun _ _ _ _ _ _ _ _ _ hfs => ⟨hfs, rfl⟩) .optional)
    (.fieldOr (P := fun _ => True) (fun _ _ => trivial) (fun _ _ => trivial))) .optional

theorem yields_foundry : foundryRecord.Yields fun make =>
    ∀ fs, (∀ features, fs = some features → Survives features) →
      SubjectSurvives .foundry (make fs) :=
  .seq (.map .required fun _ _ _ hscheme _ hfs => ⟨⟨hscheme, hfs⟩, rfl⟩) .required

theorem yields_nft : nftRecord.Yields fun make =>
    ∀ fs, (∀ features, fs = some features → Survives features) →
      SubjectSurvives .nft (make fs) :=
  .map .required fun _ _ _ hfs => ⟨hfs, rfl⟩

theorem yields_nothing {α : Type} {P : α → Prop} {a : α} (h : P a) :
    Record.Yields ⟨[], fun _ _ => .ok a⟩ P := by
  intro _ _ b _ hread
  cases hread
  exact h

/-- The record of a kind yields drafts of the kind whose parts survive. -/
theorem yields (kind : DraftKind) :
    (record kind).Yields fun d => d.PartsSurvive ∧ d.kind = kind := by
  have hshared : (record kind).Yields fun d => Survives d.unlockConditions ∧
      (∀ features, d.features = some features → Survives features) ∧
      SubjectSurvives kind d.subject := by
    cases kind with
    | basic =>
      rw [record_basic]
      exact yields_shared (P := fun _ => True) (yields_nothing trivial)
        (yields_nothing fun _ _ => ⟨trivial, rfl⟩)
    | «alias» =>
      rw [record_alias]
      exact yields_shared yields_alias yields_immutable
    | foundry =>
      rw [record_foundry]
      exact yields_shared yields_foundry yields_immutable
    | nft =>
      rw [record_nft]
      exact yields_shared yields_nft yields_immutable
  exact hshared.mono fun d ⟨hconditions, hfeatures, hparts, hkind⟩ =>
    ⟨⟨hconditions, hfeatures, hparts⟩, hkind⟩

/-- What is read as a draft of a kind is written and read back as the draft. -/
theorem ofJson_toJson_of_ofJson {kind : DraftKind} {j : Json} {d : Draft} (hj : j.Canonical)
    (h : ofJson kind j = .ok d) : ofJson kind d.toJson.sorted = .ok d := by
  obtain ⟨hparts, rfl⟩ := (yields kind).of_ofObjectOrArray hj h
  exact ofJson_toJson hparts

end Draft

end UtxoCodec
