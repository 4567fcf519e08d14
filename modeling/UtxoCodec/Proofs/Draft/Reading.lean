import UtxoCodec.Proofs.Draft.Finish
import UtxoCodec.Proofs.Wire.Draft
import UtxoCodec.Proofs.Wire.Output

/-!
# Drafts read as outputs

The JSON form of a draft becomes that of an output when it is given the kind of the output, if
nothing is left open that an output has to state. Both ways to the output take its parts from the
same fields, absent and empty lists included, and collect them by the same constructors. So they
meet in the outline (`Draft.fromWire_setKind`). Main statement: `Draft.finish_iff_fromWire`.
-/

namespace UtxoCodec

open Outcome Json

/-- The kind byte of the outputs of drafts of a kind. -/
def DraftKind.outputKind : DraftKind → UInt8
  | .basic => BasicOutput.kind
  | .alias => AliasOutput.kind
  | .foundry => FoundryOutput.kind
  | .nft => NftOutput.kind

/-- The state index and the foundry counter of an alias are set: they may be left out of a draft,
but not of an output. -/
def DraftSubject.CountersSet : DraftSubject → Prop
  | .alias _ stateIndex _ foundryCounter _ => stateIndex.isSome ∧ foundryCounter.isSome
  | .basic | .foundry .. | .nft .. => True

/-- A collection is read from a list in JSON just as it is made from the list; one that may be
absent has to be that of no items. -/
theorem Json.Record.Reads.collected {α γ : Type} [Wire α] {fields : List Field} {name : String}
    {ofList : List α → Except EncodingError γ} {default? : Option γ}
    {read : Json → Except JsonError γ} {items? : Option (List α)}
    (hread : ∀ j, read j = do (ofList (← Wire.ofJson j)).mapError .encoding)
    (hfind : find? fields name = items?.map toWire)
    (hitems : ∀ items, items? = some items → Survives items)
    (hdefault : items? = none → ∃ empty, default? = some empty ∧ ofList [] = .ok empty) :
    (Record.fieldOr default? name read).Reads fields (ofList (items?.getD [])).toOption := by
  cases items? with
  | none =>
    obtain ⟨empty, rfl, hempty⟩ := hdefault rfl
    rw [Option.getD_none, hempty]
    exact .absent hfind
  | some items =>
    have hvalue : (read (toWire items)).toOption = (ofList items).toOption := by
      have hitems : Wire.ofJson (toWire items) = .ok items := hitems items rfl
      rw [hread, hitems]
      show ((ofList items).mapError _).toOption = _
      cases ofList items <;> rfl
    rw [Option.getD_some, ← hvalue]
    exact .present hfind

namespace Draft

variable {d : Draft}

/-! ## Fields as they are sent -/

/-- The fields of the JSON form as they are sent. -/
def wireFields (d : Draft) : List Field := ofFields (sortedFields d.fields)

theorem sorted_toJson (d : Draft) : d.toJson.sorted = .object d.wireFields := by
  rw [toJson_eq]
  rfl

theorem find?_wireFields (h : d.PartsSurvive) (name : String) :
    find? d.wireFields name = (find? d.fields name).map sorted := by
  unfold wireFields
  rw [(writes h).find?_written (names_nodup d.kind), find?_sortedFields]

/-- The names of the fields that drafts of several kinds have. -/
def sharedNames : List String :=
  ["amount", "nativeTokens", "unlockConditions", "features", "immutableFeatures"]

theorem keys_ownFields (s : DraftSubject) : ∀ key ∈ keys s.ownFields, key ∉ sharedNames := by
  cases s with
  | basic => simp [DraftSubject.ownFields, keys]
  | «alias» id index metadata counter fs =>
    cases index <;> cases metadata <;> cases counter <;>
      simp [DraftSubject.ownFields, keys, optionalField, sharedNames]
  | _ => simp [DraftSubject.ownFields, keys, sharedNames]

theorem find?_fields_of_shared {name : String} (h : name ∈ sharedNames) :
    find? d.fields name = find? (d.sharedFields []
      (optionalField "immutableFeatures" Wire.toJson d.subject.immutableFeatures?)) name := by
  have hown : find? d.subject.ownFields name = none :=
    find?_eq_none.2 fun hmem => keys_ownFields d.subject name hmem h
  simp only [fields, sharedFields, find?_append, hown, Option.or_none, find?_nil]

theorem find?_fields_of_own {name : String} (h : name ∉ sharedNames) :
    find? d.fields name = find? d.subject.ownFields name := by
  simp only [sharedNames, List.mem_cons, not_or] at h
  simp [fields, sharedFields, find?_append, Record.find?_optionalField, find?_cons, h]

/-- What the fields hold that several kinds have. -/
theorem find?_shared (h : d.PartsSurvive) :
    find? d.wireFields "amount" = d.amount.map toWire ∧
      find? d.wireFields "nativeTokens" = d.nativeTokens.map toWire ∧
      find? d.wireFields "unlockConditions" = some (toWire d.unlockConditions) ∧
      find? d.wireFields "features" = d.features.map toWire ∧
      find? d.wireFields "immutableFeatures" = d.subject.immutableFeatures?.map toWire := by
  refine ⟨?_, ?_, ?_, ?_, ?_⟩ <;>
    rw [find?_wireFields h, find?_fields_of_shared (by decide)] <;>
    simp [sharedFields, find?_append, Record.find?_optionalField, find?_cons] <;> rfl

/-! ## Parts as they are read -/

section

variable (h : d.PartsSurvive)
include h

theorem reads_amount {amount : Amount} (hamount : d.amount = some amount) :
    (Record.required "amount").Reads d.wireFields (some amount) := by
  refine .required ?_ amount.survives
  rw [(find?_shared h).1, hamount]
  rfl

theorem reads_nativeTokens : (Record.withDefault "nativeTokens" NativeTokens.empty).Reads
    d.wireFields (NativeTokens.ofList (d.nativeTokens.getD [])).toOption := by
  obtain ⟨-, hfind, -⟩ := find?_shared h
  exact .collected (fun _ => rfl) hfind (fun _ _ => survives_list fun t _ => t.survives)
    fun _ => ⟨_, rfl, NativeTokens.ofList_nil⟩

theorem reads_unlockConditions : (Record.required "unlockConditions").Reads d.wireFields
    (UnlockConditions.ofList d.unlockConditions).toOption := by
  obtain ⟨-, -, hfind, -⟩ := find?_shared h
  have hitems : ∀ conditions, some d.unlockConditions = some conditions → Survives conditions := by
    intro conditions heq
    cases heq
    exact h.unlockConditions
  exact .collected (fun _ => rfl) hfind hitems nofun

theorem reads_features : (Record.withDefault "features" Features.empty).Reads d.wireFields
    (Features.ofList (d.features.getD [])).toOption := by
  obtain ⟨-, -, -, hfind, -⟩ := find?_shared h
  exact .collected (fun _ => rfl) hfind h.features fun _ => ⟨_, rfl, Features.ofList_nil⟩

theorem reads_immutableFeatures {s : DraftSubject} (hsubject : d.subject = s) :
    (Record.withDefault "immutableFeatures" Features.empty).Reads d.wireFields
      (Features.ofList (s.immutableFeatures?.getD [])).toOption := by
  subst hsubject
  obtain ⟨-, -, -, -, hfind⟩ := find?_shared h
  exact .collected (fun _ => rfl) hfind h.subject.immutableFeatures
    fun _ => ⟨_, rfl, Features.ofList_nil⟩

theorem find?_own {s : DraftSubject} (hsubject : d.subject = s) {name : String}
    (hname : name ∉ sharedNames) :
    find? d.wireFields name = (find? s.ownFields name).map sorted := by
  rw [find?_wireFields h, find?_fields_of_own hname, hsubject]

theorem reads_own {α : Type} [Wire α] {s : DraftSubject} {name : String} {a : α}
    (hsubject : d.subject = s) (hname : name ∉ sharedNames)
    (hfind : find? s.ownFields name = some (Wire.toJson a)) (ha : Survives a) :
    (Record.required name).Reads d.wireFields (some a) := by
  refine .required ?_ ha
  rw [find?_own h hsubject hname, hfind]
  rfl

/-- Metadata that is not set is read as empty. -/
theorem reads_stateMetadata {s : DraftSubject} {metadata : Option Bytes}
    (hsubject : d.subject = s)
    (hmetadata : find? s.ownFields "stateMetadata" = metadata.map ofBytes) :
    (Record.fieldOr (some []) "stateMetadata" readBytes).Reads d.wireFields
      (some (metadata.getD [])) := by
  have hfind := find?_own h hsubject (by decide : "stateMetadata" ∉ sharedNames)
  rw [hmetadata] at hfind
  cases metadata with
  | none => exact .absent hfind
  | some bytes =>
    have hread : (readBytes (ofBytes bytes).sorted).toOption = some bytes :=
      congrArg Except.toOption (readBytes_ofBytes bytes)
    rw [Option.getD_some, ← hread]
    exact .present hfind

end

/-! ## Outputs as they are read -/

theorem kind_of_subject {s : DraftSubject} (h : d.subject = s) : d.kind = (ofSubject s).kind := by
  unfold kind
  rw [h]
  rfl

/-- The record of an output of the draft's kind reads what is sent. -/
theorem fromWire_of_reads {α : Type} {r : Record α} {make : α → Output} {a? : Option α}
    {kind : DraftKind} (h : d.PartsSurvive) (hkind : d.kind = kind)
    (hreads : r.Reads d.wireFields a?)
    (hnames : ∀ name ∈ (record kind).names, name ∈ r.names)
    (hreserved : "type" ∉ r.names ∧ "opaque" ∉ r.names)
    (hof : ∀ {found}, find? found "opaque" = none →
      Output.ofTagged ⟨kind.outputKind, found⟩ = (r.ofFieldsOnly found).map make) :
    (fromWire (d.toJson.sorted.setKind kind.outputKind)).toOption = make <$> a? := by
  subst hkind
  -- nothing is sent that the record does not declare, so a reader that refuses others takes it
  have hkeys : ∀ key ∈ keys d.wireFields, key ∈ r.names :=
    fun key hkey => hnames key ((writes h).mem_names_of_mem_keys key hkey)
  have htagged : Tagged.ofJson "output" (setKind d.kind.outputKind (.object d.wireFields)) =
      .ok ⟨d.kind.outputKind, d.wireFields⟩ :=
    Tagged.ofJson_setKind (keysIncrease_ofFields _) fun hmem => hreserved.1 (hkeys _ hmem)
  have hnone : find? d.wireFields "opaque" = none :=
    find?_eq_none.2 fun hmem => hreserved.2 (hkeys _ hmem)
  show (Wire.ofJson (setKind d.kind.outputKind d.toJson.sorted) : Except _ Output).toOption = _
  rw [sorted_toJson, Output.ofJson_eq, htagged]
  show (Output.ofTagged _).toOption = _
  rw [hof hnone, ← hreads.ofFieldsOnly hkeys]
  cases r.ofFieldsOnly d.wireFields <;> rfl

section

variable (h : d.PartsSurvive) {amount : Amount} (hamount : d.amount = some amount)
include h hamount

theorem fromWire_basic (hsubject : d.subject = .basic) :
    (fromWire (d.toJson.sorted.setKind BasicOutput.kind)).toOption =
      d.outline.toOption.map (Output.withAmount amount) := by
  have hkind : d.kind = .basic := kind_of_subject hsubject
  have hreads : BasicOutput.record.Reads d.wireFields _ :=
    .seq (.seq (.seq (.map (reads_amount h hamount) _) (reads_nativeTokens h))
      (reads_unlockConditions h)) (reads_features h)
  refine (fromWire_of_reads h hkind hreads (by decide) (by decide) Output.ofTagged_basic).trans ?_
  unfold outline
  rw [hsubject]
  -- the two name different errors, but whichever list one of them refuses the other refuses, too
  cases NativeTokens.ofList (d.nativeTokens.getD []) <;>
    cases UnlockConditions.ofList d.unlockConditions <;>
      cases Features.ofList (d.features.getD []) <;> rfl

theorem fromWire_alias {id : AliasId} {index counter : UInt32} {metadata : Option Bytes}
    {fs : Option (List Feature)}
    (hsubject : d.subject = .alias id (some index) metadata (some counter) fs) :
    (fromWire (d.toJson.sorted.setKind AliasOutput.kind)).toOption =
      d.outline.toOption.map (Output.withAmount amount) := by
  have hkind : d.kind = .alias := kind_of_subject hsubject
  have hid : (Record.required "aliasId").Reads d.wireFields (some id) :=
    reads_own h hsubject (by decide) rfl id.survives
  have hindex : (Record.required "stateIndex").Reads d.wireFields (some index) :=
    reads_own h hsubject (by decide) rfl (survives_uint32 index)
  have hmetadata : (Record.fieldOr (some []) "stateMetadata" readBytes).Reads d.wireFields
      (some (metadata.getD [])) :=
    reads_stateMetadata h hsubject (by cases metadata <;> rfl)
  have hcounter : (Record.required "foundryCounter").Reads d.wireFields (some counter) :=
    reads_own h hsubject (by decide) (by cases metadata <;> rfl) (survives_uint32 counter)
  have hreads : AliasOutput.record.Reads d.wireFields _ :=
    .seq (.seq (.seq (.seq (.seq (.seq (.seq (.seq (.map (reads_amount h hamount) _)
      (reads_nativeTokens h)) hid) hindex) hmetadata) hcounter) (reads_unlockConditions h))
      (reads_features h)) (reads_immutableFeatures h hsubject)
  refine (fromWire_of_reads h hkind hreads (by decide) (by decide) Output.ofTagged_alias).trans ?_
  unfold outline
  rw [hsubject]
  dsimp only [DraftSubject.immutableFeatures?]
  cases NativeTokens.ofList (d.nativeTokens.getD []) <;>
    cases UnlockConditions.ofList d.unlockConditions <;>
      cases Features.ofList (d.features.getD []) <;>
        cases Features.ofList (fs.getD []) <;> rfl

theorem fromWire_foundry {serialNumber : UInt32} {scheme : TokenScheme}
    {fs : Option (List Feature)} (hsubject : d.subject = .foundry serialNumber scheme fs) :
    (fromWire (d.toJson.sorted.setKind FoundryOutput.kind)).toOption =
      d.outline.toOption.map (Output.withAmount amount) := by
  have hkind : d.kind = .foundry := kind_of_subject hsubject
  have hparts : (DraftSubject.foundry serialNumber scheme fs).PartsSurvive := hsubject ▸ h.subject
  have hnumber : (Record.required "serialNumber").Reads d.wireFields (some serialNumber) :=
    reads_own h hsubject (by decide) rfl (survives_uint32 serialNumber)
  have hscheme : (Record.required "tokenScheme").Reads d.wireFields (some scheme) :=
    reads_own h hsubject (by decide) rfl hparts.1
  have hreads : FoundryOutput.record.Reads d.wireFields _ :=
    .seq (.seq (.seq (.seq (.seq (.seq (.map (reads_amount h hamount) _) (reads_nativeTokens h))
      hnumber) hscheme) (reads_unlockConditions h)) (reads_features h))
      (reads_immutableFeatures h hsubject)
  refine (fromWire_of_reads h hkind hreads (by decide) (by decide) Output.ofTagged_foundry).trans ?_
  unfold outline
  rw [hsubject]
  dsimp only [DraftSubject.immutableFeatures?]
  cases NativeTokens.ofList (d.nativeTokens.getD []) <;>
    cases UnlockConditions.ofList d.unlockConditions <;>
      cases Features.ofList (d.features.getD []) <;>
        cases Features.ofList (fs.getD []) <;> rfl

theorem fromWire_nft {id : NftId} {fs : Option (List Feature)} (hsubject : d.subject = .nft id fs) :
    (fromWire (d.toJson.sorted.setKind NftOutput.kind)).toOption =
      d.outline.toOption.map (Output.withAmount amount) := by
  have hkind : d.kind = .nft := kind_of_subject hsubject
  have hid : (Record.required "nftId").Reads d.wireFields (some id) :=
    reads_own h hsubject (by decide) rfl id.survives
  have hreads : NftOutput.record.Reads d.wireFields _ :=
    .seq (.seq (.seq (.seq (.seq (.map (reads_amount h hamount) _) (reads_nativeTokens h)) hid)
      (reads_unlockConditions h)) (reads_features h))
      (reads_immutableFeatures h hsubject)
  refine (fromWire_of_reads h hkind hreads (by decide) (by decide) Output.ofTagged_nft).trans ?_
  unfold outline
  rw [hsubject]
  dsimp only [DraftSubject.immutableFeatures?]
  cases NativeTokens.ofList (d.nativeTokens.getD []) <;>
    cases UnlockConditions.ofList d.unlockConditions <;>
      cases Features.ofList (d.features.getD []) <;>
        cases Features.ofList (fs.getD []) <;> rfl

/-- What is read as an output is the outline with the amount that is set. -/
theorem fromWire_setKind (hset : d.subject.CountersSet) :
    (fromWire (d.toJson.sorted.setKind d.kind.outputKind)).toOption =
      d.outline.toOption.map (Output.withAmount amount) := by
  cases hsubject : d.subject with
  | basic =>
    rw [kind_of_subject hsubject]
    exact fromWire_basic h hamount hsubject
  | «alias» id index metadata counter fs =>
    rw [hsubject] at hset
    obtain ⟨index, rfl⟩ := Option.isSome_iff_exists.1 hset.1
    obtain ⟨counter, rfl⟩ := Option.isSome_iff_exists.1 hset.2
    rw [kind_of_subject hsubject]
    exact fromWire_alias h hamount hsubject
  | foundry serialNumber scheme fs =>
    rw [kind_of_subject hsubject]
    exact fromWire_foundry h hamount hsubject
  | nft id fs =>
    rw [kind_of_subject hsubject]
    exact fromWire_nft h hamount hsubject

end

theorem withAmount_of_amount {amount : Amount} (h : d.amount = some amount) :
    d.withAmount amount = d := by
  unfold withAmount
  rw [← h]

/-- A draft with all set that an output has to state is finished to an output if and only if its
JSON form, given the kind of the output, is read as that output, the output verifies and its amount
is within the token supply. -/
theorem finish_iff_fromWire {kind : DraftKind} {j : Json} {amount : Amount} (hj : j.Canonical)
    (hread : ofJson kind j = .ok d) (hamount : d.amount = some amount)
    (hset : d.subject.CountersSet) (p : ProtocolParameters) (o : Output) :
    d.finish p = .ok o ↔
      fromWire (d.toJson.sorted.setKind kind.outputKind) = .ok o ∧ o.verify = .ok () ∧
        ∃ n, p.verifyAmount amount = .ok n := by
  obtain ⟨hparts, rfl⟩ := (yields kind).of_ofObjectOrArray hj hread
  have hmeet : fromWire (d.toJson.sorted.setKind d.kind.outputKind) = .ok o ↔
      ∃ outline, d.outline = .ok outline ∧ outline.withAmount amount = o := by
    rw [← toOption_eq_some, fromWire_setKind hparts hamount hset, Option.map_eq_some_iff]
    simp only [toOption_eq_some]
  have hfinish : d.finish p = .ok o ↔
      ∃ outline, d.outline = .ok outline ∧ (∃ n, p.verifyAmount amount = .ok n) ∧
        (outline.withAmount amount).verify = .ok () ∧ outline.withAmount amount = o := by
    rw [← finish_withAmount_eq_ok, withAmount_of_amount hamount]
  rw [hfinish, hmeet]
  constructor
  · rintro ⟨outline, houtline, hwithin, hverify, rfl⟩
    exact ⟨⟨outline, houtline, rfl⟩, hverify, hwithin⟩
  · rintro ⟨⟨outline, houtline, rfl⟩, hverify, hwithin⟩
    exact ⟨outline, houtline, hwithin, hverify, rfl⟩

/-- A draft with an empty list of features and its conditions in decreasing order. -/
theorem finish_iff_fromWire_of_decreasing :
    let owner : UnlockCondition := .address (.ed25519 .null)
    let j : Json := .object [("amount", .string "100000"), ("features", .array []),
      ("unlockConditions",
        .array [.object [("type", nat 2), ("unixTime", nat 1)], toWire owner])]
    let d : Draft := ⟨some ⟨100000⟩, none, [.timelock ⟨1⟩, owner], some [], .basic⟩
    let o : Output := .basic ⟨⟨100000⟩, .empty, ⟨[owner, .timelock ⟨1⟩]⟩, .empty⟩
    ofJson .basic j = .ok d ∧ d.finish .shimmer = .ok o ∧
      fromWire (d.toJson.sorted.setKind 3) = .ok o := by
  intro owner j d o
  have hcanonical : j.Canonical := by
    refine ⟨?_, trivial, trivial, ⟨⟨?_, trivial, trivial, trivial⟩, canonical_sorted _, trivial⟩,
      trivial⟩
    · unfold KeysIncrease
      decide
    · unfold KeysIncrease
      decide
  have hread : ofJson .basic j = .ok d := by
    dsimp only [j, d, owner]
    rfl
  have hconditions : UnlockConditions.ofList [.timelock ⟨1⟩, owner] =
      .ok ⟨[owner, .timelock ⟨1⟩]⟩ := by
    rw [UnlockConditions.ofList_of_perm (.swap ..)]
    exact UnlockConditions.ofList_items rfl
  have houtline : d.outline = .ok (o.withAmount .zero) :=
    outline_basic rfl NativeTokens.ofList_nil hconditions Features.ofList_nil
  have hfinish : d.finish .shimmer = .ok o :=
    finish_eq_ok.2 ⟨_, ⟨100000⟩, houtline, rfl, ⟨100000, rfl⟩, rfl, rfl⟩
  exact ⟨hread, hfinish, ((finish_iff_fromWire hcanonical hread rfl trivial _ o).1 hfinish).1⟩

end Draft

end UtxoCodec
