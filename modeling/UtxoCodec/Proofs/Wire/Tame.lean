import UtxoCodec.Proofs.Json.Tame
import UtxoCodec.Proofs.Packing.Fault
import UtxoCodec.Proofs.Wire.Message

/-!
# Messages are read to an outcome

The JSON reader of every type that a message is made of concludes, type by type from those of its
parts. Main statement: the instance for `Message`, which says that a tame value either reads as a
message or is refused with a proper error.
-/

namespace UtxoCodec

open Outcome Json

/-! ## Elements -/

theorem decodeExactHex_proper {what : String} {size : Nat} {text : String}
    (h : ¬ Hex.LoneWide text) :
    FailsWith (fun e => e.aborts = false) (decodeExactHex what size text) := by
  refine .bind (.mapError (Hex.decode_ne_abort h) fun fault hne => ?_) fun bytes _ => ?_
  · cases fault with
    | abort => exact absurd rfl hne
    | _ => rfl
  · split
    · exact .ok _
    · exact .error rfl

theorem Identifier.ofText_proper {kind : IdKind} {text : String} (h : ¬ Hex.LoneWide text) :
    FailsWith (fun e => e.aborts = false) (ofText text : Except _ (Identifier kind)) :=
  .bind (decodeExactHex_proper h) fun _ _ => .ok _

instance Identifier.concludingWire {kind : IdKind} : ConcludingWire (Identifier kind) where
  concludes := by
    intro j hj
    cases j with
    | string text => exact .mapError (ofText_proper (tame_string.1 hj)) fun _ he => he
    | _ => exact .error rfl

theorem OutputId.ofText_proper {text : String} (h : ¬ Hex.LoneWide text) :
    FailsWith (fun e => e.aborts = false) (ofText text) :=
  .bind (decodeExactHex_proper h) fun _ _ => unpackExact_not_aborts _

instance OutputId.concludingWire : ConcludingWire OutputId where
  concludes := by
    intro j hj
    cases j with
    | string text => exact .mapError (ofText_proper (tame_string.1 hj)) fun _ he => he
    | _ => exact .error rfl

instance Amount.concludingWire : ConcludingWire Amount where
  concludes := by
    intro j _
    cases j with
    | string text => exact .reported fun _ => rfl
    | _ => exact .error rfl

instance Address.concludingWire : ConcludingWire Address where
  concludes := .ofTagged fun _ ht =>
    .ite ((Record.Concludes.required.map Address.ed25519).ofFields ht) <|
    .ite ((Record.Concludes.required.map Address.alias).ofFields ht) <|
    .ite ((Record.Concludes.required.map Address.nft).ofFields ht) (.error rfl)

theorem NativeToken.concludes_record : NativeToken.record.Concludes :=
  .seq (.map .required _) (.fieldOr .readWord256)

instance NativeToken.concludingWire : ConcludingWire NativeToken where
  concludes := concludes_record.ofObjectOrArray

instance NativeTokens.concludingWire : ConcludingWire NativeTokens where
  concludes j hj := .bind (ConcludingWire.concludes j hj) fun _ _ => .reported fun _ => rfl

theorem SimpleTokenScheme.concludes_record : SimpleTokenScheme.record.Concludes :=
  .seq (.seq (.map (.fieldOr .readWord256) _) (.fieldOr .readWord256)) (.fieldOr .readWord256)

instance TokenScheme.concludingWire : ConcludingWire TokenScheme where
  concludes := .ofTagged fun _ ht =>
    .ite (.bind (SimpleTokenScheme.concludes_record.ofFields ht) fun _ _ => .ok _) (.ok _)

/-! ## Unlock conditions and features -/

theorem StorageDepositReturn.concludes_record : StorageDepositReturn.record.Concludes :=
  .seq (.map .required _) .required

theorem Timelock.concludes_record : Timelock.record.Concludes :=
  .map .required _

theorem Expiration.concludes_record : Expiration.record.Concludes :=
  .seq (.map .required _) .required

instance UnlockCondition.concludingWire : ConcludingWire UnlockCondition where
  concludes := .ofTagged fun t ht => by
    have haddress (make : Address → UnlockCondition) : FailsWith (fun e => e.aborts = false)
        ((make <$> Record.required "address").ofFields t.fields) :=
      (Record.Concludes.required.map make).ofFields ht
    exact .ite (haddress address) <|
      .ite (.map (StorageDepositReturn.concludes_record.ofFields ht) _) <|
      .ite (.map (Timelock.concludes_record.ofFields ht) _) <|
      .ite (.map (Expiration.concludes_record.ofFields ht) _) <|
      .ite (haddress stateController) <| .ite (haddress governor) <|
      .ite (haddress immutableAlias) (.ok _)

instance UnlockConditions.concludingWire : ConcludingWire UnlockConditions where
  concludes j hj := .bind (ConcludingWire.concludes j hj) fun _ _ => .reported fun _ => rfl

instance Feature.concludingWire : ConcludingWire Feature where
  concludes := .ofTagged fun _ ht =>
    .ite ((Record.Concludes.required.map sender).ofFields ht) <|
    .ite ((Record.Concludes.required.map issuer).ofFields ht) <|
    .ite ((Record.Concludes.map (.fieldOr .readBytes) metadata).ofFields ht) <|
    .ite ((Record.Concludes.map (.fieldOr .readBytes) tag).ofFields ht) (.ok _)

instance Features.concludingWire : ConcludingWire Features where
  concludes j hj := .bind (ConcludingWire.concludes j hj) fun _ _ => .reported fun _ => rfl

/-! ## Outputs -/

theorem TreasuryOutput.concludes_record : TreasuryOutput.record.Concludes :=
  .map .required _

theorem BasicOutput.concludes_record : BasicOutput.record.Concludes :=
  .seq (.seq (.seq (.map .required _) .withDefault) .required) .withDefault

theorem AliasOutput.concludes_record : AliasOutput.record.Concludes :=
  .seq (.seq (.seq (.seq (.seq (.seq (.seq (.seq (.map .required _) .withDefault) .required)
    .required) (.fieldOr .readBytes)) .required) .required) .withDefault) .withDefault

theorem FoundryOutput.concludes_record : FoundryOutput.record.Concludes :=
  .seq (.seq (.seq (.seq (.seq (.seq (.map .required _) .withDefault) .required) .required)
    .required) .withDefault) .withDefault

theorem NftOutput.concludes_record : NftOutput.record.Concludes :=
  .seq (.seq (.seq (.seq (.seq (.map .required _) .withDefault) .required) .required)
    .withDefault) .withDefault

theorem Output.ofOpaque_proper {kind : UInt8} {body : Json} {others : List Field}
    (h : body.Tame) : FailsWith (fun e => e.aborts = false) (ofOpaque kind body others) := by
  unfold ofOpaque
  cases others with
  | cons field rest => exact .error rfl
  | nil =>
    cases body with
    | string text =>
      have hbytes : FailsWith (fun e => e.aborts = false)
          ((Hex.decode text).mapError JsonError.opaqueBytes) := by
        refine .mapError (Hex.decode_ne_abort (tame_string.1 h)) fun fault hne => ?_
        cases fault with
        | abort => exact absurd rfl hne
        | _ => rfl
      exact .bind hbytes fun _ _ => .bind (.reported fun _ => rfl) fun _ _ => .ok _
    | _ => exact .error rfl

instance Output.concludingWire : ConcludingWire Output where
  concludes := .ofTagged fun t ht => by
    unfold Output.ofTagged
    split
    · next body hfind => exact ofOpaque_proper (tame_object.1 ht _ (mem_of_find? hfind))
    · exact .ite (.map (TreasuryOutput.concludes_record.ofFieldsOnly ht) _) <|
        .ite (.map (BasicOutput.concludes_record.ofFieldsOnly ht) _) <|
        .ite (.map (AliasOutput.concludes_record.ofFieldsOnly ht) _) <|
        .ite (.map (FoundryOutput.concludes_record.ofFieldsOnly ht) _) <|
        .ite (.map (NftOutput.concludes_record.ofFieldsOnly ht) _) (.ok _)

/-! ## Drafts and parameters -/

theorem Draft.concludes_record (kind : DraftKind) : (record kind).Concludes := by
  have htail : ((fun (fs : Option (List Feature)) (make : Option (List Feature) → DraftSubject) =>
      make fs) <$> Record.optional "immutableFeatures").Concludes := .map .optional _
  cases kind with
  | basic =>
    exact .seq (.seq (.seq (.seq (.seq (.map .optional _) .optional) (.pure ())) .withDefault)
      .optional) (.pure _)
  | «alias» =>
    exact .seq (.seq (.seq (.seq (.seq (.map .optional _) .optional)
      (.seq (.seq (.seq (.map .required _) .optional) (.fieldOr (.map .readBytes _))) .optional))
      .withDefault) .optional) htail
  | foundry =>
    exact .seq (.seq (.seq (.seq (.seq (.map .optional _) .optional)
      (.seq (.map .required _) .required)) .withDefault) .optional) htail
  | nft =>
    exact .seq (.seq (.seq (.seq (.seq (.map .optional _) .optional) (.map .required _))
      .withDefault) .optional) htail

theorem Draft.concludes_ofJson (kind : DraftKind) : Concludes (ofJson kind) :=
  (concludes_record kind).ofObjectOrArray

instance RentStructure.concludingWire : ConcludingWire RentStructure where
  concludes := by
    intro j hj
    cases j with
    | object fields =>
      have hrecord : RentStructure.record.Concludes :=
        .seq (.seq (.map .required _) .required) .required
      exact .bind (hrecord.ofFields hj) fun _ _ => .ok _
    | _ => exact .error rfl

instance ProtocolParameters.concludingWire : ConcludingWire ProtocolParameters where
  concludes := by
    intro j hj
    cases j with
    | object fields =>
      have hrecord : ProtocolParameters.record.Concludes :=
        .seq (.seq (.seq (.seq (.seq (.seq (.map .required _) .required) .required) .required)
          .required) .required) .required
      exact .bind (hrecord.ofFields hj) fun _ _ => .ok _
    | _ => exact .error rfl

/-! ## Messages -/

namespace Operation

theorem named_proper (name : String) : FailsWith (fun e => e.aborts = false) (named name) := by
  unfold named
  split
  · exact .ok _
  · exact .error rfl

theorem ofItem_proper (j : Json) : FailsWith (fun e => e.aborts = false) (ofItem j) := by
  cases j with
  | string name => exact named_proper name
  | _ => exact .error rfl

theorem ofField_proper (j : Json) : FailsWith (fun e => e.aborts = false) (ofField j) := by
  unfold ofField
  split
  · exact .bind (named_proper _) fun _ _ => .ite (.ok _) (.error rfl)
  · exact .error rfl
  · exact ofItem_proper _

end Operation

namespace Message

/-- Whatever the operation, the arguments are read to an outcome. -/
theorem concludes_ofData (operation : Operation) : Concludes (ofData operation) := by
  have hbuild (kind : DraftKind) :
      Concludes fun data => (Draft.ofJson kind data).map buildOutput :=
    .map (Draft.concludes_ofJson kind) buildOutput
  cases operation with
  | computeAliasId => exact (Record.Concludes.required.map computeAliasId).ofObject
  | computeNftId => exact (Record.Concludes.required.map computeNftId).ofObject
  | computeFoundryId =>
    exact (Record.Concludes.seq (.seq (.map .required computeFoundryId) .required)
      .required).ofObject
  | computeOutputId =>
    exact (Record.Concludes.seq (.map .required computeOutputId) .required).ofObject
  | buildBasicOutput => exact hbuild .basic
  | buildAliasOutput => exact hbuild .alias
  | buildFoundryOutput => exact hbuild .foundry
  | buildNftOutput => exact hbuild .nft
  | packOutput => exact (Record.Concludes.required.map packOutput).ofObject
  | unpackOutput => exact (Record.Concludes.map (.fieldOr .readBytes) unpackOutput).ofObject
  | minimumStorageDeposit =>
    exact (Record.Concludes.required.map minimumStorageDeposit).ofObject
  | getProtocolParameters => exact fun _ _ => .ite (.ok _) (.error rfl)
  | setProtocolParameters => exact .map ConcludingWire.concludes setProtocolParameters
  | hexToBech32 => exact (Record.Concludes.seq (.map .required hexToBech32) .optional).ofObject
  | bech32ToHex => exact (Record.Concludes.required.map bech32ToHex).ofObject

theorem ofAbsentData_proper (operation : Operation) :
    FailsWith (fun e => e.aborts = false) (ofAbsentData operation) := by
  cases operation with
  | getProtocolParameters => exact .ok _
  | _ => exact .error rfl

instance concludingWire : ConcludingWire Message where
  concludes := by
    intro j hj
    show FailsWith _ (Message.ofJson j)
    cases j with
    | object fields =>
      rw [tame_object] at hj
      simp only [Message.ofJson]
      split
      · exact .error rfl
      · refine .bind (Operation.ofField_proper _) fun operation _ => ?_
        split
        · next data hfind => exact concludes_ofData operation data (hj _ (mem_of_find? hfind))
        · exact ofAbsentData_proper operation
    | array items =>
      rw [tame_array] at hj
      simp only [Message.ofJson]
      split
      · next name rest =>
        refine .bind (Operation.ofItem_proper name) fun operation _ => ?_
        split
        · next data rest =>
          have hdata : data.Tame := hj data (by simp)
          exact .bind (concludes_ofData operation data hdata) fun _ _ => .ite (.ok _) (.error rfl)
        · exact .error rfl
      · exact .error rfl
    | _ => exact .error rfl

/-! ### The hexadecimal text of a message -/

/-- No other operation takes hexadecimal text unread. -/
theorem eq_hexToBech32_of_ofData {operation : Operation} {data : Json} {hex : String}
    {hrp : Option String} (h : ofData operation data = .ok (hexToBech32 hex hrp)) :
    operation = .hexToBech32 := by
  have hbuild (kind : DraftKind) :
      (Draft.ofJson kind data).map buildOutput ≠ .ok (hexToBech32 hex hrp) := by
    intro h
    obtain ⟨draft, -, heq⟩ := map_eq_ok.1 h
    cases heq
  have hother {r : Record Message} (hr : r.Gives (· ≠ hexToBech32 hex hrp)) :
      r.ofObject data ≠ .ok (hexToBech32 hex hrp) :=
    fun h => hr.of_ofObject h rfl
  cases operation with
  | hexToBech32 => rfl
  | computeAliasId =>
    exact absurd h (hother (.map (f := computeAliasId) fun _ heq => by cases heq))
  | computeNftId => exact absurd h (hother (.map (f := computeNftId) fun _ heq => by cases heq))
  | computeFoundryId =>
    exact absurd h (hother
      (.seq (.seq (.map (f := computeFoundryId) fun _ _ _ heq => by cases heq))))
  | computeOutputId =>
    exact absurd h (hother (.seq (.map (f := computeOutputId) fun _ _ heq => by cases heq)))
  | buildBasicOutput => exact absurd h (hbuild .basic)
  | buildAliasOutput => exact absurd h (hbuild .alias)
  | buildFoundryOutput => exact absurd h (hbuild .foundry)
  | buildNftOutput => exact absurd h (hbuild .nft)
  | packOutput => exact absurd h (hother (.map (f := packOutput) fun _ heq => by cases heq))
  | unpackOutput => exact absurd h (hother (.map (f := unpackOutput) fun _ heq => by cases heq))
  | minimumStorageDeposit =>
    exact absurd h (hother (.map (f := minimumStorageDeposit) fun _ heq => by cases heq))
  | getProtocolParameters =>
    simp only [ofData] at h
    split at h <;> cases h
  | setProtocolParameters =>
    obtain ⟨p, -, heq⟩ := map_eq_ok.1 h
    cases heq
  | bech32ToHex => exact absurd h (hother (.map (f := bech32ToHex) fun _ heq => by cases heq))

/-- The text is that of a field, so it is among the texts of the arguments. -/
theorem not_loneWide_of_ofData {operation : Operation} {data : Json} {hex : String}
    {hrp : Option String} (hdata : data.Tame)
    (h : ofData operation data = .ok (hexToBech32 hex hrp)) : ¬ Hex.LoneWide hex := by
  obtain rfl := eq_hexToBech32_of_ofData h
  cases data with
  | object fields =>
    obtain ⟨make, hrp', hmake, -, heq⟩ := Record.both_eq_ok.1 (Record.unplaced_eq_ok.1 h)
    obtain ⟨hex', hhex, rfl⟩ := map_eq_ok.1 hmake
    cases heq
    simp only [Record.required, Record.fieldOr, Record.objectSource] at hhex
    split at hhex
    · next place j hfind =>
      have hj : j.Tame := tame_object.1 hdata _ (Record.mem_of_findFrom? hfind)
      have hread : readString j = .ok hex := mapError_eq_ok.1 hhex
      cases j with
      | string text =>
        cases hread
        exact tame_string.1 hj
      | _ => cases hread
    · cases hhex
  | _ => cases h

/-- What a tame value reads as was read from tame arguments, if it has any. -/
theorem exists_ofData_of_ofJson {j : Json} {m : Message} (hj : j.Tame) (h : ofJson j = .ok m) :
    m = getProtocolParameters ∨
      ∃ operation data, data.Tame ∧ ofData operation data = .ok m := by
  cases j with
  | object fields =>
    simp only [ofJson] at h
    split at h
    · cases h
    · obtain ⟨operation, -, h⟩ := bind_eq_ok.1 h
      split at h
      · next data hfind =>
        exact .inr ⟨operation, data, tame_object.1 hj _ (mem_of_find? hfind), h⟩
      · exact .inl (eq_of_ofAbsentData h)
  | array items =>
    match items, h with
    | [], h => cases h
    | [_], h =>
      obtain ⟨_, -, h⟩ := bind_eq_ok.1 h
      cases h
    | _ :: data :: _, h =>
      obtain ⟨operation, -, h⟩ := bind_eq_ok.1 h
      obtain ⟨message, hmessage, h⟩ := bind_eq_ok.1 h
      split at h
      · cases h
        exact .inr ⟨operation, data, tame_array.1 hj data (by simp), hmessage⟩
      · cases h
  | _ => cases h

/-- The text of a hash in a message that was read from a tame value. -/
theorem not_loneWide_of_ofJson {j : Json} {hex : String} {hrp : Option String} (hj : j.Tame)
    (h : ofJson j = .ok (hexToBech32 hex hrp)) : ¬ Hex.LoneWide hex := by
  rcases exists_ofData_of_ofJson hj h with heq | ⟨operation, data, hdata, hread⟩
  · cases heq
  · exact not_loneWide_of_ofData hdata hread

end Message

end UtxoCodec
