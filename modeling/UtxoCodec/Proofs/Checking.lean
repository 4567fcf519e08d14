import UtxoCodec.Proofs.Packing.Decode

/-!
# Strict and lenient reading

The checks of a strict reader are scattered over the reading; the check of a finished value is
another arrangement of them. Main statement: `strict_unpack_is_checked_lenient` says that the two
come to the same for every type with a binary form, so that a strict reader refuses nothing else.
-/

namespace UtxoCodec

/-- Strict reading is lenient reading of a value that verifies, with the same bytes left over. What
the lenient reader reads and the check refuses, the strict reader refuses as invalid. -/
structure StrictIsCheckedLenient (α : Type) [Packable α] : Prop where
  eq_ok : ∀ (input rest : Bytes) (a : α), unpack .strict input = .ok (a, rest) ↔
    unpack .lenient input = .ok (a, rest) ∧ verify a = .ok ()
  eq_invalid : ∀ (input rest : Bytes) (a : α) (e : EncodingError),
    unpack .lenient input = .ok (a, rest) → verify a = .error e →
      ∃ e', (unpack .strict : Unpacker α) input = .error (.invalid e')

theorem LawfulUnpack.strictIsCheckedLenient (α : Type) [Packable α] [LawfulUnpack α] :
    StrictIsCheckedLenient α where
  eq_ok _ _ _ := unpack_strict_eq_ok
  eq_invalid _ _ _ _ h hv := unpack_strict_eq_invalid h hv

/-- The strict and the lenient reader of every type with a binary form differ by the check only. -/
theorem strict_unpack_is_checked_lenient :
    StrictIsCheckedLenient Output ∧
    StrictIsCheckedLenient TreasuryOutput ∧ StrictIsCheckedLenient BasicOutput ∧
    StrictIsCheckedLenient AliasOutput ∧ StrictIsCheckedLenient FoundryOutput ∧
    StrictIsCheckedLenient NftOutput ∧
    StrictIsCheckedLenient UnlockCondition ∧ StrictIsCheckedLenient UnlockConditions ∧
    StrictIsCheckedLenient Feature ∧ StrictIsCheckedLenient Features ∧
    StrictIsCheckedLenient NativeToken ∧ StrictIsCheckedLenient NativeTokens ∧
    StrictIsCheckedLenient TokenScheme ∧ StrictIsCheckedLenient Address ∧
    StrictIsCheckedLenient Amount ∧ StrictIsCheckedLenient OutputId ∧
    ∀ kind, StrictIsCheckedLenient (Identifier kind) := by
  refine ⟨?_, ?_, ?_, ?_, ?_, ?_, ?_, ?_, ?_, ?_, ?_, ?_, ?_, ?_, ?_, ?_, fun kind => ?_⟩
  all_goals exact LawfulUnpack.strictIsCheckedLenient _

theorem strict_unpack_of_empty_tag :
    unpack .lenient [3, 0] = .ok (Feature.tag [], []) ∧
      ∃ e, (unpack .strict : Unpacker Feature) [3, 0] = .error (.invalid e) := by
  have h : unpack .lenient [3, 0] = .ok (Feature.tag [], []) := by rfl
  obtain ⟨-, -, -, -, -, -, -, -, hfeature, -⟩ := strict_unpack_is_checked_lenient
  exact ⟨h, hfeature.eq_invalid _ _ _ _ h rfl⟩

end UtxoCodec
