import UtxoCodec.Proofs.Outcome
import UtxoCodec.Proofs.Packing.Decode

/-!
# Faults of readers

A reader of bytes fails on the input only: the input ends, a kind in it is not known, or a value
breaks a rule (`Unpacker.Plain`). No reader looks at texts, so none of its faults stands for a
reading without outcome. Main statements: `unpackExact_plain_or_trailing` and
`Output.decode_fault`, which lists what an output can be refused for.
-/

namespace UtxoCodec

open Outcome

/-- A fault that a reader finds while it reads. -/
def DecodingError.IsPlain : DecodingError → Prop
  | unexpectedEnd | unknownKind .. | invalid _ => True
  | trailingBytes _ | invalidHex .. | invalidIdLength .. => False

theorem DecodingError.IsPlain.not_aborts {e : DecodingError} (h : e.IsPlain) :
    e.aborts = false := by
  cases e with
  | invalidHex what fault => cases h
  | _ => rfl

namespace Unpacker

variable {α β : Type}

/-- The reader fails with such faults only. -/
structure Plain (r : Unpacker α) : Prop where
  fails : ∀ input, FailsWith DecodingError.IsPlain (r input)

namespace Plain

theorem pure (a : α) : Plain (Pure.pure a : Unpacker α) where
  fails input := .ok (a, input)

theorem throw {e : DecodingError} (h : e.IsPlain) : Plain (MonadExcept.throw e : Unpacker α) where
  fails _ := .error h

theorem bind {r : Unpacker α} {f : α → Unpacker β} (hr : Plain r) (hf : ∀ a, Plain (f a)) :
    Plain (r >>= f) where
  fails input := by
    cases hc : r input with
    | error e =>
      rw [bind_of_error hc]
      exact .error (hr.fails input e hc)
    | ok p =>
      obtain ⟨a, mid⟩ := p
      rw [bind_of_ok hc]
      exact (hf a).fails mid

theorem ite {c : Prop} [Decidable c] {r s : Unpacker α} (hr : Plain r) (hs : Plain s) :
    Plain (if c then r else s) := by
  split
  · exact hr
  · exact hs

/-! ## Primitive readers -/

theorem take (count : Nat) : Plain (Unpacker.take count) where
  fails input := by
    unfold Unpacker.take
    split
    · exact .ok _
    · exact .error trivial

theorem number (width : Nat) : Plain (Unpacker.number width) :=
  .bind (.take width) fun _ => .pure _

theorem byte : Plain Unpacker.byte :=
  .bind (.number 1) fun _ => .pure _

theorem word32 :
    Plain (Unpacker.number 4 >>= fun k => Pure.pure (UInt32.ofNat k) : Unpacker UInt32) :=
  .bind (.number 4) fun _ => .pure _

theorem word256 : Plain Unpacker.word256 :=
  .bind (.number 32) fun _ => .pure _

theorem unknownKind (what : String) (kind : UInt8) :
    Plain (Unpacker.unknownKind what kind : Unpacker α) :=
  .throw trivial

theorem require (checking : Checking) (result : Except EncodingError Unit) :
    Plain (checking.require result) := by
  unfold Checking.require
  split
  · exact .throw trivial
  · exact .pure _

theorem many {item : Unpacker α} (h : Plain item) : ∀ count, Plain (Unpacker.many item count)
  | 0 => .pure _
  | count + 1 => .bind h fun _ => .bind (.many h count) fun _ => .pure _

theorem counted {item : Unpacker α} (h : Plain item) (checking : Checking) (what : String)
    (greatest : Nat) : Plain (Unpacker.counted checking what greatest item) :=
  .bind (.number 1) fun _ => .bind (.require ..) fun _ => .many h _

theorem sized (checking : Checking) (what : String) (width least greatest : Nat) :
    Plain (Unpacker.sized checking what width least greatest) :=
  .bind (.number width) fun _ => .bind (.require ..) fun _ => .bind (.take _) fun _ => .pure _

end Plain

end Unpacker

open Unpacker

/-! ## Types -/

/-- A type whose readers fail on the input only. -/
class PlainUnpack (α : Type) [Packable α] : Prop where
  plain : ∀ checking, Plain (unpack checking : Unpacker α)

export PlainUnpack (plain)

instance Identifier.plainUnpack {kind : IdKind} : PlainUnpack (Identifier kind) where
  plain _ := .bind (.take _) fun _ => .pure _

instance OutputId.plainUnpack : PlainUnpack OutputId where
  plain checking :=
    .bind (plain checking) fun _ => .bind (.number 2) fun _ =>
      .bind (.require ..) fun _ => .pure _

instance Amount.plainUnpack : PlainUnpack Amount where
  plain _ := .bind (.number 8) fun _ => .pure _

instance Address.plainUnpack : PlainUnpack Address where
  plain checking :=
    .bind .byte fun _ =>
      .ite (.bind (plain checking) fun _ => .pure _) <|
      .ite (.bind (plain checking) fun _ => .pure _) <|
      .ite (.bind (plain checking) fun _ => .pure _) (.unknownKind ..)

instance NativeToken.plainUnpack : PlainUnpack NativeToken where
  plain checking :=
    .bind (plain checking) fun _ => .bind .word256 fun _ => .bind (.require ..) fun _ => .pure _

instance NativeTokens.plainUnpack : PlainUnpack NativeTokens where
  plain checking :=
    .bind (.counted (plain checking) ..) fun _ => .bind (.require ..) fun _ => .pure _

instance TokenScheme.plainUnpack : PlainUnpack TokenScheme where
  plain _ :=
    .bind .byte fun _ =>
      .ite
        (.bind .word256 fun _ => .bind .word256 fun _ => .bind .word256 fun _ =>
          .bind (.require ..) fun _ => .pure _)
        (.unknownKind ..)

theorem UnlockCondition.plain_unpackBody (checking : Checking) (kind : UInt8) :
    Plain (unpackBody checking kind) :=
  .ite (.bind (plain checking) fun _ => .pure _) <|
  .ite (.bind (plain checking) fun _ => .bind (plain checking) fun _ => .pure _) <|
  .ite (.bind .word32 fun _ => .pure _) <|
  .ite (.bind (plain checking) fun _ => .bind .word32 fun _ => .pure _) <|
  .ite (.bind (plain checking) fun _ => .pure _) <|
  .ite (.bind (plain checking) fun _ => .pure _) <|
  .ite (.bind (plain checking) fun _ => .pure _) (.unknownKind ..)

instance UnlockCondition.plainUnpack : PlainUnpack UnlockCondition where
  plain checking :=
    .bind .byte fun kind => .bind (plain_unpackBody checking kind) fun _ =>
      .bind (.require ..) fun _ => .pure _

instance UnlockConditions.plainUnpack : PlainUnpack UnlockConditions where
  plain checking :=
    .bind (.counted (plain checking) ..) fun _ => .bind (.require ..) fun _ => .pure _

theorem Feature.plain_unpackBody (checking : Checking) (kind : UInt8) :
    Plain (unpackBody checking kind) :=
  .ite (.bind (plain checking) fun _ => .pure _) <|
  .ite (.bind (plain checking) fun _ => .pure _) <|
  .ite (.bind (.sized ..) fun _ => .pure _) <|
  .ite (.bind (.sized ..) fun _ => .pure _) (.unknownKind ..)

instance Feature.plainUnpack : PlainUnpack Feature where
  plain checking := .bind .byte fun kind => plain_unpackBody checking kind

instance Features.plainUnpack : PlainUnpack Features where
  plain checking :=
    .bind (.counted (plain checking) ..) fun _ => .bind (.require ..) fun _ => .pure _

instance TreasuryOutput.plainUnpack : PlainUnpack TreasuryOutput where
  plain checking := .bind (plain checking) fun _ => .bind (.require ..) fun _ => .pure _

instance BasicOutput.plainUnpack : PlainUnpack BasicOutput where
  plain checking :=
    .bind (plain checking) fun _ => .bind (plain checking) fun _ =>
    .bind (plain checking) fun _ => .bind (plain checking) fun _ =>
    .bind (.require ..) fun _ => .pure _

instance AliasOutput.plainUnpack : PlainUnpack AliasOutput where
  plain checking :=
    .bind (plain checking) fun _ => .bind (plain checking) fun _ =>
    .bind (plain checking) fun _ => .bind .word32 fun _ =>
    .bind (.sized ..) fun _ => .bind .word32 fun _ =>
    .bind (plain checking) fun _ => .bind (plain checking) fun _ =>
    .bind (plain checking) fun _ => .bind (.require ..) fun _ => .pure _

instance FoundryOutput.plainUnpack : PlainUnpack FoundryOutput where
  plain checking :=
    .bind (plain checking) fun _ => .bind (plain checking) fun _ =>
    .bind .word32 fun _ => .bind (plain checking) fun _ =>
    .bind (plain checking) fun _ => .bind (plain checking) fun _ =>
    .bind (plain checking) fun _ => .bind (.require ..) fun _ => .pure _

instance NftOutput.plainUnpack : PlainUnpack NftOutput where
  plain checking :=
    .bind (plain checking) fun _ => .bind (plain checking) fun _ =>
    .bind (plain checking) fun _ => .bind (plain checking) fun _ =>
    .bind (plain checking) fun _ => .bind (plain checking) fun _ =>
    .bind (.require ..) fun _ => .pure _

instance Output.plainUnpack : PlainUnpack Output where
  plain checking := by
    show Plain (Output.unpack checking)
    unfold Output.unpack
    exact .bind .byte fun _ =>
      .ite (.bind (plain checking) fun _ => .pure _) <|
      .ite (.bind (plain checking) fun _ => .pure _) <|
      .ite (.bind (plain checking) fun _ => .pure _) <|
      .ite (.bind (plain checking) fun _ => .pure _) <|
      .ite (.bind (plain checking) fun _ => .pure _) (.unknownKind ..)

/-! ## Values that span an input -/

/-- A value is refused for a fault of its reader, or for the bytes that are left behind it. -/
theorem unpackExact_plain_or_trailing {α : Type} [Packable α] [LawfulUnpack α] [PlainUnpack α]
    (input : Bytes) :
    FailsWith (fun e => e.IsPlain ∨ ∃ count, 0 < count ∧ e = .trailingBytes count)
      (unpackExact (α := α) input) := by
  intro e h
  cases hc : (unpack .strict : Unpacker α) input with
  | error e' =>
    rw [LawfulUnpack.unpackExact_of_error hc] at h
    cases h
    exact .inl ((plain .strict).fails input e hc)
  | ok p =>
    obtain ⟨a, rest⟩ := p
    rw [LawfulUnpack.unpackExact_of_ok hc] at h
    split at h
    · cases h
    · next hrest =>
      cases h
      exact .inr ⟨rest.length, List.length_pos_iff.2 hrest, rfl⟩

theorem unpackExact_not_aborts {α : Type} [Packable α] [LawfulUnpack α] [PlainUnpack α]
    (input : Bytes) : FailsWith (fun e => e.aborts = false) (unpackExact (α := α) input) := by
  intro e h
  rcases unpackExact_plain_or_trailing input e h with hplain | ⟨count, -, rfl⟩
  · exact hplain.not_aborts
  · rfl

namespace Output

/-- What an input is refused for: it is cut, it goes on behind an output, or it breaks a rule. An
unknown kind is no reason, since the body is kept then. -/
theorem decode_fault {input : Bytes} {e : DecodingError} (h : decode input = .error e) :
    e = .unexpectedEnd ∨ (∃ count, 0 < count ∧ e = .trailingBytes count) ∨
      ∃ broken, e = .invalid broken := by
  have hmeets : ¬ MeetsUnknown input := by
    intro hmeets
    cases input with
    | nil => exact not_meetsUnknown_nil hmeets
    | cons kind body =>
      rw [decode_of_meetsUnknown hmeets] at h
      cases h
  rw [decode_of_not_meetsUnknown hmeets] at h
  rcases unpackExact_plain_or_trailing (α := Output) input e h with hplain | htrailing
  · cases e with
    | unexpectedEnd => exact .inl rfl
    | unknownKind what kind =>
      exact absurd ⟨what, kind, unpackKnown_eq_unknownKind.1 h⟩ hmeets
    | invalid broken => exact .inr (.inr ⟨broken, rfl⟩)
    | _ => cases hplain
  · exact .inr (.inl htrailing)

theorem decode_not_aborts (input : Bytes) :
    FailsWith (fun e => e.aborts = false) (decode input) := by
  intro e h
  rcases decode_fault h with rfl | ⟨count, -, rfl⟩ | ⟨broken, rfl⟩
  · rfl
  · rfl
  · rfl

end Output

end UtxoCodec
