import Mathlib.Data.List.Basic
import Mathlib.Data.Nat.Digits.Defs
import UtxoCodec.Proofs.Packing.Element
import UtxoCodec.Proofs.Text.Decimal

/-!
# Amounts and natural numbers

An amount is a number here, but it travels as a text. A text is read if and only if it is a canonical
decimal, and as the number that its digits stand for in base ten, so that amounts may be told apart by
their texts or by their numbers alike, whatever their size (`Amount.TextForm`). The 64-bit numbers
among them are those that the binary form holds (`Amount.NarrowForm`): the boundary is one of numbers,
though both sides of it have decimals of the same length.

Main statement: `amounts_are_numbers`.
-/

namespace UtxoCodec

/-! ## Canonical decimals -/

namespace Decimal

/-- The ten digits in the order of their values. -/
def numerals : List Char := ['0', '1', '2', '3', '4', '5', '6', '7', '8', '9']

/-- The value of a digit. -/
def worth (c : Char) : Nat := numerals.idxOf c

/-- The number that digits stand for in base ten, the highest one first. -/
def numberOf (ds : List Char) : Nat := Nat.ofDigits 10 (ds.reverse.map worth)

/-- The text is a canonical decimal. -/
structure Canonical (text : String) : Prop where
  ne_nil : text.toList ≠ []
  mem_numerals : ∀ d ∈ text.toList, d ∈ numerals
  /-- There is a leading zero in the text of zero alone, which is its only digit. -/
  eq_of_head? : text.toList.head? = some '0' → text = "0"

/-- The text is the canonical decimal of the number. -/
structure Denotes (text : String) (n : Nat) : Prop extends Canonical text where
  numberOf_eq : numberOf text.toList = n

theorem isDigit_iff_mem_numerals {c : Char} : c.isDigit = true ↔ c ∈ numerals := by
  constructor
  · intro h
    obtain ⟨hlt, hdigit⟩ := Amount.digitChar_of_isDigit h
    have hall : ∀ n, n < 10 → Nat.digitChar n ∈ numerals := by decide
    rw [← hdigit]
    exact hall _ hlt
  · intro h
    have hall : ∀ d ∈ numerals, d.isDigit = true := by simp [numerals]
    exact hall c h

theorem worth_of_isDigit {c : Char} (h : c.isDigit = true) : worth c = c.toNat - 48 := by
  obtain ⟨hlt, hdigit⟩ := Amount.digitChar_of_isDigit h
  have hall : ∀ n, n < 10 → worth (Nat.digitChar n) = n := by decide
  calc worth c = worth (Nat.digitChar (c.toNat - 48)) := by rw [hdigit]
    _ = c.toNat - 48 := hall _ hlt

/-- The reader's number is the one that the digits stand for. -/
theorem decimalValue_eq_numberOf {cs : List Char} (h : ∀ c ∈ cs, c ∈ numerals) :
    Amount.decimalValue cs = numberOf cs := by
  unfold Amount.decimalValue numberOf
  -- digits with the lowest one first, folded from the right, are the reader's fold from the left
  rw [Nat.ofDigits_eq_foldr, List.foldr_map, List.foldr_reverse]
  apply List.foldl_ext
  intro n c hc
  rw [worth_of_isDigit (isDigit_iff_mem_numerals.2 (h c hc))]
  exact Nat.add_comm ..

theorem isCanonicalDecimal_iff {text : String} :
    Amount.isCanonicalDecimal text.toList = true ↔ Canonical text := by
  have hzero : text.toList = ['0'] ↔ text = "0" := by
    rw [← String.toList_inj]
    rfl
  simp only [Amount.isCanonicalDecimal, Bool.and_eq_true, Bool.or_eq_true, decide_eq_true_eq,
    List.all_eq_true, Bool.not_eq_true', List.isEmpty_eq_false_iff, hzero]
  constructor
  · rintro ⟨⟨hne, hdigits⟩, hhead⟩
    refine ⟨hne, fun d hd => isDigit_iff_mem_numerals.1 (hdigits d hd), fun hlead => ?_⟩
    exact hhead.resolve_right fun hother => hother hlead
  · intro h
    refine ⟨⟨h.ne_nil, fun d hd => isDigit_iff_mem_numerals.2 (h.mem_numerals d hd)⟩, ?_⟩
    by_cases hlead : text.toList.head? = some '0'
    · exact .inl (h.eq_of_head? hlead)
    · exact .inr hlead

end Decimal

namespace Amount

variable {a a' : Amount} {text text' : String}

/-! ## Texts -/

theorem ofText_of_canonical (h : Decimal.Canonical text) :
    ofText text = .ok ⟨Decimal.numberOf text.toList⟩ := by
  unfold ofText
  rw [if_pos (Decimal.isCanonicalDecimal_iff.2 h), Decimal.decimalValue_eq_numberOf h.mem_numerals]

theorem ofText_of_not_canonical (h : ¬ Decimal.Canonical text) :
    ofText text = .error (.malformedAmount text) := by
  unfold ofText
  exact if_neg fun hcanonical => h (Decimal.isCanonicalDecimal_iff.1 hcanonical)

theorem ofText_eq_ok : ofText text = .ok a ↔ Decimal.Denotes text a.value := by
  by_cases h : Decimal.Canonical text
  · rw [ofText_of_canonical h]
    constructor
    · intro ha
      cases ha
      exact ⟨h, rfl⟩
    · intro ha
      rw [ha.numberOf_eq]
  · rw [ofText_of_not_canonical h]
    constructor
    · intro ha
      cases ha
    · intro ha
      exact absurd ha.toCanonical h

theorem ofText_eq_error {e : EncodingError} :
    ofText text = .error e ↔ ¬ Decimal.Canonical text ∧ e = .malformedAmount text := by
  by_cases h : Decimal.Canonical text
  · rw [ofText_of_canonical h]
    simp [h]
  · rw [ofText_of_not_canonical h]
    simp [h, eq_comm]

theorem denotes_text (a : Amount) : Decimal.Denotes a.text a.value :=
  ofText_eq_ok.1 (ofText_text a)

/-- A number has no other canonical decimal than the one it is written as. -/
theorem text_of_denotes (h : Decimal.Denotes text a.value) : text = a.text :=
  (text_of_ofText (ofText_eq_ok.2 h)).symm

theorem eq_iff_value_eq : a = a' ↔ a.value = a'.value := by
  cases a
  cases a'
  simp

theorem eq_iff_text_eq (h : ofText text = .ok a) (h' : ofText text' = .ok a') :
    a = a' ↔ text = text' := by
  rw [← text_of_ofText h, ← text_of_ofText h']
  constructor
  · intro heq
    rw [heq]
  · intro htext
    have hread : ofText a.text = .ok a' := by
      rw [htext]
      exact ofText_text a'
    rw [ofText_text] at hread
    exact Except.ok.inj hread

/-- The texts of amounts are the canonical decimals of the natural numbers. -/
structure TextForm : Prop where
  /-- A text is read as the number that its digits stand for. -/
  ofText_iff : ∀ (text : String) (a : Amount), ofText text = .ok a ↔ Decimal.Denotes text a.value
  /-- It is read at all if it is digits without a leading zero. -/
  accepts_iff : ∀ text : String, (∃ a, ofText text = .ok a) ↔ Decimal.Canonical text
  refuses_iff : ∀ (text : String) (e : EncodingError),
    ofText text = .error e ↔ ¬ Decimal.Canonical text ∧ e = .malformedAmount text
  reads_text : ∀ a : Amount, ofText a.text = .ok a
  /-- Every number is denoted, by one text only. -/
  exists_unique_text : ∀ n : Nat, ∃! text, Decimal.Denotes text n
  /-- Amounts are equal if their numbers are, and if their texts are. -/
  eq_iff : ∀ (text text' : String) (a a' : Amount), ofText text = .ok a → ofText text' = .ok a' →
    (a = a' ↔ Decimal.numberOf text.toList = Decimal.numberOf text'.toList) ∧
      (a = a' ↔ text = text')

theorem textForm : TextForm where
  ofText_iff _ _ := ofText_eq_ok
  accepts_iff text := by
    constructor
    · rintro ⟨a, h⟩
      exact (ofText_eq_ok.1 h).toCanonical
    · intro h
      exact ⟨_, ofText_of_canonical h⟩
  refuses_iff _ _ := ofText_eq_error
  reads_text := ofText_text
  exists_unique_text n := by
    refine ⟨(⟨n⟩ : Amount).text, denotes_text ⟨n⟩, ?_⟩
    intro text h
    exact text_of_denotes (a := ⟨n⟩) h
  eq_iff text text' a a' h h' := by
    refine ⟨?_, eq_iff_text_eq h h'⟩
    rw [(ofText_eq_ok.1 h).numberOf_eq, (ofText_eq_ok.1 h').numberOf_eq]
    exact eq_iff_value_eq

/-! ## Numbers of 64 bits -/

theorem toUInt64_eq_ok {n : UInt64} : a.toUInt64 = .ok n ↔ n.toNat = a.value := by
  unfold toUInt64
  constructor
  · intro h
    split at h
    · next hlt =>
      cases h
      exact UInt64.toNat_ofNat_of_lt' hlt
    · cases h
  · intro h
    have hlt : a.value < UInt64.size := h ▸ n.toNat_lt
    rw [if_pos hlt, ← h, UInt64.ofNat_toNat]

theorem toUInt64_eq_error {e : EncodingError} :
    a.toUInt64 = .error e ↔ UInt64.size ≤ a.value ∧ e = .amountOutOfRange a.value := by
  unfold toUInt64
  by_cases hlt : a.value < UInt64.size
  · rw [if_pos hlt]
    exact iff_of_false (fun h => nomatch h) fun h => absurd hlt (Nat.not_lt_of_le h.1)
  · rw [if_neg hlt, Except.error.injEq, eq_comm]
    exact (and_iff_right (Nat.le_of_not_lt hlt)).symm

/-- An amount of 64 bits as a number of that width. -/
theorem exists_toUInt64 (h : a.value < UInt64.size) :
    ∃ n : UInt64, a.toUInt64 = .ok n ∧ n.toNat = a.value := by
  have hnat : (UInt64.ofNat a.value).toNat = a.value := UInt64.toNat_ofNat_of_lt' h
  exact ⟨_, toUInt64_eq_ok.2 hnat, hnat⟩

theorem verify_ofUInt64 (n : UInt64) : verify (ofUInt64 n) = .ok () :=
  verify_eq_ok.2 n.toNat_lt

/-- An amount out of range is named by the text that it was read from. -/
theorem message_amountOutOfRange (h : ofText text = .ok a) :
    (EncodingError.amountOutOfRange a.value).message =
      "amount `" ++ text ++ "` does not fit into 64 bits" := by
  rw [← text_of_ofText h]
  rfl

/-- The amounts of 64 bits are the numbers of that width. -/
structure NarrowForm : Prop where
  narrows : ∀ a : Amount, a.value < UInt64.size →
    ∃ n : UInt64, a.toUInt64 = .ok n ∧ n.toNat = a.value
  /-- A greater amount is an error that names the text of the amount. -/
  overflows : ∀ (text : String) (a : Amount), ofText text = .ok a → UInt64.size ≤ a.value →
    a.toUInt64 = .error (.amountOutOfRange a.value) ∧
      (EncodingError.amountOutOfRange a.value).message =
        "amount `" ++ text ++ "` does not fit into 64 bits"
  denotes_ofUInt64 : ∀ n : UInt64, Decimal.Denotes (ofUInt64 n).text n.toNat
  reads_ofUInt64 : ∀ n : UInt64, ofText (ofUInt64 n).text = .ok (ofUInt64 n)
  narrows_ofUInt64 : ∀ n : UInt64, (ofUInt64 n).toUInt64 = .ok n
  /-- A number of 64 bits comes back from its binary form, with and without checks. -/
  unpacks_ofUInt64 : ∀ (n : UInt64) (checking : Checking) (rest : Bytes),
    unpack checking (pack (ofUInt64 n) ++ rest) = .ok (ofUInt64 n, rest)
  unpackExact_ofUInt64 : ∀ n : UInt64, unpackExact (pack (ofUInt64 n)) = .ok (ofUInt64 n)

theorem narrowForm : NarrowForm where
  narrows _ := exists_toUInt64
  overflows _ _ h hwide := ⟨toUInt64_eq_error.2 ⟨hwide, rfl⟩, message_amountOutOfRange h⟩
  denotes_ofUInt64 n := denotes_text (ofUInt64 n)
  reads_ofUInt64 n := ofText_text (ofUInt64 n)
  narrows_ofUInt64 _ := toUInt64_eq_ok.2 rfl
  unpacks_ofUInt64 n checking rest := LawfulPackable.unpack_pack checking (verify_ofUInt64 n) rest
  unpackExact_ofUInt64 n := LawfulPackable.unpackExact_eq_ok.2 ⟨verify_ofUInt64 n, rfl⟩

end Amount

/-- Amounts are the natural numbers, in their texts and, up to 64 bits, in their binary form. -/
theorem amounts_are_numbers : Amount.TextForm ∧ Amount.NarrowForm :=
  ⟨Amount.textForm, Amount.narrowForm⟩

/-- The least amount out of range and the greatest one in it differ in one digit. -/
theorem amounts_are_numbers_around_64_bits :
    Amount.ofText "18446744073709551616" = .ok ⟨UInt64.size⟩ ∧
      Amount.toUInt64 ⟨UInt64.size⟩ = .error (.amountOutOfRange UInt64.size) ∧
      (EncodingError.amountOutOfRange UInt64.size).message =
        "amount `18446744073709551616` does not fit into 64 bits" ∧
      Amount.ofText "18446744073709551615" = .ok ⟨UInt64.size - 1⟩ ∧
      ∃ n : UInt64, Amount.toUInt64 ⟨UInt64.size - 1⟩ = .ok n ∧ n.toNat = UInt64.size - 1 := by
  have hleast : Amount.ofText "18446744073709551616" = .ok ⟨UInt64.size⟩ := by decide
  have hgreatest : Amount.ofText "18446744073709551615" = .ok ⟨UInt64.size - 1⟩ := by decide
  obtain ⟨herror, hmessage⟩ := amounts_are_numbers.2.overflows _ _ hleast (Nat.le_refl _)
  have hnarrow := amounts_are_numbers.2.narrows ⟨UInt64.size - 1⟩ (by decide)
  exact ⟨hleast, herror, hmessage, hgreatest, hnarrow⟩

end UtxoCodec
