import UtxoCodec.Json.Printer
import UtxoCodec.Proofs.Binary64.Shortest
import UtxoCodec.Proofs.Json.Grammar
import UtxoCodec.Proofs.Text.Decimal

/-!
# Printed values are JSON

The compact text of a value is derived by the grammar as a text of that value (`value_chars`), one
lemma for each function of the printer. A decimal is laid out in four ways, of which each splits into
whole part, fraction and exponent at another place (`decimal_chars`); what it denotes is then a matter
of powers of ten.
-/

namespace UtxoCodec.Json

open Grammar

/-! ## Numbers -/

theorem digits_toDigits (n : ℕ) : Digits (Nat.toDigits 10 n) :=
  ⟨Nat.toDigits_ne_nil, fun _ hd => Nat.isDigit_of_mem_toDigits (by decide) (by decide) hd⟩

theorem digits_zero : Digits ['0'] := digits_toDigits 0

theorem numberOf_toDigits (n : ℕ) : numberOf (Nat.toDigits 10 n) = n :=
  Nat.ofDigitChars_ten_toDigits

theorem whole_toDigits (n : ℕ) : Whole (Nat.toDigits 10 n) := by
  refine ⟨digits_toDigits n, fun hhead => ?_⟩
  by_cases hzero : n = 0
  · rw [hzero]
    rfl
  · exact absurd hhead (Amount.head?_toDigits_ne (Nat.pos_of_ne_zero hzero))

theorem number_integer (n : ℤ) : Grammar.Number (toString n).toList (.integer n) := by
  rw [Int.toString_eq_repr]
  cases n with
  | ofNat n =>
    have h := Grammar.Number.natural (whole_toDigits n)
    rw [numberOf_toDigits] at h
    show Grammar.Number n.repr.toList _
    rwa [Nat.toList_repr]
  | negSucc n =>
    have h := Grammar.Number.negative (whole_toDigits (n + 1))
    rw [numberOf_toDigits] at h
    unfold Int.repr
    rw [String.toList_append, Nat.toList_repr]
    exact h n.succ_ne_zero

/-! ### Layouts of a decimal -/

theorem numberOf_append (ds es : List Char) :
    numberOf (ds ++ es) = Nat.ofDigitChars 10 es (numberOf ds) :=
  Nat.ofDigitChars_append 0

/-- The digits of a decimal: they do not begin with a zero. -/
structure Spelled (d : Binary64.Decimal) (ds : List Char) : Prop where
  digits : Digits ds
  leading : ds.head? ≠ some '0'
  number : numberOf ds = d.digits

theorem spelled_toDigits {d : Binary64.Decimal} (hd : d.digits ≠ 0) :
    Spelled d (Nat.toDigits 10 d.digits) :=
  ⟨digits_toDigits _, Amount.head?_toDigits_ne (Nat.pos_of_ne_zero hd), numberOf_toDigits _⟩

theorem isDigit_of_mem_zeros {count : ℕ} : ∀ c ∈ List.replicate count '0', c.isDigit = true := by
  intro c hc
  rw [List.eq_of_mem_replicate hc]
  rfl

/-- A decimal without exponent. -/
theorem decimal_point {whole fraction : List Char} {value : ℚ} (hwhole : Whole whole)
    (hfraction : Digits fraction)
    (hvalue : value = numberOf (whole ++ fraction) * 10 ^ (-(fraction.length : ℤ))) :
    Grammar.Decimal (whole ++ '.' :: fraction) value := by
  rw [← zero_sub] at hvalue
  have h := Grammar.Decimal.mk hwhole (.present hfraction) .absent (List.cons_ne_nil _ _) hvalue
  rwa [List.append_nil] at h

section Layouts

variable {d : Binary64.Decimal} {ds : List Char} (h : Spelled d ds)

include h

/-- Zeros fill up the digits to the point, and one stands behind it. -/
theorem decimal_padded (hpower : 0 ≤ d.power) :
    Grammar.Decimal (ds ++ List.replicate d.power.toNat '0' ++ ['.', '0']) d.value := by
  have hdigits : Digits (ds ++ List.replicate d.power.toNat '0') :=
    ⟨List.append_ne_nil_of_left_ne_nil h.digits.1 _,
      List.forall_mem_append.2 ⟨h.digits.2, isDigit_of_mem_zeros⟩⟩
  refine decimal_point ⟨hdigits, fun hhead => absurd ?_ h.leading⟩ digits_zero ?_
  · rwa [List.head?_append_of_ne_nil _ h.digits.1] at hhead
  · have hcast : d.power = (d.power.toNat : ℤ) := by omega
    rw [numberOf_append, numberOf_append, Nat.ofDigitChars_replicate_zero, h.number,
      Binary64.Decimal.value, hcast, zpow_natCast, Int.toNat_natCast]
    simp [Nat.ofDigitChars_cons]
    ring

/-- The point stands between digits. -/
theorem decimal_split {point : ℕ} (hpoint : 0 < point) (hlt : point < ds.length)
    (heq : (point : ℤ) = ds.length + d.power) :
    Grammar.Decimal (ds.take point ++ '.' :: ds.drop point) d.value := by
  have htake : Digits (ds.take point) := by
    refine ⟨?_, fun c hc => h.digits.2 c (List.mem_of_mem_take hc)⟩
    rw [ne_eq, List.take_eq_nil_iff, not_or]
    exact ⟨hpoint.ne', h.digits.1⟩
  have hdrop : Digits (ds.drop point) := by
    refine ⟨?_, fun c hc => h.digits.2 c (List.mem_of_mem_drop hc)⟩
    rw [ne_eq, List.drop_eq_nil_iff]
    omega
  refine decimal_point ⟨htake, fun hhead => absurd ?_ h.leading⟩ hdrop ?_
  · rwa [List.head?_take, if_neg hpoint.ne'] at hhead
  · have hpower : -((ds.drop point).length : ℤ) = d.power := by
      rw [List.length_drop]
      omega
    rw [List.take_append_drop, h.number, hpower, Binary64.Decimal.value]

/-- Zeros stand between the point and the digits. -/
theorem decimal_small {zeros : ℕ} (heq : -(zeros : ℤ) = ds.length + d.power) :
    Grammar.Decimal ('0' :: '.' :: List.replicate zeros '0' ++ ds) d.value := by
  have hfraction : Digits (List.replicate zeros '0' ++ ds) :=
    ⟨List.append_ne_nil_of_right_ne_nil _ h.digits.1,
      List.forall_mem_append.2 ⟨isDigit_of_mem_zeros, h.digits.2⟩⟩
  have hpower : -((List.replicate zeros '0' ++ ds).length : ℤ) = d.power := by
    rw [List.length_append, List.length_replicate]
    omega
  have hzeros : numberOf (['0'] ++ List.replicate zeros '0') = 0 := by
    rw [numberOf_append, Nat.ofDigitChars_replicate_zero]
    rfl
  have hvalue : d.value = numberOf (['0'] ++ (List.replicate zeros '0' ++ ds)) *
      10 ^ (-((List.replicate zeros '0' ++ ds).length : ℤ)) := by
    rw [hpower, ← List.append_assoc, numberOf_append, hzeros, Binary64.Decimal.value, ← h.number]
    rfl
  exact decimal_point (whole_toDigits 0) hfraction hvalue

end Layouts

/-- One digit stands before the point, and the exponent says where the point belongs. -/
theorem decimal_scientific {d : Binary64.Decimal} {first : Char} {rest fraction exponent : List Char}
    (h : Spelled d (first :: rest)) (hfraction : Fraction fraction rest)
    (hexponent : Exponent ('e' :: exponent) (rest.length + d.power)) :
    Grammar.Decimal (first :: fraction ++ 'e' :: exponent) d.value := by
  have hwhole : Whole [first] := by
    refine ⟨⟨List.cons_ne_nil _ _, fun c hc => h.digits.2 c ?_⟩, fun hhead => absurd hhead h.leading⟩
    rw [List.mem_singleton.1 hc]
    exact List.mem_cons_self
  refine .mk hwhole hfraction hexponent (List.append_ne_nil_of_right_ne_nil _ (by simp)) ?_
  rw [List.singleton_append, h.number, add_sub_cancel_left, Binary64.Decimal.value]

theorem exponent_signed (point : ℤ) :
    Exponent ('e' :: (if point ≤ 0 then '-' else '+') :: Nat.toDigits 10 (point - 1).natAbs)
      (point - 1) := by
  split
  · have h := Exponent.negative (List.mem_cons_self ..) (digits_toDigits (point - 1).natAbs)
    rw [numberOf_toDigits] at h
    rwa [show -((point - 1).natAbs : ℤ) = point - 1 by omega] at h
  · have h := Exponent.positive (List.mem_cons_self ..) (digits_toDigits (point - 1).natAbs)
    rw [numberOf_toDigits] at h
    rwa [show ((point - 1).natAbs : ℤ) = point - 1 by omega] at h

/-- The layout of a decimal spells its value. -/
theorem decimal_chars {d : Binary64.Decimal} (hd : d.digits ≠ 0) :
    Grammar.Decimal d.chars d.value := by
  have h := spelled_toDigits hd
  unfold Binary64.Decimal.chars
  generalize Nat.toDigits 10 d.digits = ds at h ⊢
  dsimp only
  split
  · next hpadded => exact decimal_padded h hpadded.1
  split
  · next hpadded hsplit =>
    exact decimal_split h (by omega) (by omega) (by omega)
  split
  · exact decimal_small h (by omega)
  · cases ds with
    | nil => exact absurd rfl h.digits.1
    | cons first rest =>
      have hexponent := exponent_signed ((first :: rest).length + d.power)
      have hpower : ((first :: rest).length : ℤ) + d.power - 1 = rest.length + d.power := by
        rw [List.length_cons]
        omega
      rw [hpower] at hexponent ⊢
      cases rest with
      | nil => exact decimal_scientific h .absent hexponent
      | cons second rest =>
        have hrest : Digits (second :: rest) :=
          ⟨List.cons_ne_nil _ _, fun c hc => h.digits.2 c (List.mem_cons_of_mem _ hc)⟩
        exact decimal_scientific h (.present hrest) hexponent

theorem decimal_zero : Grammar.Decimal ['0', '.', '0'] 0 := by
  refine decimal_point (whole_toDigits 0) digits_zero ?_
  show (0 : ℚ) = (0 : ℕ) * _
  rw [Nat.cast_zero, zero_mul]

/-- A number without its sign. -/
theorem decimal_absolute (x : Binary64) :
    ∃ value, Grammar.Decimal (if x.mantissa = 0 then ['0', '.', '0'] else x.shortest.chars) value ∧
      x.RoundsTo value := by
  split
  · next hx => exact ⟨0, decimal_zero, Binary64.roundsTo_zero hx⟩
  · next hx =>
    exact ⟨_, decimal_chars (Binary64.digits_shortest_ne_zero hx), Binary64.roundsTo_shortest hx⟩

theorem number_binary (x : Binary64) : Grammar.Number x.chars (.binary x) := by
  obtain ⟨value, hdecimal, hrounds⟩ := decimal_absolute x
  unfold Binary64.chars
  dsimp only
  split
  · next hnegative => exact .negativeBinary hdecimal hrounds hnegative
  · next hpositive => exact .binary hdecimal hrounds (Bool.eq_false_iff.2 hpositive)

theorem number_chars (n : Number) : Grammar.Number n.chars n := by
  cases n with
  | integer n => exact number_integer n
  | binary x => exact number_binary x

/-! ## Strings -/

theorem codeUnit_control {n : ℕ} (h : n < 32) :
    CodeUnit (List.replicate (4 - (Nat.toDigits 16 n).length) '0' ++ Nat.toDigits 16 n) n := by
  have hall : ∀ n < 32,
      let ds := List.replicate (4 - (Nat.toDigits 16 n).length) '0' ++ Nat.toDigits 16 n
      ds.length = 4 ∧ (ds.all fun d => d.toLower ∈ Hex.numerals) = true ∧ Hex.numberOf ds = n := by
    decide
  obtain ⟨hlength, hnumerals, hnumber⟩ := hall n h
  rw [List.all_eq_true] at hnumerals
  refine ⟨hlength, fun d hd => ?_, hnumber⟩
  show d.toLower ∈ Hex.numerals
  exact of_decide_eq_true (hnumerals d hd)

theorem character_escaped (c : Char) : Character (escaped c) c := by
  unfold escaped
  split
  case h_8 hquote hbackslash _ _ _ _ _ =>
    split
    · next hcontrol => exact .unit (codeUnit_control hcontrol)
    · next hplain => exact .plain (Nat.le_of_not_lt hplain) hquote hbackslash
  -- the characters with a letter of their own
  all_goals exact .letter (by decide)

theorem characters_flatMap (text : List Char) : Characters (text.flatMap escaped) text := by
  induction text with
  | nil => exact .nil
  | cons c rest ih =>
    rw [List.flatMap_cons]
    exact .cons (character_escaped c) ih

theorem text_quoted (s : String) : Text (quoted s) s := .mk (characters_flatMap s.toList)

/-! ## Values -/

mutual

/-- The text of a value is derived as a text of the value. -/
theorem value_chars : ∀ j : Json, Value j.chars j
  | .null => .null
  | .bool true => .true
  | .bool false => .false
  | .number n => .number (number_chars n)
  | .string s => .string (text_quoted s)
  | .array [] => .noItems
  | .array (item :: rest) => .array (items_itemChars (item :: rest) (List.cons_ne_nil _ _))
  | .object [] => .noFields
  | .object (field :: rest) => .object (fields_fieldChars (field :: rest) (List.cons_ne_nil _ _))

theorem items_itemChars : ∀ items : List Json, items ≠ [] → Items (itemChars items) items
  | [], h => absurd rfl h
  | [item], _ => .one (value_chars item)
  | item :: next :: rest, _ =>
    .cons (value_chars item) (items_itemChars (next :: rest) (List.cons_ne_nil _ _))

theorem fields_fieldChars : ∀ fields : List Field, fields ≠ [] → Fields (fieldChars fields) fields
  | [], h => absurd rfl h
  | [(key, value)], _ => .one (text_quoted key) (value_chars value)
  | (key, value) :: next :: rest, _ =>
    .cons (text_quoted key) (value_chars value)
      (fields_fieldChars (next :: rest) (List.cons_ne_nil _ _))

end

end UtxoCodec.Json
