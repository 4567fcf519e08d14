import Mathlib.Tactic.FieldSimp
import UtxoCodec.Binary64.Shortest
import UtxoCodec.Proofs.Binary64.Nearest

/-!
# The shortest decimal denotes the number

The decimal that `shortest` chooses rounds to the number it was chosen for (`roundsTo_shortest`). A
decimal that is found lies in the interval of the number, by the comparison of natural numbers that
finds it; these are carried to the rationals once (`contains_interval`). One is found with at most
seventeen digits, as their last place is finer than the distance to the neighbours
(`exists_nearest?`).
-/

namespace UtxoCodec.Binary64

variable {x : Binary64} {d : Decimal} {power : ℤ}

/-- The number that a decimal denotes. -/
def Decimal.value (d : Decimal) : ℚ := d.digits * 10 ^ d.power

theorem ten_zpow_pos (power : ℤ) : (0 : ℚ) < 10 ^ power := zpow_pos (by norm_num) _

/-! ## Digits -/

theorem lt_ten_pow_digitCount (n : ℕ) : n < 10 ^ digitCount n :=
  (Nat.length_toDigits_le_iff (by norm_num) (List.length_pos_iff.2 Nat.toDigits_ne_nil)).1 le_rfl

theorem ten_pow_digitCount_le {n : ℕ} (h : 0 < n) : 10 ^ (digitCount n - 1) ≤ n := by
  by_cases hone : digitCount n - 1 = 0
  · rw [hone]
    exact h
  · by_contra hlt
    have hle := (Nat.length_toDigits_le_iff (by norm_num) (Nat.pos_of_ne_zero hone)).2
      (Nat.lt_of_not_le hlt)
    change digitCount n ≤ digitCount n - 1 at hle
    omega

theorem one_le_digitCount (n : ℕ) : 1 ≤ digitCount n :=
  List.length_pos_iff.2 Nat.toDigits_ne_nil

theorem ten_zpow_neg_le {num den k : ℕ} (hden : 0 < den) (h : den ≤ num * 10 ^ k) :
    (10 : ℚ) ^ (-(k : ℤ)) ≤ num / den := by
  have hden' : (0 : ℚ) < den := by exact_mod_cast hden
  have hcast : (den : ℚ) ≤ num * 10 ^ k := by exact_mod_cast h
  rw [zpow_neg, zpow_natCast, le_div_iff₀ hden', inv_mul_le_iff₀ (by positivity), mul_comm]
  exact hcast

/-- The magnitude is not too large: it names the power of ten above a ratio. -/
theorem ten_zpow_decimalMagnitude_le {num den : ℕ} (hnum : 0 < num) (hden : 0 < den) :
    (10 : ℚ) ^ (decimalMagnitude num den - 1) ≤ num / den := by
  unfold decimalMagnitude
  split
  · next hle =>
    have hquotient : 10 ^ (digitCount (num / den) - 1) ≤ num / den :=
      ten_pow_digitCount_le (Nat.div_pos hle hden)
    have hcount := one_le_digitCount (num / den)
    have hden' : (0 : ℚ) < den := by exact_mod_cast hden
    rw [show (digitCount (num / den) : ℤ) - 1 = (digitCount (num / den) - 1 : ℕ) by omega,
      zpow_natCast, le_div_iff₀ hden']
    exact_mod_cast (Nat.le_div_iff_mul_le hden).1 hquotient
  · have hcount := one_le_digitCount (den / num)
    dsimp only
    split
    · next heq =>
      rw [show (2 : ℤ) - digitCount (den / num) - 1 = -(digitCount (den / num) - 1 : ℕ) by omega]
      exact ten_zpow_neg_le hden heq.ge
    · have hlt := lt_ten_pow_digitCount (den / num)
      rw [Nat.div_lt_iff_lt_mul hnum, Nat.mul_comm] at hlt
      rw [show (1 : ℤ) - digitCount (den / num) - 1 = -(digitCount (den / num) : ℕ) by omega]
      exact ten_zpow_neg_le hden hlt.le

theorem Decimal.value_trim (d : Decimal) : d.trim.value = d.value := by
  induction d using Decimal.trim.induct with
  | case1 d hstop => rw [trim, dif_pos hstop]
  | case2 d hgo ih =>
    rw [trim, dif_neg hgo, ih]
    have hdigits : d.digits = d.digits / 10 * 10 := by omega
    unfold value
    rw [zpow_add_one₀ (by norm_num)]
    conv_rhs => rw [hdigits]
    push_cast
    ring

/-! ## The interval of a number -/

theorem overPower_pos (power : ℤ) : 0 < (overPower power).1 ∧ 0 < (overPower power).2 := by
  have hpos (k : ℕ) : 0 < Nat.pow 10 k := Nat.pow_pos (by norm_num)
  unfold overPower
  split
  · exact ⟨hpos _, Nat.one_pos⟩
  · exact ⟨Nat.one_pos, hpos _⟩

theorem overPower_eq (power : ℤ) :
    ((overPower power).1 : ℚ) = 10 ^ power * (overPower power).2 := by
  unfold overPower
  simp only [Nat.pow_eq]
  split
  · next hpower =>
    have hcast : power = (power.toNat : ℤ) := by omega
    conv_rhs => rw [hcast, zpow_natCast]
    push_cast
    ring
  · next hpower =>
    have hcast : power = -((-power).toNat : ℤ) := by omega
    conv_rhs => rw [hcast, zpow_neg, zpow_natCast, neg_neg, Int.toNat_natCast]
    push_cast
    field_simp

/-- What the fields of the interval of a number are over its denominator. -/
structure Interval.Measures (i : Interval) (x : Binary64) : Prop where
  den_pos : 0 < i.den
  low : (i.low : ℚ) = (x.absolute - x.gapBelow / 2) * i.den
  value : (i.value : ℚ) = x.absolute * i.den
  high : (i.high : ℚ) = (x.absolute + x.unit / 2) * i.den
  closed : i.closed = true ↔ x.mantissa % 2 = 0

/-- The ratio of a number with the unit of the last place over the same denominator. -/
theorem exists_ratio_eq (x : Binary64) :
    ∃ unit den : ℕ, 0 < den ∧ 0 < unit ∧ x.ratio = (x.mantissa * unit, den) ∧
      (if 0 ≤ x.exponent then 1 <<< x.exponent.toNat else 1) = unit ∧
      (unit : ℚ) = x.unit * den := by
  unfold ratio
  split
  · next hexponent =>
    have hcast : x.exponent = (x.exponent.toNat : ℤ) := by omega
    refine ⟨2 ^ x.exponent.toNat, 1, Nat.one_pos, by positivity, ?_, Nat.one_shiftLeft _, ?_⟩
    · rw [Nat.shiftLeft_eq]
    · rw [Binary64.unit, hcast, zpow_natCast, Int.toNat_natCast]
      push_cast
      ring
  · next hexponent =>
    have hcast : x.exponent = -((-x.exponent).toNat : ℤ) := by omega
    refine ⟨1, 2 ^ (-x.exponent).toNat, by positivity, Nat.one_pos, ?_, rfl, ?_⟩
    · rw [Nat.one_shiftLeft, Nat.mul_one]
    · rw [Binary64.unit]
      conv_rhs => rw [hcast, zpow_neg, zpow_natCast, neg_neg, Int.toNat_natCast]
      push_cast
      field_simp

theorem measures_interval (hx : x.mantissa ≠ 0) : x.interval.Measures x := by
  obtain ⟨unit, den, hden, hunit, hratio, hshift, hvalue⟩ := x.exists_ratio_eq
  have habsolute : x.absolute * den = x.mantissa * unit := by
    rw [hvalue, absolute_eq_mul_unit]
    ring
  unfold interval
  rw [hratio, hshift]
  dsimp only
  constructor
  · exact Nat.mul_pos (by norm_num) hden
  · have hfloor : unit ≤ x.mantissa * unit := Nat.le_mul_of_pos_left _ (Nat.pos_of_ne_zero hx)
    unfold gapBelow
    split
    · rw [Nat.cast_sub (by omega)]
      push_cast
      linarith
    · rw [Nat.cast_sub (by omega)]
      push_cast
      linarith
  · push_cast
    linarith
  · push_cast
    linarith
  · exact decide_eq_true_iff

/-- The comparison of natural numbers is that of the rationals. -/
theorem contains_interval (hx : x.mantissa ≠ 0) : x.interval.contains d = true ↔ x.Between d.value := by
  have h := measures_interval hx
  have hdown : (0 : ℚ) < x.interval.den * (overPower d.power).2 := by
    exact_mod_cast Nat.mul_pos h.den_pos (overPower_pos d.power).2
  have hpoint : ((d.digits * (overPower d.power).1 * x.interval.den : ℕ) : ℚ) =
      d.value * (x.interval.den * (overPower d.power).2) := by
    push_cast
    rw [overPower_eq, Decimal.value]
    ring
  have hlow : ((x.interval.low * (overPower d.power).2 : ℕ) : ℚ) =
      (x.absolute - x.gapBelow / 2) * (x.interval.den * (overPower d.power).2) := by
    push_cast
    rw [h.low]
    ring
  have hhigh : ((x.interval.high * (overPower d.power).2 : ℕ) : ℚ) =
      (x.absolute + x.unit / 2) * (x.interval.den * (overPower d.power).2) := by
    push_cast
    rw [h.high]
    ring
  unfold Interval.contains
  dsimp only
  split
  · next hclosed =>
    have heven := h.closed.1 hclosed
    rw [Bool.and_eq_true, decide_eq_true_iff, decide_eq_true_iff, ← Nat.cast_le (α := ℚ),
      ← Nat.cast_le (α := ℚ), hpoint, hlow, hhigh, mul_le_mul_iff_left₀ hdown,
      mul_le_mul_iff_left₀ hdown]
    exact ⟨fun ⟨hle, hge⟩ => ⟨hle, hge, fun hodd => absurd heven hodd⟩, fun hb => ⟨hb.low, hb.high⟩⟩
  · next hopen =>
    have hodd : x.mantissa % 2 ≠ 0 := fun heven => hopen (h.closed.2 heven)
    rw [Bool.and_eq_true, decide_eq_true_iff, decide_eq_true_iff, ← Nat.cast_lt (α := ℚ),
      ← Nat.cast_lt (α := ℚ), hpoint, hlow, hhigh, mul_lt_mul_iff_left₀ hdown,
      mul_lt_mul_iff_left₀ hdown]
    exact ⟨fun ⟨hlt, hgt⟩ => ⟨hlt.le, hgt.le, fun _ => ⟨hlt, hgt⟩⟩, fun hb => hb.inside hodd⟩

/-! ## What is found -/

theorem Interval.contains_of_nearest? {i : Interval} (h : i.nearest? power = some d) :
    i.contains d = true := by
  unfold nearest? at h
  dsimp only at h
  split at h
  · next hlower hupper =>
    cases h
    split
    · exact hupper
    · exact hlower
  · next hlower _ =>
    cases h
    exact hlower
  · next _ hupper =>
    cases h
    exact hupper
  · cases h

theorem Interval.not_contains_of_nearest?_eq_none {i : Interval} (h : i.nearest? power = none) :
    let floor := i.value * (overPower power).2 / ((overPower power).1 * i.den)
    i.contains ⟨floor, power⟩ = false ∧ i.contains ⟨floor + 1, power⟩ = false := by
  unfold nearest? at h
  dsimp only at h ⊢
  split at h
  · cases h
  · cases h
  · cases h
  · next hlower hupper => exact ⟨hlower, hupper⟩

/-- A number lies between two decimals next to each other, over the fraction that rounding down
loses. -/
theorem exists_absolute_eq (hx : x.mantissa ≠ 0) (power : ℤ) :
    let i := x.interval
    let floor := i.value * (overPower power).2 / ((overPower power).1 * i.den)
    ∃ t : ℚ, 0 ≤ t ∧ t < 1 ∧ x.absolute = (floor + t) * 10 ^ power := by
  intro i floor
  have h := measures_interval hx
  obtain ⟨hup, hdown⟩ := overPower_pos power
  set num := i.value * (overPower power).2 with hnum
  set den := (overPower power).1 * i.den with hden
  have hpos : 0 < den := Nat.mul_pos hup h.den_pos
  have hpos' : (0 : ℚ) < den := by exact_mod_cast hpos
  have hscaled : (num : ℚ) * 10 ^ power = x.absolute * den := by
    rw [hnum, hden]
    push_cast
    rw [h.value, overPower_eq]
    ring
  have hdivision : (den : ℚ) * floor + (num % den : ℕ) = num := by
    exact_mod_cast Nat.div_add_mod num den
  refine ⟨(num % den : ℕ) / den, div_nonneg (Nat.cast_nonneg _) hpos'.le, ?_, ?_⟩
  · rw [div_lt_one₀ hpos']
    exact_mod_cast Nat.mod_lt num hpos
  · refine mul_right_cancel₀ hpos'.ne' ?_
    rw [← hscaled, ← hdivision]
    field_simp

/-- If the last place is finer than the distance to the neighbours, one of the two decimals around a
number is less than half of that distance away. -/
theorem exists_nearest? (hx : x.mantissa ≠ 0) (hfine : (10 : ℚ) ^ power < x.gapBelow) :
    ∃ d, x.interval.nearest? power = some d := by
  cases hfound : x.interval.nearest? power with
  | some d => exact ⟨d, rfl⟩
  | none =>
    obtain ⟨hlower, hupper⟩ := Interval.not_contains_of_nearest?_eq_none hfound
    obtain ⟨t, ht, ht', habsolute⟩ := exists_absolute_eq hx power
    have hpower := ten_zpow_pos power
    rw [Bool.eq_false_iff, ne_eq, contains_interval hx] at hlower hupper
    rcases le_total t (1 / 2) with hhalf | hhalf
    · refine absurd (between_of_abs_sub_lt ?_) hlower
      rw [habsolute, Decimal.value, abs_lt]
      constructor <;> nlinarith
    · refine absurd (between_of_abs_sub_lt ?_) hupper
      rw [habsolute, Decimal.value, abs_lt]
      push_cast
      constructor <;> nlinarith

/-- Seventeen digits are fine enough: ten to the sixteen is more than a mantissa, and more than twice
one that is a power of two. -/
theorem ten_zpow_lt_gapBelow (hx : x.mantissa ≠ 0) :
    (10 : ℚ) ^ (decimalMagnitude x.interval.value x.interval.den - 17) < x.gapBelow := by
  have h := measures_interval hx
  have hden : (0 : ℚ) < x.interval.den := by exact_mod_cast h.den_pos
  have hunit := x.unit_pos
  have hvalue : 0 < x.interval.value := by
    have hpositive : (0 : ℚ) < x.interval.value := by
      rw [h.value]
      exact mul_pos (lt_of_lt_of_le hunit (unit_le_absolute hx)) hden
    exact_mod_cast hpositive
  have hmagnitude := ten_zpow_decimalMagnitude_le hvalue h.den_pos
  rw [h.value, mul_div_assoc, div_self hden.ne', mul_one, absolute_eq_mul_unit] at hmagnitude
  generalize decimalMagnitude x.interval.value x.interval.den = magnitude at hmagnitude ⊢
  rw [show magnitude - 1 = magnitude - 17 + (16 : ℕ) by omega, zpow_add₀ (by norm_num),
    zpow_natCast] at hmagnitude
  unfold gapBelow
  split
  · next hpower =>
    rw [hpower.1] at hmagnitude
    norm_num [leadingBit] at hmagnitude
    linarith
  · have hmantissa : (x.mantissa : ℚ) ≤ 9007199254740992 := by
      have hlt := x.normal.1
      unfold leadingBit at hlt
      exact_mod_cast hlt.le
    have hmul := mul_le_mul_of_nonneg_right hmantissa hunit.le
    norm_num at hmagnitude
    linarith

/-- The shortest decimal of a number is found in the interval of the number. -/
theorem between_shortest (hx : x.mantissa ≠ 0) : x.Between x.shortest.value := by
  unfold shortest
  dsimp only
  rw [Decimal.value_trim]
  cases hfound : (List.range 17).findSome? fun k =>
      x.interval.nearest? (decimalMagnitude x.interval.value x.interval.den - (k + 1 : ℕ)) with
  | none =>
    obtain ⟨d, hd⟩ := exists_nearest? hx (ten_zpow_lt_gapBelow hx)
    have hnone := List.findSome?_eq_none_iff.1 hfound 16 (by simp)
    rw [show ((16 + 1 : ℕ) : ℤ) = 17 from rfl, hd] at hnone
    cases hnone
  | some d =>
    obtain ⟨k, -, hk⟩ := List.exists_of_findSome?_eq_some hfound
    exact (contains_interval hx).1 (Interval.contains_of_nearest? hk)

theorem roundsTo_shortest (hx : x.mantissa ≠ 0) : RoundsTo x.shortest.value x :=
  (between_shortest hx).roundsTo

theorem digits_shortest_ne_zero (hx : x.mantissa ≠ 0) : x.shortest.digits ≠ 0 := by
  intro hzero
  have hlow := (between_shortest hx).low
  rw [Decimal.value, hzero, Nat.cast_zero, zero_mul] at hlow
  linarith [x.unit_pos, x.gapBelow_le_unit, unit_le_absolute hx]

end UtxoCodec.Binary64
