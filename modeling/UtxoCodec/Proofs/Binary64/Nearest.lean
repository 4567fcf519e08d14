import Mathlib.Algebra.Order.Field.Power
import Mathlib.Algebra.Order.Ring.Rat
import Mathlib.Tactic.Linarith
import Mathlib.Tactic.Ring
import UtxoCodec.Binary64

/-!
# The number nearest to a rational

Which rationals round to a finite number: those to which no number of 53 bits is nearer, where of two
equally near ones the even mantissa counts. The exponent of the numbers compared has no upper bound,
so that a rational which belongs to an infinity rounds to no finite number.

The numbers around a finite one are a unit of its last place away, and below a power of two half a
unit. Whatever lies within half of these distances rounds to it (`Between.roundsTo`). No rational
rounds to two numbers of one sign: they would be next to each other, and one of them would be odd
(`RoundsTo.unique`).
-/

namespace UtxoCodec.Binary64

/-- The absolute value. -/
def absolute (x : Binary64) : ℚ := x.mantissa * 2 ^ x.exponent

/-- The unit of the last place, which is the distance to the next number above. -/
def unit (x : Binary64) : ℚ := 2 ^ x.exponent

/-- The distance to the next number below: half a unit if the mantissa loses its leading bit there. -/
def gapBelow (x : Binary64) : ℚ :=
  if x.mantissa = leadingBit ∧ leastExponent < x.exponent then x.unit / 2 else x.unit

/-- The rationals up to half way to the neighbours on both sides, with the ends if the mantissa is
even. -/
structure Between (x : Binary64) (q : ℚ) : Prop where
  low : x.absolute - x.gapBelow / 2 ≤ q
  high : q ≤ x.absolute + x.unit / 2
  inside : x.mantissa % 2 ≠ 0 → x.absolute - x.gapBelow / 2 < q ∧ q < x.absolute + x.unit / 2

/-- A mantissa of 53 bits with an exponent that is not bounded above. -/
def IsRepresentable (y : ℚ) : Prop :=
  ∃ (m : ℕ) (e : ℤ), m < 2 * leadingBit ∧ leastExponent ≤ e ∧ y = m * 2 ^ e

/-- A rational that is not negative rounds to the absolute value of a number, ties to even. -/
structure RoundsTo (q : ℚ) (x : Binary64) : Prop where
  nearest : ∀ y, IsRepresentable y → |q - x.absolute| ≤ |q - y|
  even : ∀ y, IsRepresentable y → y ≠ x.absolute → |q - y| = |q - x.absolute| → x.mantissa % 2 = 0

variable {x x' : Binary64} {y q : ℚ}

theorem absolute_eq_mul_unit (x : Binary64) : x.absolute = x.mantissa * x.unit := rfl

theorem unit_pos (x : Binary64) : 0 < x.unit := zpow_pos (by norm_num) _

theorem unit_le_absolute (hx : x.mantissa ≠ 0) : x.unit ≤ x.absolute := by
  have hone : (1 : ℚ) ≤ x.mantissa := by exact_mod_cast Nat.pos_of_ne_zero hx
  rw [absolute_eq_mul_unit]
  exact le_mul_of_one_le_left x.unit_pos.le hone

theorem gapBelow_pos (x : Binary64) : 0 < x.gapBelow := by
  have hunit := x.unit_pos
  unfold gapBelow
  split <;> linarith

theorem gapBelow_le_unit (x : Binary64) : x.gapBelow ≤ x.unit := by
  have hunit := x.unit_pos
  unfold gapBelow
  split <;> linarith

theorem leadingBit_le (h : leastExponent < x.exponent) : leadingBit ≤ x.mantissa := by
  rcases x.normal.2.2 with heq | ⟨-, hle⟩
  · omega
  · exact hle

theorem roundsTo_zero (hx : x.mantissa = 0) : RoundsTo 0 x := by
  have habsolute : x.absolute = 0 := by rw [absolute, hx, Nat.cast_zero, zero_mul]
  refine ⟨fun y _ => ?_, fun _ _ _ _ => by omega⟩
  rw [habsolute, sub_zero, abs_zero]
  exact abs_nonneg _

theorem isRepresentable_absolute (x : Binary64) : IsRepresentable x.absolute := by
  refine ⟨x.mantissa, x.exponent, x.normal.1, ?_, rfl⟩
  rcases x.normal.2.2 with h | h
  · exact h.ge
  · exact h.1.le

/-! ## Neighbours -/

/-- Numbers with at least the exponent are multiples of the unit. -/
theorem exists_eq_mul_unit {m : ℕ} {e : ℤ} (h : x.exponent ≤ e) :
    ∃ n : ℕ, (m : ℚ) * 2 ^ e = n * x.unit := by
  obtain ⟨k, rfl⟩ : ∃ k : ℕ, e = x.exponent + k := ⟨(e - x.exponent).toNat, by omega⟩
  refine ⟨m * 2 ^ k, ?_⟩
  rw [unit, zpow_add₀ (by norm_num), zpow_natCast]
  push_cast
  ring

/-- A number with a smaller exponent is below. -/
theorem add_gapBelow_le_of_lt_exponent {m : ℕ} {e : ℤ} (hm : m < 2 * leadingBit)
    (hleast : leastExponent ≤ e) (h : e < x.exponent) :
    (m : ℚ) * 2 ^ e + x.gapBelow ≤ x.absolute := by
  have hlead : leadingBit ≤ x.mantissa := leadingBit_le (by omega)
  have hhalf : (2 : ℚ) ^ (x.exponent - 1) = x.unit / 2 := by
    rw [zpow_sub_one₀ (by norm_num), unit, div_eq_mul_inv]
  have hscale : (2 : ℚ) ^ e ≤ x.unit / 2 := by
    rw [← hhalf]
    exact zpow_le_zpow_right₀ (by norm_num) (by omega)
  have hle : (m : ℚ) ≤ 2 * leadingBit - 1 := by
    have hsucc : m + 1 ≤ 2 * leadingBit := hm
    have hcast : (m : ℚ) + 1 ≤ 2 * leadingBit := by exact_mod_cast hsucc
    linarith
  have hbound : (m : ℚ) * 2 ^ e ≤ (2 * leadingBit - 1) * (x.unit / 2) :=
    mul_le_mul hle hscale (zpow_nonneg (by norm_num) _) (le_trans (Nat.cast_nonneg m) hle)
  have hunit := x.unit_pos
  rw [absolute_eq_mul_unit]
  unfold gapBelow
  split
  · next hpower =>
    rw [hpower.1]
    linarith
  · next hpower =>
    have hlt : leadingBit + 1 ≤ x.mantissa := by
      have hne : x.mantissa ≠ leadingBit := fun heq => hpower ⟨heq, by omega⟩
      omega
    have hcast : (leadingBit : ℚ) + 1 ≤ x.mantissa := by exact_mod_cast hlt
    have hmul : ((leadingBit : ℚ) + 1) * x.unit ≤ x.mantissa * x.unit :=
      mul_le_mul_of_nonneg_right hcast hunit.le
    linarith

theorem add_unit_le_of_lt (hy : IsRepresentable y) (h : x.absolute < y) :
    x.absolute + x.unit ≤ y := by
  obtain ⟨m, e, hm, hleast, rfl⟩ := hy
  by_cases he : x.exponent ≤ e
  · obtain ⟨n, hn⟩ := exists_eq_mul_unit (m := m) he
    rw [hn] at h ⊢
    have hlt : (x.mantissa : ℚ) < n := lt_of_mul_lt_mul_right h x.unit_pos.le
    have hsucc : (x.mantissa : ℚ) + 1 ≤ n := by exact_mod_cast hlt
    calc x.absolute + x.unit = (x.mantissa + 1) * x.unit := by rw [absolute_eq_mul_unit]; ring
      _ ≤ n * x.unit := mul_le_mul_of_nonneg_right hsucc x.unit_pos.le
  · have hbelow := add_gapBelow_le_of_lt_exponent (x := x) hm hleast (by omega)
    have hgap := x.gapBelow_pos
    linarith

theorem add_gapBelow_le_of_lt (hy : IsRepresentable y) (h : y < x.absolute) :
    y + x.gapBelow ≤ x.absolute := by
  obtain ⟨m, e, hm, hleast, rfl⟩ := hy
  by_cases he : x.exponent ≤ e
  · obtain ⟨n, hn⟩ := exists_eq_mul_unit (m := m) he
    rw [hn] at h ⊢
    have hlt : (n : ℚ) < x.mantissa := lt_of_mul_lt_mul_right h x.unit_pos.le
    have hsucc : (n : ℚ) + 1 ≤ x.mantissa := by exact_mod_cast hlt
    calc n * x.unit + x.gapBelow ≤ n * x.unit + x.unit := by linarith [x.gapBelow_le_unit]
      _ = (n + 1) * x.unit := by ring
      _ ≤ x.mantissa * x.unit := mul_le_mul_of_nonneg_right hsucc x.unit_pos.le
  · exact add_gapBelow_le_of_lt_exponent hm hleast (by omega)

/-! ## Rounding -/

theorem between_of_abs_sub_lt (h : |q - x.absolute| < x.gapBelow / 2) : x.Between q := by
  have hgap := x.gapBelow_le_unit
  obtain ⟨hlow, hhigh⟩ := abs_lt.1 h
  exact ⟨by linarith, by linarith, fun _ => ⟨by linarith, by linarith⟩⟩

theorem Between.roundsTo (h : x.Between q) : RoundsTo q x := by
  obtain ⟨hlow, hhigh, hinside⟩ := h
  have hunit := x.unit_pos
  have hgap := x.gapBelow_pos
  have hgap' := x.gapBelow_le_unit
  constructor
  · intro y hy
    rcases lt_trichotomy y x.absolute with hlt | rfl | hgt
    · have hbelow := add_gapBelow_le_of_lt hy hlt
      rw [abs_of_pos (a := q - y) (by linarith)]
      exact abs_le.2 ⟨by linarith, by linarith⟩
    · exact le_refl _
    · have habove := add_unit_le_of_lt hy hgt
      rw [abs_of_neg (a := q - y) (by linarith)]
      exact abs_le.2 ⟨by linarith, by linarith⟩
  · intro y hy hne heq
    by_contra hmantissa
    obtain ⟨hlow', hhigh'⟩ := hinside hmantissa
    rcases lt_or_gt_of_ne hne with hlt | hgt
    · have hbelow := add_gapBelow_le_of_lt hy hlt
      rw [abs_of_pos (a := q - y) (by linarith)] at heq
      have hnear : |q - x.absolute| < q - y := abs_lt.2 ⟨by linarith, by linarith⟩
      linarith
    · have habove := add_unit_le_of_lt hy hgt
      rw [abs_of_neg (a := q - y) (by linarith)] at heq
      have hnear : |q - x.absolute| < -(q - y) := abs_lt.2 ⟨by linarith, by linarith⟩
      linarith

/-! ## No rational rounds to two numbers -/

/-- With a larger exponent the mantissa has all its bits, and the other one would have more. -/
theorem exponent_le_of_value_eq {m n : ℕ} {d e : ℤ} (hm : Normal m d) (hn : Normal n e)
    (heq : (m : ℚ) * 2 ^ d = n * 2 ^ e) : e ≤ d := by
  by_contra hlt
  obtain ⟨k, rfl⟩ : ∃ k : ℕ, e = d + k + 1 := ⟨(e - d - 1).toNat, by omega⟩
  rw [zpow_add_one₀ (by norm_num), zpow_add₀ (by norm_num), zpow_natCast] at heq
  have hcancel : (m : ℚ) = n * 2 ^ k * 2 := by
    refine mul_right_cancel₀ (zpow_pos (by norm_num : (0 : ℚ) < 2) d).ne' ?_
    rw [heq]
    ring
  have hnat : m = n * 2 ^ k * 2 := by exact_mod_cast hcancel
  have hpow : n ≤ n * 2 ^ k := Nat.le_mul_of_pos_right n (Nat.pow_pos (by norm_num))
  have hlead : leadingBit ≤ n := by
    rcases hn.2.2 with hleast | hlead
    · rcases hm.2.2 with h | h <;> omega
    · exact hlead.2
  have hbound := hm.1
  omega

/-- Equal absolute values have equal fields. -/
theorem normal_unique {m n : ℕ} {d e : ℤ} (hm : Normal m d) (hn : Normal n e)
    (heq : (m : ℚ) * 2 ^ d = n * 2 ^ e) : m = n ∧ d = e := by
  obtain rfl : d = e :=
    le_antisymm (exponent_le_of_value_eq hn hm heq.symm) (exponent_le_of_value_eq hm hn heq)
  have hcast := mul_right_cancel₀ (zpow_pos (by norm_num : (0 : ℚ) < 2) d).ne' heq
  exact ⟨by exact_mod_cast hcast, rfl⟩

theorem isRepresentable_add_unit (x : Binary64) : IsRepresentable (x.absolute + x.unit) := by
  obtain ⟨-, -, hleast, -⟩ := x.isRepresentable_absolute
  by_cases hcarry : x.mantissa + 1 < 2 * leadingBit
  · refine ⟨x.mantissa + 1, x.exponent, hcarry, ?_, ?_⟩
    · rcases x.normal.2.2 with h | h <;> omega
    · rw [absolute_eq_mul_unit, unit]
      push_cast
      ring
  · have hmantissa : x.mantissa + 1 = 2 * leadingBit := by
      have hlt := x.normal.1
      omega
    refine ⟨leadingBit, x.exponent + 1, by decide, ?_, ?_⟩
    · rcases x.normal.2.2 with h | h <;> omega
    · have hcast : (x.mantissa : ℚ) + 1 = leadingBit * 2 := by
        rw [mul_comm]
        exact_mod_cast hmantissa
      calc x.absolute + x.unit = (x.mantissa + 1) * x.unit := by rw [absolute_eq_mul_unit]; ring
        _ = leadingBit * 2 ^ (x.exponent + 1) := by
          rw [hcast, unit, zpow_add_one₀ (by norm_num), mul_comm ((2 : ℚ) ^ x.exponent), mul_assoc]

theorem RoundsTo.le_add_half_unit (h : RoundsTo q x) : q ≤ x.absolute + x.unit / 2 := by
  by_contra hlt
  rw [not_le] at hlt
  have hunit := x.unit_pos
  have hnearest := h.nearest _ x.isRepresentable_add_unit
  rw [abs_of_pos (a := q - x.absolute) (by linarith)] at hnearest
  have hnear : |q - (x.absolute + x.unit)| < q - x.absolute := abs_lt.2 ⟨by linarith, by linarith⟩
  linarith

theorem RoundsTo.absolute_le (h : RoundsTo q x) (h' : RoundsTo q x') :
    x'.absolute ≤ x.absolute := by
  by_contra hlt
  rw [not_le] at hlt
  have hdistance : |q - x'.absolute| = |q - x.absolute| :=
    le_antisymm (h'.nearest _ x.isRepresentable_absolute) (h.nearest _ x'.isRepresentable_absolute)
  have heven := h.even _ x'.isRepresentable_absolute hlt.ne' hdistance
  have heven' := h'.even _ x.isRepresentable_absolute hlt.ne hdistance.symm
  have hmiddle : q - x.absolute = x'.absolute - q := by
    rcases abs_eq_abs.1 hdistance with heq | heq
    · linarith
    · linarith
  have hnext : x'.absolute = x.absolute + x.unit :=
    le_antisymm (by linarith [h.le_add_half_unit])
      (add_unit_le_of_lt x'.isRepresentable_absolute hlt)
  have hnormal : Normal (x.mantissa + 1) x.exponent := by
    obtain ⟨hbound, hgreatest, hleast⟩ := x.normal
    refine ⟨by omega, hgreatest, hleast.imp_right fun hlead => ⟨hlead.1, by omega⟩⟩
  have hvalue : (x'.mantissa : ℚ) * 2 ^ x'.exponent = (x.mantissa + 1 : ℕ) * 2 ^ x.exponent := by
    rw [← absolute, hnext, absolute_eq_mul_unit, unit]
    push_cast
    ring
  have hodd := (normal_unique x'.normal hnormal hvalue).1
  omega

theorem RoundsTo.unique (h : RoundsTo q x) (h' : RoundsTo q x')
    (hsign : x.isNegative = x'.isNegative) : x = x' := by
  obtain ⟨hmantissa, hexponent⟩ :=
    normal_unique x.normal x'.normal (le_antisymm (h'.absolute_le h) (h.absolute_le h'))
  obtain ⟨sign, mantissa, exponent, normal⟩ := x
  obtain ⟨sign', mantissa', exponent', normal'⟩ := x'
  cases hsign
  cases hmantissa
  cases hexponent
  rfl

end UtxoCodec.Binary64
