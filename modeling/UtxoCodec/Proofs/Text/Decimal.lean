import UtxoCodec.Amount

/-!
# Decimal texts of amounts

An amount is written in its canonical decimal, is read back from it (`Amount.ofText_text`), and is
read from no other text (`Amount.text_of_ofText`).
-/

namespace UtxoCodec

namespace Amount

theorem decimalValue_toDigits (n : Nat) : decimalValue (Nat.toDigits 10 n) = n :=
  Nat.ofDigitChars_ten_toDigits

/-- No decimal but that of zero begins with a zero. -/
theorem head?_toDigits_ne {n : Nat} (h : 0 < n) : (Nat.toDigits 10 n).head? ≠ some '0' := by
  induction n using Nat.base_induction 10 (by decide) with
  | single m hm =>
    have hdigit : ∀ m, m < 10 → 0 < m → m.digitChar ≠ '0' := by decide
    rw [Nat.toDigits_of_lt_base hm, List.head?_cons]
    exact fun heq => hdigit m hm h (Option.some.inj heq)
  | digit m k hk hm ih =>
    rw [← Nat.toDigits_append_toDigits (by decide) hm hk, List.head?_append]
    cases hhead : (Nat.toDigits 10 m).head? with
    | none => exact absurd (List.head?_eq_none_iff.1 hhead) Nat.toDigits_ne_nil
    | some c =>
      rw [hhead] at ih
      exact ih hm

theorem isCanonicalDecimal_toDigits (n : Nat) : isCanonicalDecimal (Nat.toDigits 10 n) = true := by
  have hdigits : (Nat.toDigits 10 n).all Char.isDigit = true :=
    List.all_eq_true.2 fun c hc => Nat.isDigit_of_mem_toDigits (by decide) (by decide) hc
  have hne : (Nat.toDigits 10 n).isEmpty = false := by
    rw [List.isEmpty_eq_false_iff]
    exact Nat.toDigits_ne_nil
  unfold isCanonicalDecimal
  rw [hdigits, hne]
  by_cases hzero : n = 0
  · rw [hzero]
    rfl
  · simp [head?_toDigits_ne (Nat.pos_of_ne_zero hzero)]

/-- An amount is read back from its canonical decimal. -/
theorem ofText_text (a : Amount) : ofText a.text = .ok a := by
  have htext : a.text.toList = Nat.toDigits 10 a.value := Nat.toList_repr
  unfold ofText
  rw [htext, if_pos (isCanonicalDecimal_toDigits a.value), decimalValue_toDigits]

theorem digitChar_of_isDigit {c : Char} (h : c.isDigit = true) :
    c.toNat - 48 < 10 ∧ Nat.digitChar (c.toNat - 48) = c := by
  have hbounds : 48 ≤ c.toNat ∧ c.toNat ≤ 57 := Char.isDigit_iff_toNat.1 h
  have hlt : c.toNat - 48 < 10 := by omega
  refine ⟨hlt, Char.toNat_inj.1 ?_⟩
  rw [Nat.toNat_digitChar_of_lt_ten hlt]
  omega

/-- Reading on behind the digits of a number adds digits to it. -/
theorem toDigits_foldl {n : Nat} (hn : 0 < n) {cs : List Char} (h : ∀ c ∈ cs, c.isDigit = true) :
    Nat.toDigits 10 (cs.foldl (fun n c => 10 * n + (c.toNat - 48)) n) =
      Nat.toDigits 10 n ++ cs := by
  induction cs generalizing n with
  | nil => exact (List.append_nil _).symm
  | cons c rest ih =>
    obtain ⟨hc, hrest⟩ := List.forall_mem_cons.1 h
    obtain ⟨hlt, hdigit⟩ := digitChar_of_isDigit hc
    rw [List.foldl_cons, ih (by omega) hrest, ← Nat.toDigits_append_toDigits (by decide) hn hlt,
      Nat.toDigits_of_lt_base hlt, hdigit, List.append_assoc]
    rfl

/-- The canonical decimal of the number that a canonical decimal denotes. -/
theorem toDigits_decimalValue {cs : List Char} (h : isCanonicalDecimal cs = true) :
    Nat.toDigits 10 (decimalValue cs) = cs := by
  simp only [isCanonicalDecimal, Bool.and_eq_true, Bool.or_eq_true, decide_eq_true_eq,
    List.all_eq_true] at h
  obtain ⟨⟨hne, hdigits⟩, hcanonical⟩ := h
  cases cs with
  | nil => cases hne
  | cons c rest =>
    obtain ⟨hc, hrest⟩ := List.forall_mem_cons.1 hdigits
    obtain ⟨hlt, hdigit⟩ := digitChar_of_isDigit hc
    rcases hcanonical with hzero | hhead
    · rw [hzero]
      rfl
    · have hpos : 0 < c.toNat - 48 := by
        refine Nat.pos_of_ne_zero fun hzero => hhead ?_
        rw [hzero] at hdigit
        rw [List.head?_cons, ← hdigit]
        rfl
      show Nat.toDigits 10 (rest.foldl _ (10 * 0 + (c.toNat - 48))) = _
      rw [Nat.mul_zero, Nat.zero_add, toDigits_foldl hpos hrest, Nat.toDigits_of_lt_base hlt,
        hdigit]
      rfl

/-- An amount is written as the text that it is read from. -/
theorem text_of_ofText {text : String} {a : Amount} (h : ofText text = .ok a) : a.text = text := by
  unfold ofText at h
  split at h
  · next hcanonical =>
    cases h
    refine String.toList_inj.1 ?_
    exact Nat.toList_repr.trans (toDigits_decimalValue hcanonical)
  · cases h

end Amount

end UtxoCodec
