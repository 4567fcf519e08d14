import UtxoCodec.Proofs.Json.Grammar

/-!
# The grammar of compact JSON is unambiguous

Characters denote one value at most (`Value.unique`). The characters of a number do not say where it
ends, those of all other productions do. So a production is compared with another at the start of one
text, where nothing that may belong to a number follows (`Ends`), and both are found to take the same
characters. The induction is on the first of the two.
-/

namespace UtxoCodec.Json.Grammar

variable {cs ds r s : List Char}

/-! ## Characters of a kind at the start of a text -/

/-- No character of a kind is at the start of a text. -/
def Ends (kind : Char → Bool) (cs : List Char) : Prop := ∀ c ∈ cs.head?, kind c = false

@[simp] theorem ends_nil (kind : Char → Bool) : Ends kind [] := fun _ hc => by cases hc

@[simp] theorem ends_cons {kind : Char → Bool} {c : Char} :
    Ends kind (c :: cs) ↔ kind c = false := by
  simp [Ends]

theorem takeWhile_append_of_ends {kind : Char → Bool} (hcs : ∀ c ∈ cs, kind c = true)
    (hr : Ends kind r) : (cs ++ r).takeWhile kind = cs := by
  rw [List.takeWhile_append_of_pos hcs]
  cases r with
  | nil => rw [List.takeWhile_nil, List.append_nil]
  | cons c rest =>
    have hc : ¬ kind c = true := by rw [ends_cons.1 hr]; decide
    rw [List.takeWhile_cons_of_neg hc, List.append_nil]

/-- Where the characters of a kind end is determined by the text. -/
theorem append_inj_of_ends {kind : Char → Bool} (hcs : ∀ c ∈ cs, kind c = true)
    (hds : ∀ d ∈ ds, kind d = true) (hr : Ends kind r) (hs : Ends kind s)
    (heq : cs ++ r = ds ++ s) : cs = ds ∧ r = s := by
  obtain rfl : cs = ds := by
    rw [← takeWhile_append_of_ends hcs hr, heq, takeWhile_append_of_ends hds hs]
  exact ⟨rfl, List.append_cancel_left heq⟩

/-! ## Numbers -/

/-- The characters that numbers are made of. -/
def isNumeric (c : Char) : Bool := c.isDigit || ['-', '+', '.', 'e', 'E'].contains c

theorem isNumeric_of_isDigit {c : Char} (h : c.isDigit = true) : isNumeric c = true := by
  rw [isNumeric, h, Bool.true_or]

theorem isNumeric_of_mem {c : Char} (h : c ∈ ['e', 'E']) : isNumeric c = true := by
  obtain rfl | rfl : c = 'e' ∨ c = 'E' := by simpa using h
  · rfl
  · rfl

theorem isDigit_of_mem {c : Char} (h : c ∈ ['e', 'E']) : c.isDigit = false := by
  obtain rfl | rfl : c = 'e' ∨ c = 'E' := by simpa using h
  · rfl
  · rfl

theorem Digits.exists_cons (h : Digits ds) : ∃ d rest, ds = d :: rest ∧ d.isDigit = true := by
  obtain ⟨d, rest, rfl⟩ := List.exists_cons_of_ne_nil h.1
  exact ⟨d, rest, rfl, h.2 d List.mem_cons_self⟩

theorem not_digits_cons {c : Char} (hc : c.isDigit = false) : ¬ Digits (c :: cs) := by
  intro h
  rw [h.2 c List.mem_cons_self] at hc
  cases hc

theorem Exponent.ends {value : ℤ} (h : Exponent cs value) : Ends Char.isDigit cs := by
  cases h with
  | absent => exact ends_nil _
  | unsigned hletter _ | positive hletter _ | negative hletter _ =>
    exact ends_cons.2 (isDigit_of_mem hletter)

theorem not_exponent_point {value : ℤ} : ¬ Exponent ('.' :: cs) value := by
  have hmem : '.' ∉ ['e', 'E'] := by simp
  intro h
  cases h with
  | unsigned hletter _ | positive hletter _ | negative hletter _ => exact hmem hletter

theorem Fraction.ends {value : ℤ} (h : Fraction cs ds) (hr : Exponent r value) :
    Ends Char.isDigit (cs ++ r) := by
  cases h with
  | absent => exact hr.ends
  | present _ => exact ends_cons.2 (by decide)

theorem Exponent.unique {v w : ℤ} (h : Exponent cs v) (h' : Exponent cs w) : v = w := by
  have hplus (ds : List Char) : ¬ Digits ('+' :: ds) := not_digits_cons (by decide)
  have hminus (ds : List Char) : ¬ Digits ('-' :: ds) := not_digits_cons (by decide)
  cases h with
  | absent => cases h'; rfl
  | unsigned _ hdigits =>
    cases h' with
    | unsigned _ _ => rfl
    | positive _ _ => exact absurd hdigits (hplus _)
    | negative _ _ => exact absurd hdigits (hminus _)
  | positive _ _ =>
    cases h' with
    | unsigned _ hdigits => exact absurd hdigits (hplus _)
    | positive _ _ => rfl
  | negative _ _ =>
    cases h' with
    | unsigned _ hdigits => exact absurd hdigits (hminus _)
    | negative _ _ => rfl

theorem Fraction.unique {a b : List Char} {v w : ℤ} (h : Fraction cs a) (h' : Fraction ds b)
    (hr : Exponent r v) (hs : Exponent s w) (heq : cs ++ r = ds ++ s) : a = b ∧ v = w := by
  cases h with
  | absent =>
    cases h' with
    | absent =>
      obtain rfl : r = s := heq
      exact ⟨rfl, hr.unique hs⟩
    | present _ =>
      obtain rfl : r = '.' :: (b ++ s) := heq
      exact absurd hr not_exponent_point
  | present ha =>
    cases h' with
    | absent =>
      obtain rfl : '.' :: (a ++ r) = s := heq
      exact absurd hs not_exponent_point
    | present hb =>
      obtain ⟨rfl, rfl⟩ := append_inj_of_ends ha.2 hb.2 hr.ends hs.ends (List.cons.inj heq).2
      exact ⟨rfl, hr.unique hs⟩

theorem Decimal.unique {v w : ℚ} (h : Decimal cs v) (h' : Decimal cs w) : v = w := by
  generalize hcs : cs = cs' at h'
  obtain ⟨hwhole, hfraction, hexponent, -, rfl⟩ := h
  obtain ⟨hwhole', hfraction', hexponent', -, rfl⟩ := h'
  rw [List.append_assoc, List.append_assoc] at hcs
  obtain ⟨rfl, htail⟩ := append_inj_of_ends hwhole.digits.2 hwhole'.digits.2
    (hfraction.ends hexponent) (hfraction'.ends hexponent') hcs
  obtain ⟨rfl, rfl⟩ := hfraction.unique hfraction' hexponent hexponent' htail
  rfl

theorem Decimal.not_whole {v : ℚ} (h : Decimal cs v) : ¬ Whole cs := by
  obtain ⟨-, hfraction, hexponent, hpoint, -⟩ := h
  intro hwhole
  obtain ⟨c, rest, htail⟩ := List.exists_cons_of_ne_nil hpoint
  have hends := hfraction.ends hexponent
  rw [htail, ends_cons] at hends
  have hdigit := hwhole.digits.2 c (by rw [List.append_assoc, htail]; simp)
  rw [hdigit] at hends
  cases hends

theorem not_whole_minus : ¬ Whole ('-' :: cs) := fun h => not_digits_cons (by decide) h.digits

theorem Decimal.exists_cons {v : ℚ} (h : Decimal cs v) :
    ∃ c rest, cs = c :: rest ∧ c.isDigit = true := by
  obtain ⟨hwhole, -, -, -, -⟩ := h
  obtain ⟨c, rest, rfl, hc⟩ := hwhole.digits.exists_cons
  exact ⟨c, _, rfl, hc⟩

theorem not_decimal_minus {v : ℚ} : ¬ Decimal ('-' :: cs) v := by
  intro h
  obtain ⟨c, rest, heq, hc⟩ := h.exists_cons
  obtain ⟨rfl, -⟩ := List.cons.inj heq
  revert hc
  decide

theorem whole_zero : Whole ['0'] := ⟨⟨by simp, by simp⟩, fun _ => rfl⟩

theorem Number.unique {m n : Json.Number} (h : Number cs m) (h' : Number cs n) : m = n := by
  cases h with
  | natural hwhole =>
    cases h' with
    | natural _ => rfl
    | binary hdecimal _ _ => exact absurd hwhole hdecimal.not_whole
    | negative _ _ | negativeBinary _ _ _ | minusZero => exact absurd hwhole not_whole_minus
  | negative hwhole hne =>
    cases h' with
    | natural hwhole' => exact absurd hwhole' not_whole_minus
    | negative _ _ => rfl
    | binary hdecimal _ _ => exact absurd hdecimal not_decimal_minus
    | negativeBinary hdecimal _ _ => exact absurd hwhole hdecimal.not_whole
    | minusZero => exact absurd rfl hne
  | binary hdecimal hround hsign =>
    cases h' with
    | natural hwhole => exact absurd hwhole hdecimal.not_whole
    | binary hdecimal' hround' hsign' =>
      obtain rfl := hdecimal.unique hdecimal'
      rw [hround.unique hround' (hsign.trans hsign'.symm)]
    | negative _ _ | negativeBinary _ _ _ | minusZero => exact absurd hdecimal not_decimal_minus
  | negativeBinary hdecimal hround hsign =>
    cases h' with
    | natural hwhole => exact absurd hwhole not_whole_minus
    | negative hwhole _ => exact absurd hwhole hdecimal.not_whole
    | binary hdecimal' _ _ => exact absurd hdecimal' not_decimal_minus
    | negativeBinary hdecimal' hround' hsign' =>
      obtain rfl := hdecimal.unique hdecimal'
      rw [hround.unique hround' (hsign.trans hsign'.symm)]
    | minusZero => exact absurd whole_zero hdecimal.not_whole
  | minusZero =>
    cases h' with
    | natural hwhole => exact absurd hwhole not_whole_minus
    | negative _ hne => exact absurd rfl hne
    | binary hdecimal _ _ => exact absurd hdecimal not_decimal_minus
    | negativeBinary hdecimal _ _ => exact absurd whole_zero hdecimal.not_whole
    | minusZero => rfl

theorem Digits.isNumeric (h : Digits ds) : ∀ d ∈ ds, isNumeric d = true :=
  fun d hd => isNumeric_of_isDigit (h.2 d hd)

theorem Fraction.isNumeric (h : Fraction cs ds) : ∀ c ∈ cs, isNumeric c = true := by
  cases h with
  | absent => exact fun _ hc => absurd hc List.not_mem_nil
  | present hdigits => exact List.forall_mem_cons.2 ⟨by decide, hdigits.isNumeric⟩

theorem Exponent.isNumeric {value : ℤ} (h : Exponent cs value) : ∀ c ∈ cs, isNumeric c = true := by
  cases h with
  | absent => exact fun _ hc => absurd hc List.not_mem_nil
  | unsigned hletter hdigits =>
    exact List.forall_mem_cons.2 ⟨isNumeric_of_mem hletter, hdigits.isNumeric⟩
  | positive hletter hdigits | negative hletter hdigits =>
    refine List.forall_mem_cons.2 ⟨isNumeric_of_mem hletter, ?_⟩
    exact List.forall_mem_cons.2 ⟨by decide, hdigits.isNumeric⟩

theorem Decimal.isNumeric {v : ℚ} (h : Decimal cs v) : ∀ c ∈ cs, isNumeric c = true := by
  obtain ⟨hwhole, hfraction, hexponent, -, -⟩ := h
  refine List.forall_mem_append.2 ⟨?_, hexponent.isNumeric⟩
  exact List.forall_mem_append.2 ⟨hwhole.digits.isNumeric, hfraction.isNumeric⟩

theorem Number.isNumeric {n : Json.Number} (h : Number cs n) : ∀ c ∈ cs, isNumeric c = true := by
  cases h with
  | natural hwhole => exact hwhole.digits.isNumeric
  | negative hwhole _ => exact List.forall_mem_cons.2 ⟨by decide, hwhole.digits.isNumeric⟩
  | binary hdecimal _ _ => exact hdecimal.isNumeric
  | negativeBinary hdecimal _ _ => exact List.forall_mem_cons.2 ⟨by decide, hdecimal.isNumeric⟩
  | minusZero => exact List.forall_mem_cons.2 ⟨by decide, by simp [Grammar.isNumeric]⟩

theorem Number.ne_nil {n : Json.Number} (h : Number cs n) : cs ≠ [] := by
  cases h with
  | natural hwhole => exact hwhole.digits.1
  | binary hdecimal _ _ =>
    obtain ⟨c, rest, rfl, -⟩ := hdecimal.exists_cons
    exact List.cons_ne_nil c rest
  | _ => exact List.cons_ne_nil _ _

theorem Number.not_ends {n : Json.Number} (h : Number cs n) : ¬ Ends Grammar.isNumeric (cs ++ r) := by
  intro hends
  obtain ⟨c, rest, rfl⟩ := List.exists_cons_of_ne_nil h.ne_nil
  rw [List.cons_append, ends_cons, h.isNumeric c List.mem_cons_self] at hends
  cases hends

/-! ## Strings -/

theorem CodeUnit.append_inj {m n : ℕ} (h : CodeUnit cs m) (h' : CodeUnit ds n)
    (heq : cs ++ r = ds ++ s) : cs = ds ∧ m = n ∧ r = s := by
  obtain ⟨rfl, rfl⟩ := List.append_inj heq (h.length.trans h'.length.symm)
  exact ⟨rfl, h.numberOf.symm.trans h'.numberOf, rfl⟩

/-- No character is the first code unit of a pair. -/
theorem toNat_ne_high {c : Char} {n : ℕ} (hn : n < 0x400) : c.toNat ≠ 0xd800 + n := by
  have htoNat : c.toNat = c.val.toNat := rfl
  rcases c.valid with hlow | ⟨hhigh, -⟩
  · have hlt : c.val.toNat < 0xd800 := hlow
    omega
  · have hgt : 0xdfff < c.val.toNat := hhigh
    omega

theorem Character.append_inj {c d : Char} (h : Character cs c) (h' : Character ds d)
    (heq : cs ++ r = ds ++ s) : cs = ds ∧ c = d ∧ r = s := by
  have hletters : ∀ p ∈ letters, ∀ q ∈ letters, p.1 = q.1 → p.2 = q.2 := by decide
  have hu : ∀ p ∈ letters, p.1 ≠ 'u' := by decide
  cases h with
  | plain _ _ hslash =>
    cases h' with
    | plain _ _ _ =>
      obtain ⟨rfl, rfl⟩ := List.cons.inj heq
      exact ⟨rfl, rfl, rfl⟩
    | letter _ | unit _ | pair _ _ _ _ _ => exact absurd (List.cons.inj heq).1 hslash
  | letter hmem =>
    cases h' with
    | plain _ _ hslash => exact absurd (List.cons.inj heq).1.symm hslash
    | letter hmem' =>
      simp only [List.cons_append, List.cons.injEq, true_and] at heq
      obtain ⟨rfl, rfl⟩ := heq
      exact ⟨rfl, hletters _ hmem _ hmem' rfl, rfl⟩
    | unit _ | pair _ _ _ _ _ =>
      simp only [List.cons_append, List.cons.injEq, true_and] at heq
      exact absurd heq.1 (hu _ hmem)
  | unit hunit =>
    cases h' with
    | plain _ _ hslash => exact absurd (List.cons.inj heq).1.symm hslash
    | letter hmem =>
      simp only [List.cons_append, List.cons.injEq, true_and] at heq
      exact absurd heq.1.symm (hu _ hmem)
    | unit hunit' =>
      simp only [List.cons_append, List.cons.injEq, true_and] at heq
      obtain ⟨rfl, htoNat, rfl⟩ := hunit.append_inj hunit' heq
      exact ⟨rfl, Char.toNat_inj.1 htoNat, rfl⟩
    | pair hhigh _ hbound _ _ =>
      simp only [List.cons_append, List.append_assoc, List.cons.injEq, true_and] at heq
      exact absurd (hunit.append_inj hhigh heq).2.1 (toNat_ne_high hbound)
  | pair hhigh hlow hbound _ hvalue =>
    cases h' with
    | plain _ _ hslash => exact absurd (List.cons.inj heq).1.symm hslash
    | letter hmem =>
      simp only [List.cons_append, List.append_assoc, List.cons.injEq, true_and] at heq
      exact absurd heq.1.symm (hu _ hmem)
    | unit hunit =>
      simp only [List.cons_append, List.append_assoc, List.cons.injEq, true_and] at heq
      exact absurd (hhigh.append_inj hunit heq).2.1.symm (toNat_ne_high hbound)
    | pair hhigh' hlow' _ _ hvalue' =>
      simp only [List.cons_append, List.append_assoc, List.cons.injEq, true_and] at heq
      obtain ⟨rfl, hhighs, hrest⟩ := hhigh.append_inj hhigh' heq
      simp only [List.cons.injEq, true_and] at hrest
      obtain ⟨rfl, hlows, rfl⟩ := hlow.append_inj hlow' hrest
      exact ⟨rfl, Char.toNat_inj.1 (by omega), rfl⟩

theorem Character.exists_cons {c : Char} (h : Character cs c) :
    ∃ d rest, cs = d :: rest ∧ d ≠ '"' := by
  cases h with
  | plain _ hquote _ => exact ⟨_, _, rfl, hquote⟩
  | letter _ | unit _ | pair _ _ _ _ _ => exact ⟨_, _, rfl, by decide⟩

/-- A quotation mark ends the characters of a string. -/
theorem Characters.append_inj {a b : List Char} (h : Characters cs a) (h' : Characters ds b)
    (heq : cs ++ '"' :: r = ds ++ '"' :: s) : cs = ds ∧ a = b ∧ r = s := by
  induction h generalizing ds b with
  | nil =>
    cases h' with
    | nil => exact ⟨rfl, rfl, (List.cons.inj heq).2⟩
    | cons hcharacter _ =>
      obtain ⟨d, rest, rfl, hquote⟩ := hcharacter.exists_cons
      exact absurd (List.cons.inj heq).1.symm hquote
  | cons hcharacter _ ih =>
    cases h' with
    | nil =>
      obtain ⟨d, rest, rfl, hquote⟩ := hcharacter.exists_cons
      exact absurd (List.cons.inj heq).1 hquote
    | cons hcharacter' hcharacters =>
      rw [List.append_assoc, List.append_assoc] at heq
      obtain ⟨rfl, rfl, hrest⟩ := hcharacter.append_inj hcharacter' heq
      obtain ⟨rfl, rfl, rfl⟩ := ih hcharacters hrest
      exact ⟨rfl, rfl, rfl⟩

theorem Text.append_inj {a b : String} (h : Text cs a) (h' : Text ds b)
    (heq : cs ++ r = ds ++ s) : cs = ds ∧ a = b ∧ r = s := by
  obtain ⟨hcharacters⟩ := h
  obtain ⟨hcharacters'⟩ := h'
  simp only [List.cons_append, List.append_assoc, List.cons.injEq, true_and] at heq
  obtain ⟨rfl, htext, rfl⟩ := hcharacters.append_inj hcharacters' heq
  exact ⟨rfl, String.toList_inj.1 htext, rfl⟩

/-! ## Values -/

/-- A character at the start of a value; all that numbers are made of count as one. -/
def opening (c : Char) : Char := if isNumeric c then '0' else c

/-- The character that the texts of a value start with. -/
def initial : Json → Char
  | .null => 'n'
  | .bool Bool.true => 't'
  | .bool Bool.false => 'f'
  | .number _ => '0'
  | .string _ => '"'
  | .array _ => '['
  | .object _ => '\x7b'

theorem Value.exists_cons {j : Json} (h : Value cs j) :
    ∃ c rest, cs = c :: rest ∧ opening c = initial j := by
  cases h with
  | number hnumber =>
    obtain ⟨c, rest, rfl⟩ := List.exists_cons_of_ne_nil hnumber.ne_nil
    exact ⟨c, rest, rfl, if_pos (hnumber.isNumeric c List.mem_cons_self)⟩
  | string htext =>
    obtain ⟨-⟩ := htext
    exact ⟨_, _, rfl, rfl⟩
  | _ => exact ⟨_, _, rfl, rfl⟩

theorem initial_eq {j k : Json} (h : Value cs j) (h' : Value ds k) (heq : cs ++ r = ds ++ s) :
    initial j = initial k := by
  obtain ⟨c, rest, rfl, hc⟩ := h.exists_cons
  obtain ⟨d, rest', rfl, hd⟩ := h'.exists_cons
  rw [← hc, ← hd, (List.cons.inj heq).1]

theorem Items.exists_cons {items : List Json} (h : Items cs items) :
    ∃ c rest, cs = c :: rest ∧ c ≠ ']' := by
  have hvalue {cs : List Char} {j : Json} (h : Value cs j) :
      ∃ c rest, cs = c :: rest ∧ c ≠ ']' := by
    obtain ⟨c, rest, rfl, hc⟩ := h.exists_cons
    refine ⟨c, rest, rfl, ?_⟩
    rintro rfl
    revert hc
    unfold initial
    split <;> decide
  cases h with
  | one hitem => exact hvalue hitem
  | cons hitem _ =>
    obtain ⟨c, rest, rfl, hc⟩ := hvalue hitem
    exact ⟨c, _, rfl, hc⟩

theorem Fields.exists_cons {fields : List Field} (h : Fields cs fields) :
    ∃ rest, cs = '"' :: rest := by
  cases h with
  | one hkey _ | cons hkey _ _ =>
    obtain ⟨-⟩ := hkey
    exact ⟨_, rfl⟩

mutual

theorem Value.append_inj {cs ds r s : List Char} {j k : Json} : Value cs j → Value ds k →
    Ends isNumeric r → Ends isNumeric s → cs ++ r = ds ++ s → cs = ds ∧ j = k ∧ r = s
  | .null, h', _, _, heq => by
    have hinitial := initial_eq .null h' heq
    cases h' with
    | null => exact ⟨rfl, rfl, List.append_cancel_left heq⟩
    | _ => simp [initial] at hinitial
  | .true, h', _, _, heq => by
    have hinitial := initial_eq .true h' heq
    cases h' with
    | true => exact ⟨rfl, rfl, List.append_cancel_left heq⟩
    | _ => simp [initial] at hinitial
  | .false, h', _, _, heq => by
    have hinitial := initial_eq .false h' heq
    cases h' with
    | false => exact ⟨rfl, rfl, List.append_cancel_left heq⟩
    | _ => simp [initial] at hinitial
  | .number hnumber, h', hr, hs, heq => by
    have hinitial := initial_eq (.number hnumber) h' heq
    cases h' with
    | number hnumber' =>
      obtain ⟨rfl, rfl⟩ := append_inj_of_ends hnumber.isNumeric hnumber'.isNumeric hr hs heq
      exact ⟨rfl, congrArg _ (hnumber.unique hnumber'), rfl⟩
    | _ => simp [initial] at hinitial
  | .string htext, h', _, _, heq => by
    have hinitial := initial_eq (.string htext) h' heq
    cases h' with
    | string htext' =>
      obtain ⟨rfl, rfl, rfl⟩ := htext.append_inj htext' heq
      exact ⟨rfl, rfl, rfl⟩
    | _ => simp [initial] at hinitial
  | .noItems, h', _, _, heq => by
    have hinitial := initial_eq .noItems h' heq
    cases h' with
    | noItems => exact ⟨rfl, rfl, List.append_cancel_left heq⟩
    | array hitems =>
      obtain ⟨c, rest, rfl, hc⟩ := hitems.exists_cons
      simp [hc.symm] at heq
    | _ => simp [initial] at hinitial
  | .array hitems, h', _, _, heq => by
    have hinitial := initial_eq (.array hitems) h' heq
    cases h' with
    | noItems =>
      obtain ⟨c, rest, rfl, hc⟩ := hitems.exists_cons
      simp [hc] at heq
    | array hitems' =>
      simp only [List.cons_append, List.append_assoc, List.cons.injEq, true_and] at heq
      obtain ⟨rfl, rfl, rfl⟩ := hitems.append_inj hitems' heq
      exact ⟨rfl, rfl, rfl⟩
    | _ => simp [initial] at hinitial
  | .noFields, h', _, _, heq => by
    have hinitial := initial_eq .noFields h' heq
    cases h' with
    | noFields => exact ⟨rfl, rfl, List.append_cancel_left heq⟩
    | object hfields =>
      obtain ⟨rest, rfl⟩ := hfields.exists_cons
      simp at heq
    | _ => simp [initial] at hinitial
  | .object hfields, h', _, _, heq => by
    have hinitial := initial_eq (.object hfields) h' heq
    cases h' with
    | noFields =>
      obtain ⟨rest, rfl⟩ := hfields.exists_cons
      simp at heq
    | object hfields' =>
      simp only [List.cons_append, List.append_assoc, List.cons.injEq, true_and] at heq
      obtain ⟨rfl, rfl, rfl⟩ := hfields.append_inj hfields' heq
      exact ⟨rfl, rfl, rfl⟩
    | _ => simp [initial] at hinitial

theorem Items.append_inj {cs ds r s : List Char} {items others : List Json} :
    Items cs items → Items ds others → cs ++ ']' :: r = ds ++ ']' :: s →
    cs = ds ∧ items = others ∧ r = s
  | .one hitem, h', heq => by
    cases h' with
    | one hitem' =>
      obtain ⟨rfl, rfl, hrest⟩ := hitem.append_inj hitem' (ends_cons.2 rfl) (ends_cons.2 rfl) heq
      exact ⟨rfl, rfl, (List.cons.inj hrest).2⟩
    | cons hitem' _ =>
      rw [List.append_assoc, List.cons_append] at heq
      obtain ⟨-, -, hrest⟩ := hitem.append_inj hitem' (ends_cons.2 rfl) (ends_cons.2 rfl) heq
      simp at hrest
  | .cons hitem hitems, h', heq => by
    rw [List.append_assoc, List.cons_append] at heq
    cases h' with
    | one hitem' =>
      obtain ⟨-, -, hrest⟩ := hitem.append_inj hitem' (ends_cons.2 rfl) (ends_cons.2 rfl) heq
      simp at hrest
    | cons hitem' hitems' =>
      rw [List.append_assoc, List.cons_append] at heq
      obtain ⟨rfl, rfl, hrest⟩ := hitem.append_inj hitem' (ends_cons.2 rfl) (ends_cons.2 rfl) heq
      obtain ⟨rfl, rfl, rfl⟩ := hitems.append_inj hitems' (List.cons.inj hrest).2
      exact ⟨rfl, rfl, rfl⟩

theorem Fields.append_inj {cs ds r s : List Char} {fields others : List Field} :
    Fields cs fields → Fields ds others → cs ++ '\x7d' :: r = ds ++ '\x7d' :: s →
    cs = ds ∧ fields = others ∧ r = s
  | .one hkey hvalue, h', heq => by
    cases h' with
    | one hkey' hvalue' =>
      simp only [List.cons_append, List.append_assoc] at heq
      obtain ⟨rfl, rfl, hrest⟩ := hkey.append_inj hkey' heq
      obtain ⟨rfl, rfl, hrest⟩ := hvalue.append_inj hvalue' (ends_cons.2 rfl) (ends_cons.2 rfl)
        (List.cons.inj hrest).2
      exact ⟨rfl, rfl, (List.cons.inj hrest).2⟩
    | cons hkey' hvalue' _ =>
      simp only [List.cons_append, List.append_assoc] at heq
      obtain ⟨-, -, hrest⟩ := hkey.append_inj hkey' heq
      obtain ⟨-, -, hrest⟩ := hvalue.append_inj hvalue' (ends_cons.2 rfl) (ends_cons.2 rfl)
        (List.cons.inj hrest).2
      simp at hrest
  | .cons hkey hvalue hfields, h', heq => by
    cases h' with
    | one hkey' hvalue' =>
      simp only [List.cons_append, List.append_assoc] at heq
      obtain ⟨-, -, hrest⟩ := hkey.append_inj hkey' heq
      obtain ⟨-, -, hrest⟩ := hvalue.append_inj hvalue' (ends_cons.2 rfl) (ends_cons.2 rfl)
        (List.cons.inj hrest).2
      simp at hrest
    | cons hkey' hvalue' hfields' =>
      simp only [List.cons_append, List.append_assoc] at heq
      obtain ⟨rfl, rfl, hrest⟩ := hkey.append_inj hkey' heq
      obtain ⟨rfl, rfl, hrest⟩ := hvalue.append_inj hvalue' (ends_cons.2 rfl) (ends_cons.2 rfl)
        (List.cons.inj hrest).2
      obtain ⟨rfl, rfl, rfl⟩ := hfields.append_inj hfields' (List.cons.inj hrest).2
      exact ⟨rfl, rfl, rfl⟩

end

/-- Characters denote one value at most. -/
theorem Value.unique {j k : Json} (h : Value cs j) (h' : Value cs k) : j = k :=
  (h.append_inj h' (ends_nil _) (ends_nil _) rfl).2.1

end UtxoCodec.Json.Grammar
