import UtxoCodec.Json.Basic
import UtxoCodec.Proofs.Binary64.Nearest
import UtxoCodec.Proofs.Text.Word256

/-!
# The grammar of compact JSON

The productions of JSON without blanks between its tokens, each as a relation between characters and
what they denote. They say nothing of how a text is printed or read: a character of a string stands
for itself or is escaped in any of the ways there are, fields of an object stand in any order, and a
number may have any exponent.

A number without fraction and exponent denotes an integer. Any other, and minus zero, denotes the
binary number that its decimal rounds to.

No production has a character below the space (`Value.clear`), so that a text is a single line.
-/

namespace UtxoCodec.Json.Grammar

/-! ## Numbers -/

/-- Decimal digits, at least one. -/
def Digits (ds : List Char) : Prop := ds ≠ [] ∧ ∀ d ∈ ds, d.isDigit = true

/-- The number that decimal digits stand for, the highest one first. -/
def numberOf (ds : List Char) : ℕ := Nat.ofDigitChars 10 ds 0

/-- The whole part of a number: a zero before other digits is not allowed. -/
structure Whole (ds : List Char) : Prop where
  digits : Digits ds
  leading : ds.head? = some '0' → ds = ['0']

/-- The fraction of a number, if there is one, and its digits. -/
inductive Fraction : (cs ds : List Char) → Prop where
  | absent : Fraction [] []
  | present {ds : List Char} : Digits ds → Fraction ('.' :: ds) ds

/-- The exponent of a number, if there is one, and its value. -/
inductive Exponent : (cs : List Char) → (value : ℤ) → Prop where
  | absent : Exponent [] 0
  | unsigned {letter : Char} {ds : List Char} :
    letter ∈ ['e', 'E'] → Digits ds → Exponent (letter :: ds) (numberOf ds)
  | positive {letter : Char} {ds : List Char} :
    letter ∈ ['e', 'E'] → Digits ds → Exponent (letter :: '+' :: ds) (numberOf ds)
  | negative {letter : Char} {ds : List Char} :
    letter ∈ ['e', 'E'] → Digits ds → Exponent (letter :: '-' :: ds) (-numberOf ds)

/-- A decimal with a fraction or an exponent, and its value. -/
inductive Decimal : (cs : List Char) → (value : ℚ) → Prop where
  | mk {whole fraction exponent ds : List Char} {power : ℤ} {value : ℚ} :
    Whole whole → Fraction fraction ds → Exponent exponent power → fraction ++ exponent ≠ [] →
    value = numberOf (whole ++ ds) * 10 ^ (power - ds.length) →
    Decimal (whole ++ fraction ++ exponent) value

/-- A number. -/
inductive Number : (cs : List Char) → Json.Number → Prop where
  | natural {ds : List Char} : Whole ds → Number ds (.integer (numberOf ds))
  | negative {ds : List Char} :
    Whole ds → numberOf ds ≠ 0 → Number ('-' :: ds) (.integer (-numberOf ds))
  | binary {cs : List Char} {value : ℚ} {x : Binary64} :
    Decimal cs value → x.RoundsTo value → x.isNegative = false → Number cs (.binary x)
  | negativeBinary {cs : List Char} {value : ℚ} {x : Binary64} :
    Decimal cs value → x.RoundsTo value → x.isNegative = true → Number ('-' :: cs) (.binary x)
  | minusZero : Number ['-', '0'] (.binary (.zero true))

/-! ## Strings -/

/-- The letters behind a backslash, with the characters that they stand for. -/
def letters : List (Char × Char) :=
  [('"', '"'), ('\\', '\\'), ('/', '/'), ('b', '\x08'), ('f', '\x0c'), ('n', '\n'), ('r', '\r'),
    ('t', '\t')]

/-- Four hexadecimal digits, and the code unit that they stand for. -/
structure CodeUnit (ds : List Char) (unit : ℕ) : Prop where
  length : ds.length = 4
  isNumeral : ∀ d ∈ ds, Hex.IsNumeral d
  numberOf : Hex.numberOf ds = unit

/-- A character of a string. One beyond 16 bits may be escaped as two code units. -/
inductive Character : (cs : List Char) → Char → Prop where
  | plain {c : Char} : 32 ≤ c.toNat → c ≠ '"' → c ≠ '\\' → Character [c] c
  | letter {l c : Char} : (l, c) ∈ letters → Character ['\\', l] c
  | unit {ds : List Char} {c : Char} : CodeUnit ds c.toNat → Character ('\\' :: 'u' :: ds) c
  | pair {ds es : List Char} {high low : ℕ} {c : Char} :
    CodeUnit ds (0xd800 + high) → CodeUnit es (0xdc00 + low) → high < 0x400 → low < 0x400 →
    c.toNat = 0x10000 + 0x400 * high + low →
    Character ('\\' :: 'u' :: ds ++ '\\' :: 'u' :: es) c

/-- The characters of a string, one behind the other. -/
inductive Characters : (cs text : List Char) → Prop where
  | nil : Characters [] []
  | cons {cs ds text : List Char} {c : Char} :
    Character cs c → Characters ds text → Characters (cs ++ ds) (c :: text)

/-- A string between quotation marks. -/
inductive Text : (cs : List Char) → String → Prop where
  | mk {cs : List Char} {s : String} : Characters cs s.toList → Text ('"' :: cs ++ ['"']) s

/-! ## Values -/

mutual

/-- A value. -/
inductive Value : (cs : List Char) → Json → Prop where
  | null : Value ['n', 'u', 'l', 'l'] .null
  | true : Value ['t', 'r', 'u', 'e'] (.bool Bool.true)
  | false : Value ['f', 'a', 'l', 's', 'e'] (.bool Bool.false)
  | number {cs : List Char} {n : Json.Number} : Number cs n → Value cs (.number n)
  | string {cs : List Char} {s : String} : Text cs s → Value cs (.string s)
  | noItems : Value ['[', ']'] (.array [])
  | array {cs : List Char} {items : List Json} :
    Items cs items → Value ('[' :: cs ++ [']']) (.array items)
  | noFields : Value ['{', '}'] (.object [])
  | object {cs : List Char} {fields : List Field} :
    Fields cs fields → Value ('{' :: cs ++ ['}']) (.object fields)

/-- The items of an array, at least one, separated by commas. -/
inductive Items : (cs : List Char) → List Json → Prop where
  | one {cs : List Char} {item : Json} : Value cs item → Items cs [item]
  | cons {cs ds : List Char} {item : Json} {items : List Json} :
    Value cs item → Items ds items → Items (cs ++ ',' :: ds) (item :: items)

/-- The fields of an object, at least one, separated by commas. -/
inductive Fields : (cs : List Char) → List Field → Prop where
  | one {cs ds : List Char} {key : String} {value : Json} :
    Text cs key → Value ds value → Fields (cs ++ ':' :: ds) [(key, value)]
  | cons {cs ds es : List Char} {key : String} {value : Json} {fields : List Field} :
    Text cs key → Value ds value → Fields es fields →
    Fields (cs ++ ':' :: ds ++ ',' :: es) ((key, value) :: fields)

end

/-! ## Texts have no control characters -/

/-- There is no character below the space. -/
def Clear (cs : List Char) : Prop := ∀ c ∈ cs, 32 ≤ c.toNat

@[simp] theorem clear_nil : Clear [] := fun _ hc => absurd hc List.not_mem_nil

@[simp] theorem clear_cons {c : Char} {cs : List Char} :
    Clear (c :: cs) ↔ 32 ≤ c.toNat ∧ Clear cs :=
  List.forall_mem_cons

@[simp] theorem clear_append {cs ds : List Char} : Clear (cs ++ ds) ↔ Clear cs ∧ Clear ds :=
  List.forall_mem_append

/-- The bytes of characters are not controls either: those of a longer form are 128 or more. -/
theorem Clear.bytes {cs : List Char} (h : Clear cs) : ∀ b ∈ Bytes.ofChars cs, 32 ≤ b.toNat := by
  intro b hb
  by_cases hlt : b.toNat < 128
  · have hle := h _ (Bytes.mem_of_mem_ofChars hlt hb)
    rwa [Bytes.toNat_ofNat_byte] at hle
  · omega

theorem Digits.clear {ds : List Char} (h : Digits ds) : Clear ds := by
  intro d hd
  have hzero : 48 ≤ d.toNat := (Char.isDigit_iff_toNat.1 (h.2 d hd)).1
  omega

theorem Fraction.clear {cs ds : List Char} (h : Fraction cs ds) : Clear cs := by
  cases h with
  | absent => exact clear_nil
  | present hdigits => exact clear_cons.2 ⟨by decide, hdigits.clear⟩

theorem Exponent.clear {cs : List Char} {value : ℤ} (h : Exponent cs value) : Clear cs := by
  have hletter : ∀ letter ∈ ['e', 'E'], 32 ≤ letter.toNat := by simp
  cases h with
  | absent => exact clear_nil
  | unsigned hmem hdigits => exact clear_cons.2 ⟨hletter _ hmem, hdigits.clear⟩
  | positive hmem hdigits => simp [hletter _ hmem, hdigits.clear]
  | negative hmem hdigits => simp [hletter _ hmem, hdigits.clear]

theorem Decimal.clear {cs : List Char} {value : ℚ} (h : Decimal cs value) : Clear cs := by
  obtain ⟨hwhole, hfraction, hexponent, -, -⟩ := h
  simp [hwhole.digits.clear, hfraction.clear, hexponent.clear]

theorem Number.clear {cs : List Char} {n : Json.Number} (h : Number cs n) : Clear cs := by
  cases h with
  | natural hwhole => exact hwhole.digits.clear
  | negative hwhole _ => exact clear_cons.2 ⟨by decide, hwhole.digits.clear⟩
  | binary hdecimal _ _ => exact hdecimal.clear
  | negativeBinary hdecimal _ _ => exact clear_cons.2 ⟨by decide, hdecimal.clear⟩
  | minusZero => simp

theorem CodeUnit.clear {ds : List Char} {unit : ℕ} (h : CodeUnit ds unit) : Clear ds := by
  intro d hd
  have hlower : 48 ≤ d.toLower.toNat := by
    have hall : ∀ c ∈ Hex.numerals, 48 ≤ c.toNat := by simp [Hex.numerals]
    exact hall _ (h.isNumeral d hd)
  unfold Char.toLower at hlower
  split at hlower
  · next hupper =>
    have hle : 65 ≤ d.toNat := hupper.1
    omega
  · omega

theorem Character.clear {cs : List Char} {c : Char} (h : Character cs c) : Clear cs := by
  have hletter : ∀ p ∈ letters, 32 ≤ p.1.toNat := by decide
  cases h with
  | plain hle _ _ => exact clear_cons.2 ⟨hle, clear_nil⟩
  | letter hmem => simp [hletter _ hmem]
  | unit hunit => simp [hunit.clear]
  | pair hhigh hlow _ _ _ => simp [hhigh.clear, hlow.clear]

theorem Characters.clear {cs text : List Char} (h : Characters cs text) : Clear cs := by
  induction h with
  | nil => exact clear_nil
  | cons hcharacter _ ih => exact clear_append.2 ⟨hcharacter.clear, ih⟩

theorem Text.clear {cs : List Char} {s : String} (h : Text cs s) : Clear cs := by
  obtain ⟨hcharacters⟩ := h
  simp [hcharacters.clear]

mutual

/-- The text of a value has no control characters. -/
theorem Value.clear {cs : List Char} {j : Json} : Value cs j → Clear cs
  | .null | .true | .false | .noItems | .noFields => by simp
  | .number h => h.clear
  | .string h => h.clear
  | .array h => by simp [h.clear]
  | .object h => by simp [h.clear]

theorem Items.clear {cs : List Char} {items : List Json} : Items cs items → Clear cs
  | .one h => h.clear
  | .cons hitem hitems => by simp [hitem.clear, hitems.clear]

theorem Fields.clear {cs : List Char} {fields : List Field} : Fields cs fields → Clear cs
  | .one hkey hvalue => by simp [hkey.clear, hvalue.clear]
  | .cons hkey hvalue hfields => by simp [hkey.clear, hvalue.clear, hfields.clear]

end

end UtxoCodec.Json.Grammar
