import Mathlib.Data.List.Induction
import Mathlib.Data.Nat.Digits.Defs
import UtxoCodec.Json.Record
import UtxoCodec.Proofs.Text.Hexadecimal

/-!
# Texts of 256-bit numbers

A number of 256 bits is read from the prefix and one to 64 digits of either case. The prefix may
also stand twice, and then there need not be any digits at all (`Hex.decodeNumber_eq_ok`). A number
is written with the prefix once, in lower case and without leading zeros (`Hex.Writes`).

Main statement: `word256_texts`. That a second prefix is read is `second_prefix_is_read`.
-/

namespace UtxoCodec

open Outcome

namespace Hex

/-- The number that digits stand for in base sixteen, the highest one first. -/
def numberOf (ds : List Char) : Nat := Nat.ofDigits 16 (ds.reverse.map worth)

/-- The text is the prefix twice with digits of either case behind it. -/
structure SpellsTwice (text : String) (ds : List Char) : Prop where
  toList_eq : text.toList = '0' :: 'x' :: '0' :: 'x' :: ds
  isNumeral : ∀ d ∈ ds, IsNumeral d

theorem numberOf_append_singleton (ds : List Char) (d : Char) :
    numberOf (ds ++ [d]) = 16 * numberOf ds + worth d := by
  unfold numberOf
  rw [List.reverse_append, List.reverse_singleton, List.singleton_append, List.map_cons,
    Nat.ofDigits_cons]
  exact Nat.add_comm ..

/-- The reader's number is the one that the digits stand for. -/
theorem numberValue_eq_numberOf {ds : List Char} (h : ∀ d ∈ ds, IsNumeral d) :
    numberValue ds = numberOf ds := by
  induction ds using List.reverseRecOn with
  | nil => rfl
  | append_singleton ds d ih =>
    have hds : numberValue ds = numberOf ds :=
      ih fun c hc => h c (List.mem_append_left _ hc)
    have hd : digitValue? d.toNat = some (worth d) :=
      digitValue?_eq_some.2 ⟨h d (by simp), rfl⟩
    rw [numberOf_append_singleton, ← hds]
    unfold numberValue
    rw [List.foldl_append, List.foldl_cons, List.foldl_nil, hd, Option.getD_some]

theorem numberOf_lt {ds : List Char} (h : ∀ d ∈ ds, IsNumeral d) (hlen : ds.length ≤ 64) :
    numberOf ds < 2 ^ 256 := by
  have hdigits : ∀ n ∈ ds.reverse.map worth, n < 16 := by
    intro n hn
    obtain ⟨d, hd, rfl⟩ := List.mem_map.1 hn
    exact (h d (List.mem_reverse.1 hd)).worth_lt
  calc numberOf ds < 16 ^ (ds.reverse.map worth).length :=
        Nat.ofDigits_lt_base_pow_length (by decide) hdigits
    _ = 16 ^ ds.length := by rw [List.length_map, List.length_reverse]
    _ ≤ 16 ^ 64 := Nat.pow_le_pow_right (by decide) hlen
    _ = 2 ^ 256 := by decide

/-! ## Reading -/

theorem firstBadDigit_eq_none {cs : List Char} {position : Nat} :
    firstBadDigit position cs = none ↔ ∀ c ∈ cs, IsNumeral c := by
  induction cs generalizing position with
  | nil => simp [firstBadDigit]
  | cons c rest ih =>
    rw [firstBadDigit, List.forall_mem_cons]
    cases hc : digitValue? c.toNat with
    | none =>
      have hbad : ¬ IsNumeral c := by
        intro hnumeral
        rw [digitValue?_eq_some.2 ⟨hnumeral, rfl⟩] at hc
        cases hc
      simp [hbad]
    | some n => simp [ih, (digitValue?_eq_some.1 hc).1]

/-- What is read behind the first prefix. -/
theorem dropSecondPrefix_eq_iff {cs ds : List Char} (h : ∀ d ∈ ds, IsNumeral d) :
    dropSecondPrefix cs = ds ↔ cs = ds ∨ cs = '0' :: 'x' :: ds := by
  unfold dropSecondPrefix
  split
  · next rest =>
    constructor
    · rintro rfl
      exact .inr rfl
    · rintro (rfl | heq)
      · exact absurd (h 'x' (by simp)) not_isNumeral_x
      · cases heq
        rfl
  · next hother =>
    constructor
    · exact .inl
    · rintro (rfl | rfl)
      · rfl
      · exact absurd rfl (hother ds)

/-- The reader's steps in terms of what is behind the first prefix. -/
theorem decodeNumber_eq_ok_iff_exists_rest {text : String} {v : BitVec 256} :
    decodeNumber text = .ok v ↔
      ∃ cs, text.toList = '0' :: 'x' :: cs ∧ cs ≠ [] ∧ (∀ d ∈ dropSecondPrefix cs, IsNumeral d) ∧
        (dropSecondPrefix cs).length ≤ 64 ∧ v.toNat = numberOf (dropSecondPrefix cs) := by
  unfold decodeNumber
  rw [bind_eq_ok]
  refine exists_congr fun cs => and_congr stripPrefix_eq_ok ?_
  simp only [List.isEmpty_iff]
  constructor
  · intro h
    split at h
    · cases h
    · next hne =>
      split at h
      · cases h
      · next hlen =>
        split at h
        · next hgood =>
          have hall := firstBadDigit_eq_none.1 hgood
          rw [length_ofChars_of_isNumeral hall] at hlen
          have hle : (dropSecondPrefix cs).length ≤ 64 := Nat.le_of_not_lt hlen
          cases h
          refine ⟨hne, hall, hle, ?_⟩
          rw [numberValue_eq_numberOf hall, BitVec.toNat_ofNat,
            Nat.mod_eq_of_lt (numberOf_lt hall hle)]
        · split at h <;> cases h
  · rintro ⟨hne, hall, hle, hv⟩
    have hlen : ¬ (Bytes.ofChars (dropSecondPrefix cs)).length > 64 := by
      rw [length_ofChars_of_isNumeral hall]
      exact Nat.not_lt_of_le hle
    rw [if_neg hne, if_neg hlen, firstBadDigit_eq_none.2 hall, numberValue_eq_numberOf hall, ← hv]
    exact congrArg Except.ok (BitVec.ofNat_toNat 256 v)

/-- A number is read from at most 64 digits behind one prefix or two, of which there are some if
there is one prefix. -/
theorem decodeNumber_eq_ok {text : String} {v : BitVec 256} :
    decodeNumber text = .ok v ↔
      ∃ ds, (Spells text ds ∧ ds ≠ [] ∨ SpellsTwice text ds) ∧ ds.length ≤ 64 ∧
        v.toNat = numberOf ds := by
  rw [decodeNumber_eq_ok_iff_exists_rest]
  constructor
  · rintro ⟨cs, htext, hne, hall, hlen, hv⟩
    refine ⟨dropSecondPrefix cs, ?_, hlen, hv⟩
    rcases (dropSecondPrefix_eq_iff hall).1 rfl with hone | htwo
    · rw [hone] at htext hne
      exact .inl ⟨⟨htext, hall⟩, hne⟩
    · rw [htwo] at htext
      exact .inr ⟨htext, hall⟩
  · rintro ⟨ds, hspells, hlen, hv⟩
    rcases hspells with ⟨hone, hne⟩ | htwo
    · have hdrop : dropSecondPrefix ds = ds := (dropSecondPrefix_eq_iff hone.isNumeral).2 (.inl rfl)
      refine ⟨ds, hone.toList_eq, hne, ?_⟩
      rw [hdrop]
      exact ⟨hone.isNumeral, hlen, hv⟩
    · refine ⟨'0' :: 'x' :: ds, htwo.toList_eq, List.cons_ne_nil _ _, ?_⟩
      exact ⟨htwo.isNumeral, hlen, hv⟩

/-! ## Writing -/

theorem isDigit_of_mem_numberDigits {n : Nat} {written : List Char} {c : Char}
    (h : c ∈ numberDigits n written) : IsDigit c ∨ c ∈ written := by
  induction n, written using numberDigits.induct with
  | case1 written =>
    rw [numberDigits, dif_pos rfl] at h
    exact .inr h
  | case2 n written hn ih =>
    rw [numberDigits, dif_neg hn] at h
    rcases ih h with hdigit | hmem
    · exact .inl hdigit
    · rcases List.mem_cons.1 hmem with rfl | hmem
      · exact .inl ⟨n % 16, by omega, rfl⟩
      · exact .inr hmem

/-- Digits in front of those written stand for the number that they continue. -/
theorem foldl_numberDigits (n : Nat) (written : List Char) :
    (numberDigits n written).foldl (fun n c => 16 * n + (digitValue? c.toNat).getD 0) 0 =
      written.foldl (fun n c => 16 * n + (digitValue? c.toNat).getD 0) n := by
  induction n, written using numberDigits.induct with
  | case1 written => rw [numberDigits, dif_pos rfl]
  | case2 n written hn ih =>
    have hsplit : 16 * (n / 16) + n % 16 = n := by omega
    rw [numberDigits, dif_neg hn, ih, List.foldl_cons, digitValue?_digit _ (by omega),
      Option.getD_some, hsplit]

theorem length_numberDigits_le {count : Nat} :
    ∀ {n : Nat} {written : List Char}, n < Nat.pow 16 count →
    (numberDigits n written).length ≤ count + written.length := by
  induction count with
  | zero =>
    intro n written hn
    have hzero : n = 0 := Nat.lt_one_iff.1 hn
    rw [hzero, numberDigits, dif_pos rfl]
    omega
  | succ count ih =>
    intro n written hn
    rw [numberDigits]
    split
    · omega
    · have hsplit : n < Nat.pow 16 count * 16 := hn
      have hdiv : n / 16 < Nat.pow 16 count := by omega
      have hlen : (numberDigits (n / 16) (digit (n % 16) :: written)).length ≤
          count + (digit (n % 16) :: written).length := ih hdiv
      rw [List.length_cons] at hlen
      omega

/-- The digits of a positive number do not begin with a zero. -/
theorem head?_numberDigits_ne {n : Nat} {written : List Char} (h : 0 < n) :
    (numberDigits n written).head? ≠ some '0' := by
  induction n, written using numberDigits.induct with
  | case1 written => exact absurd h (Nat.lt_irrefl 0)
  | case2 n written hn ih =>
    rw [numberDigits, dif_neg hn]
    by_cases hlast : n / 16 = 0
    · have hdigit : ∀ n, n < 16 → 0 < n → digit n ≠ '0' := by decide
      have hlt : n % 16 < 16 := Nat.mod_lt _ (by decide)
      rw [hlast, numberDigits, dif_pos rfl, List.head?_cons]
      exact fun heq => hdigit (n % 16) hlt (by omega) (Option.some.inj heq)
    · exact ih (Nat.pos_of_ne_zero hlast)

/-- The digits of a number; zero has one. -/
def digitsOf (n : Nat) : List Char := if n = 0 then ['0'] else numberDigits n []

theorem digitsOf_of_pos {n : Nat} (h : 0 < n) : digitsOf n = numberDigits n [] :=
  if_neg (Nat.ne_of_gt h)

theorem isDigit_of_mem_digitsOf {n : Nat} {c : Char} (h : c ∈ digitsOf n) : IsDigit c := by
  unfold digitsOf at h
  split at h
  · exact ⟨0, by decide, List.mem_singleton.1 h⟩
  · exact (isDigit_of_mem_numberDigits h).resolve_right List.not_mem_nil

theorem numberOf_digitsOf (n : Nat) : numberOf (digitsOf n) = n := by
  rw [← numberValue_eq_numberOf fun d hd => isNumeral_of_isDigit (isDigit_of_mem_digitsOf hd)]
  rcases Nat.eq_zero_or_pos n with rfl | hpos
  · rfl
  · rw [digitsOf_of_pos hpos]
    exact foldl_numberDigits n []

theorem length_digitsOf_le {n : Nat} (h : n < Nat.pow 16 64) : (digitsOf n).length ≤ 64 := by
  unfold digitsOf
  split
  · decide
  · exact length_numberDigits_le h

theorem digitsOf_ne_nil (n : Nat) : digitsOf n ≠ [] := by
  intro hnil
  have hzero : numberOf (digitsOf n) = 0 := by
    rw [hnil]
    rfl
  rw [numberOf_digitsOf] at hzero
  rw [hzero] at hnil
  cases hnil

/-- The digits that a number is written with. -/
structure Writes (n : Nat) (ds : List Char) : Prop where
  encodeNumber_eq : encodeNumber n = String.ofList ('0' :: 'x' :: ds)
  ne_nil : ds ≠ []
  mem_numerals : ∀ d ∈ ds, d ∈ numerals
  /-- There is a leading zero in the text of zero alone, which is its only digit. -/
  eq_of_head? : ds.head? = some '0' → n = 0
  eq_of_zero : n = 0 → ds = ['0']
  numberOf_eq : numberOf ds = n

theorem writes_digitsOf (n : Nat) : Writes n (digitsOf n) where
  encodeNumber_eq := rfl
  ne_nil := digitsOf_ne_nil n
  mem_numerals d hd := isDigit_iff_mem_numerals.1 (isDigit_of_mem_digitsOf hd)
  eq_of_head? hhead := by
    by_contra hzero
    have hpos : 0 < n := Nat.pos_of_ne_zero hzero
    rw [digitsOf_of_pos hpos] at hhead
    exact head?_numberDigits_ne hpos hhead
  eq_of_zero hzero := by
    rw [hzero]
    rfl
  numberOf_eq := numberOf_digitsOf n

/-- A number of 256 bits is read back from its digits. -/
theorem decodeNumber_encodeNumber (n : BitVec 256) :
    decodeNumber (encodeNumber n.toNat) = .ok n := by
  have hspells : Spells (encodeNumber n.toNat) (digitsOf n.toNat) :=
    spells_ofList fun d hd => isDigit_of_mem_digitsOf hd
  have hbound : n.toNat < Nat.pow 16 64 := n.isLt
  exact decodeNumber_eq_ok.2 ⟨digitsOf n.toNat, .inl ⟨hspells, digitsOf_ne_nil n.toNat⟩,
    length_digitsOf_le hbound, (numberOf_digitsOf n.toNat).symm⟩

end Hex

/-- A text is read as a number if and only if it is the prefix and one to 64 digits of either case,
or the prefix twice and up to 64 digits; the number is the one that the digits stand for. Every
number is written with the prefix once, in lower case and without leading zeros, and read back. -/
theorem word256_texts (text : String) (v : BitVec 256) :
    (Json.readWord256 (.string text) = .ok v ↔
      ∃ ds, (Hex.Spells text ds ∧ ds ≠ [] ∨ Hex.SpellsTwice text ds) ∧ ds.length ≤ 64 ∧
        v.toNat = Hex.numberOf ds) ∧
    (∃ ds, Hex.Writes v.toNat ds) ∧ Json.readWord256 (Json.ofWord256 v) = .ok v := by
  refine ⟨?_, ⟨_, Hex.writes_digitsOf v.toNat⟩, ?_⟩
  · rw [← Hex.decodeNumber_eq_ok]
    exact mapError_eq_ok
  · exact mapError_eq_ok.2 (Hex.decodeNumber_encodeNumber v)

/-- Five is read from a text that is not the prefix and digits. -/
theorem second_prefix_is_read :
    ¬ ∀ (text : String) (v : BitVec 256), Json.readWord256 (.string text) = .ok v ↔
      ∃ ds, Hex.Spells text ds ∧ 1 ≤ ds.length ∧ ds.length ≤ 64 ∧ v.toNat = Hex.numberOf ds := by
  intro h
  have hread : Json.readWord256 (.string "0x0x5") = .ok 5 := by decide
  obtain ⟨ds, hspells, -⟩ := (h "0x0x5" 5).1 hread
  have hds : ds = ['0', 'x', '5'] := by
    have htext := hspells.toList_eq
    simpa using htext.symm
  have hx : Hex.IsNumeral 'x' := hspells.isNumeral 'x' (by rw [hds]; decide)
  exact Hex.not_isNumeral_x hx

end UtxoCodec
