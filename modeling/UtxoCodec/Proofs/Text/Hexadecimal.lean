import UtxoCodec.Proofs.Outcome
import UtxoCodec.Proofs.Utf8
import UtxoCodec.Text.Hex

/-!
# Which texts are hexadecimal

The grammar of prefixed hexadecimal text in terms of the characters of a text, without their UTF-8
forms, positions or faults. Bytes are read from the prefix and an even number of digits of either
case (`Hex.decode_eq_ok`), and written as the same text in lower case (`Hex.encode_bytesOf`), from
which they are read back (`Hex.decode_encode`).

That a reader looks at bytes and not at characters makes no difference: a byte that is a digit is a
character of its own, so a text of digits has as many bytes as characters.
-/

namespace UtxoCodec

open Outcome

namespace Hex

/-! ## Digits -/

/-- The sixteen digits in lower case, in the order of their values. -/
def numerals : List Char :=
  ['0', '1', '2', '3', '4', '5', '6', '7', '8', '9', 'a', 'b', 'c', 'd', 'e', 'f']

/-- A digit of either case. -/
def IsNumeral (c : Char) : Prop := c.toLower ∈ numerals

/-- The value of a digit of either case: its place among the sixteen. -/
def worth (c : Char) : Nat := numerals.idxOf c.toLower

/-- The bytes that digits stand for, two digits a byte, the high one first. -/
def bytesOf : List Char → Bytes
  | high :: low :: rest => UInt8.ofNat (16 * worth high + worth low) :: bytesOf rest
  | _ => []

/-- A character that is the lower-case digit of a number. -/
def IsDigit (c : Char) : Prop := ∃ n, n < 16 ∧ c = digit n

theorem IsNumeral.lt {c : Char} (h : IsNumeral c) : c.toNat < 128 := by
  have hlower : c.toLower.toNat < 128 := by
    have hall : ∀ d ∈ numerals, d.toNat < 128 := by simp [numerals]
    exact hall _ h
  unfold Char.toLower at hlower
  split at hlower
  · next hupper =>
    have hle : c.toNat ≤ 90 := hupper.2
    omega
  · exact hlower

theorem IsNumeral.worth_lt {c : Char} (h : IsNumeral c) : worth c < 16 :=
  List.idxOf_lt_length_of_mem h

/-- The reader's value of a digit is its place among the sixteen; all else is no digit. -/
theorem digitValue?_eq_some {c : Char} {n : Nat} :
    digitValue? c.toNat = some n ↔ IsNumeral c ∧ worth c = n := by
  have hsmall : ∀ c : Char, c.toNat < 128 → digitValue? c.toNat =
      if c.toLower ∈ numerals then some (numerals.idxOf c.toLower) else none :=
    forall_char_lt (by decide)
  by_cases hlt : c.toNat < 128
  · rw [hsmall c hlt]
    unfold IsNumeral worth
    split
    · next hmem => simp [hmem]
    · next hmem => simp [hmem]
  · have hnone : digitValue? c.toNat = none := by
      unfold digitValue?
      rw [if_neg (by omega), if_neg (by omega), if_neg (by omega)]
    rw [hnone]
    exact iff_of_false (fun h => nomatch h) fun h => hlt h.1.lt

theorem digit_worth {c : Char} (h : IsNumeral c) : digit (worth c) = c.toLower := by
  have hsmall : ∀ c : Char, c.toNat < 128 → c.toLower ∈ numerals →
      digit (numerals.idxOf c.toLower) = c.toLower :=
    forall_char_lt (by decide)
  exact hsmall c h.lt h

theorem digitValue?_digit : ∀ n, n < 16 → digitValue? (digit n).toNat = some n := by
  decide

theorem worth_digit {n : Nat} (h : n < 16) : worth (digit n) = n :=
  (digitValue?_eq_some.1 (digitValue?_digit n h)).2

theorem not_isNumeral_x : ¬ IsNumeral 'x' := by
  unfold IsNumeral
  decide

/-- The digits that are written are those in lower case. -/
theorem isDigit_iff_mem_numerals {c : Char} : IsDigit c ↔ c ∈ numerals := by
  have heq : numerals = (List.range 16).map digit := by decide
  rw [heq, List.mem_map]
  constructor
  · rintro ⟨n, hn, rfl⟩
    exact ⟨n, List.mem_range.2 hn, rfl⟩
  · rintro ⟨n, hn, rfl⟩
    exact ⟨n, List.mem_range.1 hn, rfl⟩

theorem toLower_of_mem_numerals {c : Char} (h : c ∈ numerals) : c.toLower = c := by
  have hall : ∀ d ∈ numerals, d.toLower = d := by simp [numerals]
  exact hall c h

theorem isNumeral_of_isDigit {c : Char} (h : IsDigit c) : IsNumeral c := by
  have hmem : c ∈ numerals := isDigit_iff_mem_numerals.1 h
  unfold IsNumeral
  rwa [toLower_of_mem_numerals hmem]

theorem length_ofChars_of_isNumeral {cs : List Char} (h : ∀ c ∈ cs, IsNumeral c) :
    (Bytes.ofChars cs).length = cs.length := by
  rw [Bytes.ofChars_of_lt fun c hc => (h c hc).lt, List.length_map]

/-! ## The prefix -/

/-- The text is the prefix with digits of either case behind it. -/
structure Spells (text : String) (ds : List Char) : Prop where
  toList_eq : text.toList = '0' :: 'x' :: ds
  isNumeral : ∀ d ∈ ds, IsNumeral d

theorem spells_ofList {ds : List Char} (h : ∀ d ∈ ds, IsDigit d) :
    Spells (String.ofList ('0' :: 'x' :: ds)) ds :=
  ⟨String.toList_ofList, fun d hd => isNumeral_of_isDigit (h d hd)⟩

theorem stripPrefix_eq_ok {text : String} {cs : List Char} :
    stripPrefix text = .ok cs ↔ text.toList = '0' :: 'x' :: cs := by
  unfold stripPrefix
  constructor
  · intro h
    split at h
    · next rest htext =>
      cases h
      exact htext
    · split at h
      · cases h
      · split at h <;> cases h
  · intro h
    rw [h]
    rfl

/-! ## Bytes -/

theorem readDigit_eq_ok {b : UInt8} {position n : Nat} :
    readDigit b position = .ok n ↔ digitValue? b.toNat = some n := by
  unfold readDigit
  split
  · next m hm => simp [hm]
  · next hnone => simp [hnone]

theorem readPairs_cons_eq_ok {position : Nat} {high low : UInt8} {rest out : Bytes} :
    readPairs position (high :: low :: rest) = .ok out ↔
      ∃ h l tail, digitValue? high.toNat = some h ∧ digitValue? low.toNat = some l ∧
        readPairs (position + 2) rest = .ok tail ∧ out = UInt8.ofNat (16 * h + l) :: tail := by
  rw [readPairs]
  constructor
  · intro hread
    obtain ⟨h, hh, hread⟩ := bind_eq_ok.1 hread
    obtain ⟨l, hl, hread⟩ := bind_eq_ok.1 hread
    obtain ⟨tail, htail, hread⟩ := bind_eq_ok.1 hread
    cases hread
    exact ⟨h, l, tail, readDigit_eq_ok.1 hh, readDigit_eq_ok.1 hl, htail, rfl⟩
  · rintro ⟨h, l, tail, hh, hl, htail, rfl⟩
    refine bind_eq_ok.2 ⟨h, readDigit_eq_ok.2 hh, bind_eq_ok.2 ⟨l, readDigit_eq_ok.2 hl, ?_⟩⟩
    exact bind_eq_ok.2 ⟨tail, htail, rfl⟩

theorem lt_of_digitValue? {code n : Nat} (h : digitValue? code = some n) : code < 128 := by
  unfold digitValue? at h
  grind

/-- A reader that gets through an even number of bytes has met digits only. -/
theorem lt_of_readPairs : ∀ {bytes out : Bytes} {position : Nat}, bytes.length % 2 = 0 →
    readPairs position bytes = .ok out → ∀ b ∈ bytes, b.toNat < 128
  | [], _, _, _, _ => fun b hb => absurd hb List.not_mem_nil
  | [b], _, _, heven, _ => by simp at heven
  | high :: low :: rest, out, position, heven, hread => by
    obtain ⟨h, l, tail, hh, hl, htail, -⟩ := readPairs_cons_eq_ok.1 hread
    have hrest : rest.length % 2 = 0 := by
      simp only [List.length_cons] at heven
      omega
    intro b hb
    rcases List.mem_cons.1 hb with rfl | hb
    · exact lt_of_digitValue? hh
    rcases List.mem_cons.1 hb with rfl | hb
    · exact lt_of_digitValue? hl
    · exact lt_of_readPairs hrest htail b hb

/-- What is read from characters below 128. -/
theorem readPairs_map_eq_ok : ∀ {cs : List Char} {out : Bytes} {position : Nat},
    (∀ c ∈ cs, c.toNat < 128) → cs.length % 2 = 0 →
    (readPairs position (cs.map fun c => UInt8.ofNat c.toNat) = .ok out ↔
      (∀ c ∈ cs, IsNumeral c) ∧ out = bytesOf cs)
  | [], out, position, _, _ => by
    rw [List.map_nil, readPairs]
    · simp [bytesOf, eq_comm]
    · simp
  | [c], _, _, _, heven => by simp at heven
  | high :: low :: rest, out, position, hlt, heven => by
    obtain ⟨hhigh, hlt⟩ := List.forall_mem_cons.1 hlt
    obtain ⟨hlow, hlt⟩ := List.forall_mem_cons.1 hlt
    have hrest : rest.length % 2 = 0 := by
      simp only [List.length_cons] at heven
      omega
    have hnat : ∀ c : Char, c.toNat < 128 → (UInt8.ofNat c.toNat).toNat = c.toNat :=
      fun c hc => UInt8.toNat_ofNat_of_lt' (Nat.lt_trans hc (by decide))
    rw [List.map_cons, List.map_cons, readPairs_cons_eq_ok, hnat high hhigh, hnat low hlow]
    simp only [digitValue?_eq_some, readPairs_map_eq_ok hlt hrest, List.forall_mem_cons, bytesOf]
    constructor
    · rintro ⟨h, l, tail, ⟨hh, rfl⟩, ⟨hl, rfl⟩, ⟨hall, rfl⟩, rfl⟩
      exact ⟨⟨hh, hl, hall⟩, rfl⟩
    · rintro ⟨⟨hh, hl, hall⟩, rfl⟩
      exact ⟨_, _, _, ⟨hh, rfl⟩, ⟨hl, rfl⟩, ⟨hall, rfl⟩, rfl⟩

theorem decodePlain_eq_ok {cs : List Char} {bytes : Bytes} :
    decodePlain cs = .ok bytes ↔
      (∀ c ∈ cs, IsNumeral c) ∧ cs.length % 2 = 0 ∧ bytes = bytesOf cs := by
  unfold decodePlain
  simp only
  constructor
  · intro h
    split at h
    · cases h
    · next hodd =>
      have heven : (Bytes.ofChars cs).length % 2 = 0 := by omega
      have hlt : ∀ c ∈ cs, c.toNat < 128 :=
        Bytes.lt_of_forall_ofChars (lt_of_readPairs heven h)
      rw [Bytes.ofChars_of_lt hlt] at h heven
      rw [List.length_map] at heven
      obtain ⟨hall, heq⟩ := (readPairs_map_eq_ok hlt heven).1 h
      exact ⟨hall, heven, heq⟩
  · rintro ⟨hall, heven, rfl⟩
    have hlt : ∀ c ∈ cs, c.toNat < 128 := fun c hc => (hall c hc).lt
    rw [if_neg (by rw [length_ofChars_of_isNumeral hall]; omega), Bytes.ofChars_of_lt hlt]
    exact (readPairs_map_eq_ok hlt heven).2 ⟨hall, rfl⟩

/-- Bytes are read from the prefix and an even number of digits, and from nothing else. -/
theorem decode_eq_ok {text : String} {bytes : Bytes} :
    decode text = .ok bytes ↔
      ∃ ds, Spells text ds ∧ ds.length % 2 = 0 ∧ bytes = bytesOf ds := by
  unfold decode
  rw [bind_eq_ok]
  constructor
  · rintro ⟨ds, hstrip, hplain⟩
    obtain ⟨hall, heven, heq⟩ := decodePlain_eq_ok.1 hplain
    exact ⟨ds, ⟨stripPrefix_eq_ok.1 hstrip, hall⟩, heven, heq⟩
  · rintro ⟨ds, htext, heven, heq⟩
    exact ⟨ds, stripPrefix_eq_ok.2 htext.toList_eq,
      decodePlain_eq_ok.2 ⟨htext.isNumeral, heven, heq⟩⟩

theorem length_bytesOf : ∀ ds : List Char, (bytesOf ds).length = ds.length / 2
  | [] => rfl
  | [d] => by simp [bytesOf]
  | high :: low :: rest => by
    have hlen := length_bytesOf rest
    simp only [bytesOf, List.length_cons, hlen]
    omega

/-- Digit pairs are written again in lower case. -/
theorem digits_bytesOf : ∀ {ds : List Char}, (∀ d ∈ ds, IsNumeral d) → ds.length % 2 = 0 →
    digits (bytesOf ds) = ds.map Char.toLower
  | [], _, _ => rfl
  | [d], _, heven => by simp at heven
  | high :: low :: rest, hall, heven => by
    obtain ⟨hhigh, hall⟩ := List.forall_mem_cons.1 hall
    obtain ⟨hlow, hall⟩ := List.forall_mem_cons.1 hall
    have hrest : rest.length % 2 = 0 := by
      simp only [List.length_cons] at heven
      omega
    have hh := hhigh.worth_lt
    have hl := hlow.worth_lt
    have hnat : (UInt8.ofNat (16 * worth high + worth low)).toNat =
        16 * worth high + worth low :=
      UInt8.toNat_ofNat_of_lt' (show _ < 256 by omega)
    have hdiv : (16 * worth high + worth low) / 16 = worth high := by omega
    have hmod : (16 * worth high + worth low) % 16 = worth low := by omega
    calc digits (bytesOf (high :: low :: rest))
        = digit (worth high) :: digit (worth low) :: digits (bytesOf rest) := by
          show digit ((UInt8.ofNat (16 * worth high + worth low)).toNat / 16) ::
            digit ((UInt8.ofNat (16 * worth high + worth low)).toNat % 16) :: digits _ = _
          rw [hnat, hdiv, hmod]
      _ = (high :: low :: rest).map Char.toLower := by
          rw [digit_worth hhigh, digit_worth hlow, digits_bytesOf hall hrest]
          rfl

/-- What is read from a text is written as the text in lower case. -/
theorem encode_bytesOf {text : String} {ds : List Char} (h : Spells text ds)
    (heven : ds.length % 2 = 0) : encode (bytesOf ds) = text.toLower := by
  apply String.toList_inj.1
  have hlower : text.toLower.toList = text.toList.map Char.toLower := String.toList_map
  rw [hlower, h.toList_eq, encode, String.toList_ofList, digits_bytesOf h.isNumeral heven]
  rfl

theorem isDigit_of_mem_digits {bytes : Bytes} {c : Char} (h : c ∈ digits bytes) : IsDigit c := by
  obtain ⟨b, -, hc⟩ := List.mem_flatMap.1 h
  have hlt : b.toNat < 256 := b.toNat_lt
  rcases List.mem_cons.1 hc with rfl | hc
  · exact ⟨b.toNat / 16, by omega, rfl⟩
  · exact ⟨b.toNat % 16, by omega, List.mem_singleton.1 hc⟩

theorem length_digits (bytes : Bytes) : (digits bytes).length = 2 * bytes.length := by
  induction bytes with
  | nil => rfl
  | cons b rest ih =>
    unfold digits at ih ⊢
    rw [List.flatMap_cons, List.length_append, ih, List.length_cons]
    simp only [List.length_cons, List.length_nil]
    omega

theorem bytesOf_digits (bytes : Bytes) : bytesOf (digits bytes) = bytes := by
  induction bytes with
  | nil => rfl
  | cons b rest ih =>
    have hlt : b.toNat < 256 := b.toNat_lt
    have hbyte : 16 * (b.toNat / 16) + b.toNat % 16 = b.toNat := by omega
    show UInt8.ofNat (16 * worth (digit (b.toNat / 16)) + worth (digit (b.toNat % 16))) ::
      bytesOf (digits rest) = _
    rw [worth_digit (by omega), worth_digit (by omega), hbyte, UInt8.ofNat_toNat, ih]

/-- Bytes are read back from their digits. -/
theorem decode_encode (bytes : Bytes) : decode (encode bytes) = .ok bytes := by
  have hspells : Spells (encode bytes) (digits bytes) :=
    spells_ofList fun d hd => isDigit_of_mem_digits hd
  have heven : (digits bytes).length % 2 = 0 := by
    rw [length_digits]
    omega
  exact decode_eq_ok.2 ⟨digits bytes, hspells, heven, (bytesOf_digits bytes).symm⟩

end Hex

end UtxoCodec
