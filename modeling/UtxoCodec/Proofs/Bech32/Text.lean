import UtxoCodec.Proofs.Bech32.Checksum
import UtxoCodec.Proofs.Bech32.Groups
import UtxoCodec.Proofs.Outcome
import UtxoCodec.Proofs.Utf8

/-!
# Bech32 texts

A text and its readings determine each other but for the case of letters. A text that is written is
read back, also with its letters in the other case (`decode_of_encode`): reading carries the case of
the letters seen so far, and the invariant is that it `Fits` the case of the text. A text that is
read is written back in lower case (`encode_of_decode`): checksum and padding leave no second text.
-/

namespace UtxoCodec.Bech32

/-! ## Letters of a case -/

/-- The character in a case. -/
def Case.letter : Case → Char → Char
  | .upper => Char.toUpper
  | _ => Char.toLower

@[simp] theorem Case.letter_lower : Case.lower.letter = Char.toLower := rfl

@[simp] theorem Case.letter_upper : Case.upper.letter = Char.toUpper := rfl

/-- Whether letters of the case wanted may follow the letters seen so far. -/
def Case.Fits (seen wanted : Case) : Prop := seen = .none ∨ seen = wanted

/-- The case of the letters seen after one more character; absent if cases are mixed. -/
def Case.after? (seen : Case) (c : Char) : Option Case :=
  if c.isLower then if seen = .upper then Option.none else some .lower
  else if c.isUpper then if seen = .lower then Option.none else some .upper
  else some seen

/-- The characters that a readable part may have. -/
def Printable (c : Char) : Prop := 33 ≤ c.toNat ∧ c.toNat ≤ 126

theorem Printable.lt {c : Char} (h : Printable c) : c.toNat < 128 :=
  Nat.lt_of_le_of_lt h.2 (by decide)

theorem isUpper_toLower : ∀ c : Char, c.toNat < 128 → c.toLower.isUpper = false :=
  forall_char_lt (by decide)

theorem isLower_toUpper : ∀ c : Char, c.toNat < 128 → c.toUpper.isLower = false :=
  forall_char_lt (by decide)

theorem isUpper_of_isLower : ∀ c : Char, c.toNat < 128 → c.isLower → c.isUpper = false :=
  forall_char_lt (by decide)

theorem Printable.letter {c : Char} (h : Printable c) (wanted : Case) :
    Printable (wanted.letter c) := by
  have hlower : ∀ c : Char, c.toNat < 127 → 33 ≤ c.toNat →
      33 ≤ c.toLower.toNat ∧ c.toLower.toNat ≤ 126 := forall_char_lt (by decide)
  have hupper : ∀ c : Char, c.toNat < 127 → 33 ≤ c.toNat →
      33 ≤ c.toUpper.toNat ∧ c.toUpper.toNat ≤ 126 := forall_char_lt (by decide)
  have hc : c.toNat < 127 := Nat.lt_succ_of_le h.2
  cases wanted with
  | none => exact hlower c hc h.1
  | lower => exact hlower c hc h.1
  | upper => exact hupper c hc h.1

theorem toLower_letter (wanted : Case) {c : Char} (hc : c.toNat < 128) :
    (wanted.letter c).toLower = c.toLower := by
  have hlower : ∀ c : Char, c.toNat < 128 → c.toLower.toLower = c.toLower :=
    forall_char_lt (by decide)
  have hupper : ∀ c : Char, c.toNat < 128 → c.toUpper.toLower = c.toLower :=
    forall_char_lt (by decide)
  cases wanted with
  | none => exact hlower c hc
  | lower => exact hlower c hc
  | upper => exact hupper c hc

theorem map_toLower_letter (wanted : Case) {cs : List Char} (hcs : ∀ c ∈ cs, c.toNat < 128) :
    (cs.map wanted.letter).map Char.toLower = cs.map Char.toLower := by
  rw [List.map_map]
  exact List.map_congr_left fun c hc => toLower_letter wanted (hcs c hc)

/-- One more letter of the case wanted keeps the letters seen fit for it. -/
theorem Case.Fits.after {seen wanted : Case} (hfits : seen.Fits wanted) (hwanted : wanted ≠ .none)
    {c : Char} (hc : c.toNat < 128) :
    ∃ next, seen.after? (wanted.letter c) = some next ∧ next.Fits wanted := by
  unfold Case.after?
  cases wanted with
  | none => exact absurd rfl hwanted
  | lower =>
    have hseen : seen ≠ .upper := by
      rintro rfl
      rcases hfits with h | h <;> cases h
    have hupper : (Case.lower.letter c).isUpper = false := isUpper_toLower c hc
    rw [if_neg hseen, hupper, if_neg Bool.false_ne_true]
    by_cases hlower : (Case.lower.letter c).isLower
    · exact ⟨.lower, if_pos hlower, .inr rfl⟩
    · exact ⟨seen, if_neg hlower, hfits⟩
  | upper =>
    have hseen : seen ≠ .lower := by
      rintro rfl
      rcases hfits with h | h <;> cases h
    have hlower : (Case.upper.letter c).isLower = false := isLower_toUpper c hc
    rw [hlower, if_neg Bool.false_ne_true, if_neg hseen]
    by_cases hupper : (Case.upper.letter c).isUpper
    · exact ⟨.upper, if_pos hupper, .inr rfl⟩
    · exact ⟨seen, if_neg hupper, hfits⟩

theorem toLower_eq_ofList (text : String) :
    text.toLower = String.ofList (text.toList.map Char.toLower) := by
  rw [← String.ofList_toList (s := text.toLower)]
  exact congrArg String.ofList String.toList_map

theorem toUpper_eq_ofList (text : String) :
    text.toUpper = String.ofList (text.toList.map Char.toUpper) := by
  rw [← String.ofList_toList (s := text.toUpper)]
  exact congrArg String.ofList String.toList_map

/-! ## Readable part -/

theorem readableCase_cons {seen last : Case} {c : Char} {rest : List Char} :
    readableCase seen (c :: rest) = .ok last ↔
      Printable c ∧ ∃ next, seen.after? c = some next ∧ readableCase next rest = .ok last := by
  unfold Case.after?
  rw [readableCase]
  by_cases hrange : c.toNat < 33 ∨ 126 < c.toNat
  · rw [if_pos hrange]
    constructor
    · intro h
      cases h
    · rintro ⟨⟨hleast, hgreatest⟩, -⟩
      omega
  · have hprintable : Printable c := ⟨by omega, by omega⟩
    rw [if_neg hrange, and_iff_right hprintable]
    by_cases hlower : c.isLower
    · rw [if_pos hlower, if_pos hlower]
      by_cases hseen : seen = .upper <;> simp [hseen]
    · rw [if_neg hlower, if_neg hlower]
      by_cases hupper : c.isUpper
      · rw [if_pos hupper, if_pos hupper]
        by_cases hseen : seen = .lower <;> simp [hseen]
      · simp [hupper]

theorem printable_of_readableCase {seen last : Case} {cs : List Char}
    (h : readableCase seen cs = .ok last) : ∀ c ∈ cs, Printable c := by
  induction cs generalizing seen with
  | nil => exact fun c hc => absurd hc List.not_mem_nil
  | cons c cs ih =>
    obtain ⟨hc, next, -, hrest⟩ := readableCase_cons.1 h
    exact List.forall_mem_cons.2 ⟨hc, ih hrest⟩

/-- Printable characters in one case are accepted. -/
theorem readableCase_letter {seen wanted : Case} (hfits : seen.Fits wanted)
    (hwanted : wanted ≠ .none) {cs : List Char} (hcs : ∀ c ∈ cs, Printable c) :
    ∃ last, readableCase seen (cs.map wanted.letter) = .ok last ∧ last.Fits wanted := by
  induction cs generalizing seen with
  | nil => exact ⟨seen, rfl, hfits⟩
  | cons c cs ih =>
    obtain ⟨hc, hcs⟩ := List.forall_mem_cons.1 hcs
    obtain ⟨next, hnext, hfits⟩ := hfits.after hwanted hc.lt
    obtain ⟨last, hlast, hfits⟩ := ih hfits hcs
    exact ⟨last, readableCase_cons.2 ⟨hc.letter wanted, next, hnext, hlast⟩, hfits⟩

theorem byteChars_of_lt {cs : List Char} (hcs : ∀ c ∈ cs, c.toNat < 128) : byteChars cs = cs := by
  unfold byteChars
  rw [Bytes.ofChars_of_lt hcs, List.map_map]
  have hid : ∀ c ∈ cs, Char.ofNat (UInt8.ofNat c.toNat).toNat = c := by
    intro c hc
    have hlt := hcs c hc
    rw [UInt8.toNat_ofNat_of_lt' (show c.toNat < 256 by omega), Char.ofNat_toNat]
  exact (List.map_congr_left hid).trans (List.map_id cs)

/-- A character of which a byte is printable is that byte. -/
theorem lt_of_printable_byteChars {cs : List Char} (h : ∀ c ∈ byteChars cs, Printable c) :
    ∀ c ∈ cs, c.toNat < 128 := by
  intro c hc
  obtain ⟨b, hb⟩ := List.exists_mem_of_length_pos (String.length_utf8EncodeChar c ▸ c.utf8Size_pos)
  have hlt : b.toNat < 128 := by
    have hmem : Char.ofNat b.toNat ∈ byteChars cs :=
      List.mem_map_of_mem (List.mem_flatMap.2 ⟨c, hc, hb⟩)
    have hlt := (h _ hmem).lt
    rwa [Bytes.toNat_ofNat_byte] at hlt
  rw [Bytes.toNat_eq_of_mem_utf8EncodeChar hlt hb]
  exact hlt

theorem checkReadable_eq_ok {cs : List Char} {last : Case} : checkReadable cs = .ok last ↔
    (cs ≠ [] ∧ cs.length ≤ 83) ∧ readableCase .none cs = .ok last := by
  have hchecked : checkReadable cs = .ok last ↔
      (byteChars cs ≠ [] ∧ (byteChars cs).length ≤ 83) ∧
        readableCase .none (byteChars cs) = .ok last := by
    unfold checkReadable
    simp only [List.isEmpty_iff]
    by_cases hlength : byteChars cs = [] ∨ 83 < (byteChars cs).length
    · rw [if_pos hlength]
      constructor
      · intro h
        cases h
      · rintro ⟨⟨hne, hle⟩, -⟩
        rcases hlength with h | h
        · exact absurd h hne
        · omega
    · rw [if_neg hlength]
      obtain ⟨hne, hle⟩ := not_or.1 hlength
      exact (and_iff_right ⟨hne, Nat.le_of_not_lt hle⟩).symm
  rw [hchecked]
  constructor
  · intro h
    rwa [byteChars_of_lt (lt_of_printable_byteChars (printable_of_readableCase h.2))] at h
  · intro h
    rwa [byteChars_of_lt fun c hc => (printable_of_readableCase h.2 c hc).lt]

theorem printable_of_checkReadable {cs : List Char} {last : Case}
    (h : checkReadable cs = .ok last) : ∀ c ∈ cs, Printable c :=
  printable_of_readableCase (checkReadable_eq_ok.1 h).2

/-- A readable part that is accepted is so in each case. -/
theorem checkReadable_letter {cs : List Char} {last wanted : Case} (hwanted : wanted ≠ .none)
    (h : checkReadable cs = .ok last) :
    ∃ last', checkReadable (cs.map wanted.letter) = .ok last' ∧ last'.Fits wanted := by
  obtain ⟨⟨hne, hle⟩, -⟩ := checkReadable_eq_ok.1 h
  obtain ⟨last', hlast, hfits⟩ :=
    readableCase_letter (.inl rfl) hwanted (printable_of_checkReadable h)
  refine ⟨last', checkReadable_eq_ok.2 ⟨⟨?_, ?_⟩, hlast⟩, hfits⟩
  · rwa [Ne, List.map_eq_nil_iff]
  · rwa [List.length_map]

theorem checkReadable_toLower {cs : List Char} {last : Case} (h : checkReadable cs = .ok last) :
    ∃ last', checkReadable (cs.map Char.toLower) = .ok last' := by
  obtain ⟨last', hlast, -⟩ := checkReadable_letter (show Case.lower ≠ .none by decide) h
  exact ⟨last', hlast⟩

theorem map_toLower_toLower {cs : List Char} {last : Case} (h : checkReadable cs = .ok last) :
    (cs.map Char.toLower).map Char.toLower = cs.map Char.toLower :=
  map_toLower_letter .lower fun c hc => (printable_of_checkReadable h c hc).lt

/-! ## Data -/

/-- The character that stands for a group. -/
def symbol (group : Nat) : Char := alphabet.getD group 'q'

theorem printable_symbol : ∀ group < 32, Printable (symbol group) := by
  unfold Printable
  decide

theorem toLower_symbol : ∀ group < 32, (symbol group).toLower = symbol group := by decide

theorem idxOf?_symbol : ∀ group < 32, alphabet.idxOf? (symbol group) = some group := by decide

theorem letter_symbol_ne (wanted : Case) : ∀ group < 32, wanted.letter (symbol group) ≠ '1' := by
  cases wanted <;> decide

theorem idxOf?_eq_some {c : Char} {group : Nat} (h : alphabet.idxOf? c = some group) :
    group < 32 ∧ symbol group = c := by
  obtain ⟨hlt, hget, -⟩ := List.idxOf?_eq_some_iff.1 h
  refine ⟨hlt, ?_⟩
  unfold symbol
  rw [List.getD_eq_getElem?_getD, List.getElem?_eq_getElem hlt, Option.getD_some, hget]

theorem Case.after?_eq (seen : Case) {c : Char} (hc : c.toNat < 128) :
    seen.after? c =
      if (c.isLower ∧ seen = .upper) ∨ (c.isUpper ∧ seen = .lower) then Option.none
      else some (if c.isLower then .lower else if c.isUpper then .upper else seen) := by
  unfold Case.after?
  by_cases hlower : c.isLower
  · have hupper := isUpper_of_isLower c hc hlower
    by_cases hseen : seen = .upper <;> simp [hlower, hupper, hseen]
  · by_cases hupper : c.isUpper
    · by_cases hseen : seen = .lower <;> simp [hlower, hupper, hseen]
    · simp [hlower, hupper]

theorem readData_cons {seen : Case} {c : Char} {rest : List Char} {groups : List Nat} :
    readData seen (c :: rest) = .ok groups ↔ c.toNat < 128 ∧
      ∃ next group tail, seen.after? c = some next ∧ alphabet.idxOf? c.toLower = some group ∧
        readData next rest = .ok tail ∧ group :: tail = groups := by
  rw [readData]
  by_cases hrange : 128 ≤ c.toNat
  · rw [if_pos hrange]
    constructor
    · intro h
      cases h
    · rintro ⟨hlt, -⟩
      omega
  · have hlt := Nat.lt_of_not_le hrange
    rw [if_neg hrange, and_iff_right hlt, Case.after?_eq seen hlt]
    by_cases hmixed : (c.isLower ∧ seen = .upper) ∨ (c.isUpper ∧ seen = .lower)
    · rw [if_pos hmixed, if_pos hmixed]
      simp
    · rw [if_neg hmixed, if_neg hmixed]
      cases hgroup : alphabet.idxOf? c.toLower with
      | none => simp
      | some group =>
        dsimp only
        rw [Outcome.bind_eq_ok]
        constructor
        · rintro ⟨tail, htail, heq⟩
          cases heq
          exact ⟨_, group, tail, rfl, rfl, htail, rfl⟩
        · rintro ⟨next, group', tail, hnext, heq, htail, rfl⟩
          cases hnext
          cases heq
          exact ⟨tail, htail, rfl⟩

/-- Data characters are those of the groups, but for their case. -/
theorem map_toLower_of_readData {seen : Case} {cs : List Char} {groups : List Nat}
    (h : readData seen cs = .ok groups) :
    (∀ group ∈ groups, group < 32) ∧ cs.map Char.toLower = groups.map symbol := by
  induction cs generalizing seen groups with
  | nil =>
    cases h
    exact ⟨fun group hgroup => absurd hgroup List.not_mem_nil, rfl⟩
  | cons c cs ih =>
    obtain ⟨-, next, group, tail, -, hgroup, htail, rfl⟩ := readData_cons.1 h
    obtain ⟨hlt, hsymbol⟩ := idxOf?_eq_some hgroup
    obtain ⟨hlts, hsymbols⟩ := ih htail
    refine ⟨List.forall_mem_cons.2 ⟨hlt, hlts⟩, ?_⟩
    rw [List.map_cons, List.map_cons, hsymbols, hsymbol]

theorem lt_of_readData {seen : Case} {cs : List Char} {groups : List Nat}
    (h : readData seen cs = .ok groups) : ∀ c ∈ cs, c.toNat < 128 := by
  induction cs generalizing seen groups with
  | nil => exact fun c hc => absurd hc List.not_mem_nil
  | cons c cs ih =>
    obtain ⟨hc, next, group, tail, -, -, htail, -⟩ := readData_cons.1 h
    exact List.forall_mem_cons.2 ⟨hc, ih htail⟩

/-- The characters of groups are read in each case. -/
theorem readData_letter {seen wanted : Case} (hfits : seen.Fits wanted) (hwanted : wanted ≠ .none)
    {groups : List Nat} (hgroups : ∀ group ∈ groups, group < 32) :
    readData seen ((groups.map symbol).map wanted.letter) = .ok groups := by
  induction groups generalizing seen with
  | nil => rfl
  | cons group groups ih =>
    obtain ⟨hgroup, hgroups⟩ := List.forall_mem_cons.1 hgroups
    have hprintable := printable_symbol group hgroup
    obtain ⟨next, hnext, hfits⟩ := hfits.after hwanted hprintable.lt
    have hindex : alphabet.idxOf? (wanted.letter (symbol group)).toLower = some group := by
      rw [toLower_letter wanted hprintable.lt, toLower_symbol group hgroup,
        idxOf?_symbol group hgroup]
    exact readData_cons.2 ⟨(hprintable.letter wanted).lt, next, group, groups, hnext, hindex,
      ih hfits hgroups, rfl⟩

/-! ## Texts -/

/-- The groups behind the separator: those of the bytes and their checksum. -/
def codeword (readable : List Char) (bytes : Bytes) : List Nat :=
  toGroups bytes ++ checksum readable (toGroups bytes)

theorem codeword_lt (readable : List Char) (bytes : Bytes) :
    ∀ group ∈ codeword readable bytes, group < 32 := by
  intro group hgroup
  rcases List.mem_append.1 hgroup with hgroup | hgroup
  · exact toGroups_lt bytes group hgroup
  · exact checksum_lt readable (toGroups bytes) group hgroup

/-- The groups that a text may have are the bytes and their checksum. -/
theorem eq_codeword_iff {readable : List Char} {groups : List Nat} {bytes : Bytes}
    (hgroups : ∀ group ∈ groups, group < 32) :
    groups = codeword readable bytes ↔ checksumLength ≤ groups.length ∧
      residue (expand readable ++ groups) = target ∧
        ofGroups (groups.take (groups.length - checksumLength)) = .ok bytes := by
  constructor
  · rintro rfl
    have hlength := length_checksum readable (toGroups bytes)
    have htake : (codeword readable bytes).take
        ((codeword readable bytes).length - checksumLength) = toGroups bytes := by
      unfold codeword
      rw [List.length_append, hlength, Nat.add_sub_cancel, List.take_left]
    refine ⟨?_, ?_, ?_⟩
    · unfold codeword
      rw [List.length_append, hlength]
      exact Nat.le_add_left _ _
    · unfold codeword
      rw [← List.append_assoc, residue_eq_target hlength (checksum_lt _ _)]
    · rw [htake, ofGroups_eq_ok_iff (toGroups_lt bytes)]
  · rintro ⟨hlength, hresidue, hbytes⟩
    have hsplit := List.take_append_drop (groups.length - checksumLength) groups
    have htake := (ofGroups_eq_ok_iff fun group hgroup =>
      hgroups group (List.mem_of_mem_take hgroup)).1 hbytes
    have hdrop : groups.drop (groups.length - checksumLength) =
        checksum readable (toGroups bytes) := by
      refine (residue_eq_target ?_ fun group hgroup =>
        hgroups group (List.mem_of_mem_drop hgroup)).1 ?_
      · rw [List.length_drop]
        omega
      · rw [← htake, List.append_assoc, hsplit, hresidue]
    rw [codeword, ← hdrop, ← htake, hsplit]

theorem split?_eq_some {cs readable data : List Char} :
    split? cs = some (readable, data) ↔ cs = readable ++ '1' :: data ∧ '1' ∉ data := by
  have hback : ∀ c ∈ cs.reverse.takeWhile (· ≠ '1'), c ≠ '1' := by
    intro c hc
    exact of_decide_eq_true (List.all_eq_true.1 List.all_takeWhile c hc)
  have hcut := List.takeWhile_append_dropWhile (p := (· ≠ '1')) (l := cs.reverse)
  unfold split?
  constructor
  · intro h
    dsimp only at h
    split at h
    · next c front hfront =>
      cases h
      have hc : c = '1' := by
        have hhead := List.head?_dropWhile_not (· ≠ '1') cs.reverse
        rw [hfront] at hhead
        exact Decidable.not_not.1 (of_decide_eq_false hhead)
      subst hc
      constructor
      · rw [hfront] at hcut
        have hcs := congrArg List.reverse hcut
        rw [List.reverse_append, List.reverse_cons, List.append_assoc, List.reverse_reverse] at hcs
        exact hcs.symm
      · intro hmem
        exact hback '1' (List.mem_reverse.1 hmem) rfl
    · cases h
  · rintro ⟨rfl, hdata⟩
    have hdata : ∀ c ∈ data.reverse, decide (c ≠ '1') = true := by
      intro c hc
      rw [decide_eq_true_iff]
      rintro rfl
      exact hdata (List.mem_reverse.1 hc)
    have hreverse : (readable ++ '1' :: data).reverse = data.reverse ++ '1' :: readable.reverse := by
      simp
    dsimp only
    rw [hreverse, List.dropWhile_append_of_pos hdata, List.takeWhile_append_of_pos hdata]
    simp

theorem encode_eq_ok {readable text : String} {bytes : Bytes} :
    encode readable bytes = .ok text ↔ (∃ last, checkReadable readable.toList = .ok last) ∧
      text = String.ofList (readable.toList.map Char.toLower ++
        '1' :: (codeword (readable.toList.map Char.toLower) bytes).map symbol) := by
  unfold encode
  rw [Outcome.bind_eq_ok]
  constructor
  · rintro ⟨last, hlast, h⟩
    cases h
    exact ⟨⟨last, hlast⟩, rfl⟩
  · rintro ⟨⟨last, hlast⟩, rfl⟩
    exact ⟨last, hlast, rfl⟩

/-- A check that throws was passed. -/
theorem unless_throw_eq_ok {α : Type} {c : Prop} [Decidable c] {fault : Fault}
    {next : PUnit → Except Fault α} {a : α} :
    (if c then throw fault >>= next else next ⟨⟩) = .ok a ↔ ¬ c ∧ next ⟨⟩ = .ok a := by
  by_cases hc : c
  · rw [if_pos hc]
    constructor
    · intro h
      cases h
    · rintro ⟨hnot, -⟩
      exact absurd hc hnot
  · rw [if_neg hc]
    exact (and_iff_right hc).symm

theorem decode_eq_ok {text readable : String} {bytes : Bytes} :
    decode text = .ok (readable, bytes) ↔ ∃ part data seen,
      text.toList = part ++ '1' :: data ∧ '1' ∉ data ∧ checkReadable part = .ok seen ∧
        readData seen data = .ok (codeword (part.map Char.toLower) bytes) ∧
          readable = String.ofList (part.map Char.toLower) := by
  unfold decode
  constructor
  · intro h
    split at h
    · next part data hsplit =>
      obtain ⟨seen, hseen, h⟩ := Outcome.bind_eq_ok.1 h
      obtain ⟨groups, hgroups, h⟩ := Outcome.bind_eq_ok.1 h
      obtain ⟨hlength, h⟩ := unless_throw_eq_ok.1 h
      obtain ⟨-, h⟩ := unless_throw_eq_ok.1 h
      obtain ⟨hresidue, h⟩ := unless_throw_eq_ok.1 h
      obtain ⟨bytes', hbytes, h⟩ := Outcome.bind_eq_ok.1 h
      cases h
      obtain ⟨htext, hdata⟩ := split?_eq_some.1 hsplit
      have hword : groups = codeword (part.map Char.toLower) bytes :=
        (eq_codeword_iff (map_toLower_of_readData hgroups).1).2
          ⟨Nat.le_of_not_lt hlength, Decidable.not_not.1 hresidue, hbytes⟩
      exact ⟨part, data, seen, htext, hdata, hseen, hword ▸ hgroups, rfl⟩
    · cases h
  · rintro ⟨part, data, seen, htext, hdata, hseen, hgroups, rfl⟩
    obtain ⟨hlength, hresidue, hbytes⟩ :=
      (eq_codeword_iff (codeword_lt (part.map Char.toLower) bytes)).1 rfl
    have hother : target ≠ modifiedTarget := by decide
    rw [split?_eq_some.2 ⟨htext, hdata⟩]
    refine Outcome.bind_eq_ok.2 ⟨seen, hseen, Outcome.bind_eq_ok.2 ⟨_, hgroups, ?_⟩⟩
    refine unless_throw_eq_ok.2 ⟨Nat.not_lt_of_le hlength, ?_⟩
    refine unless_throw_eq_ok.2 ⟨by rwa [hresidue], ?_⟩
    refine unless_throw_eq_ok.2 ⟨not_not_intro hresidue, ?_⟩
    exact Outcome.bind_eq_ok.2 ⟨bytes, hbytes, rfl⟩

/-- The text of a readable part in lower case is read in each case. -/
theorem decode_letter {part : List Char} {last wanted : Case} {bytes : Bytes}
    (hpart : checkReadable part = .ok last) (hlower : part.map Char.toLower = part)
    (hwanted : wanted ≠ .none) :
    decode (String.ofList ((part ++ '1' :: (codeword part bytes).map symbol).map wanted.letter)) =
      .ok (String.ofList part, bytes) := by
  obtain ⟨seen, hseen, hfits⟩ := checkReadable_letter hwanted hpart
  have hread : (part.map wanted.letter).map Char.toLower = part :=
    (map_toLower_letter wanted fun c hc => (printable_of_checkReadable hpart c hc).lt).trans hlower
  have hword := codeword_lt part bytes
  have hseparator : wanted.letter '1' = '1' := by cases wanted <;> rfl
  refine decode_eq_ok.2 ⟨part.map wanted.letter, ((codeword part bytes).map symbol).map wanted.letter,
    seen, ?_, ?_, hseen, ?_, ?_⟩
  · rw [String.toList_ofList, List.map_append, List.map_cons, hseparator]
  · intro hmem
    rw [List.map_map] at hmem
    obtain ⟨group, hgroup, heq⟩ := List.mem_map.1 hmem
    exact letter_symbol_ne wanted group (hword group hgroup) heq
  · rw [hread]
    exact readData_letter hfits hwanted hword
  · rw [hread]

/-- A text that is written is read back, with its letters in either case. -/
theorem decode_of_encode {readable text : String} {bytes : Bytes}
    (h : encode readable bytes = .ok text) {wanted : Case} (hwanted : wanted ≠ .none) :
    decode (String.ofList (text.toList.map wanted.letter)) =
      .ok (String.ofList (readable.toList.map Char.toLower), bytes) := by
  obtain ⟨⟨last, hlast⟩, rfl⟩ := encode_eq_ok.1 h
  obtain ⟨last', hlower⟩ := checkReadable_toLower hlast
  rw [String.toList_ofList]
  exact decode_letter hlower (map_toLower_toLower hlast) hwanted

theorem toLower_of_encode {readable text : String} {bytes : Bytes}
    (h : encode readable bytes = .ok text) : text.toList.map Char.toLower = text.toList := by
  obtain ⟨⟨last, hlast⟩, rfl⟩ := encode_eq_ok.1 h
  have hsymbols {groups : List Nat} (hgroups : ∀ group ∈ groups, group < 32) :
      (groups.map symbol).map Char.toLower = groups.map symbol := by
    rw [List.map_map]
    exact List.map_congr_left fun group hgroup => toLower_symbol group (hgroups group hgroup)
  rw [String.toList_ofList, List.map_append, List.map_cons, map_toLower_toLower hlast,
    hsymbols (codeword_lt _ bytes)]
  rfl

/-- A text that is read is written back in lower case. -/
theorem encode_of_decode {readable text : String} {bytes : Bytes}
    (h : decode text = .ok (readable, bytes)) :
    encode readable bytes = .ok (String.ofList (text.toList.map Char.toLower)) := by
  obtain ⟨part, data, seen, htext, -, hseen, hgroups, rfl⟩ := decode_eq_ok.1 h
  obtain ⟨-, hdata⟩ := map_toLower_of_readData hgroups
  refine encode_eq_ok.2 ⟨?_, ?_⟩
  · rw [String.toList_ofList]
    exact checkReadable_toLower hseen
  · rw [String.toList_ofList, map_toLower_toLower hseen, htext, List.map_append, List.map_cons, hdata]
    rfl

/-- A text that is written has ASCII characters, as does its readable part. -/
theorem ascii_of_encode {readable text : String} {bytes : Bytes}
    (h : encode readable bytes = .ok text) :
    (∀ c ∈ readable.toList, c.toNat < 128) ∧ ∀ c ∈ text.toList, c.toNat < 128 := by
  obtain ⟨⟨last, hlast⟩, rfl⟩ := encode_eq_ok.1 h
  have hreadable := printable_of_checkReadable hlast
  refine ⟨fun c hc => (hreadable c hc).lt, ?_⟩
  rw [String.toList_ofList]
  intro c hc
  rcases List.mem_append.1 hc with hc | hc
  · obtain ⟨d, hd, rfl⟩ := List.mem_map.1 hc
    exact ((hreadable d hd).letter .lower).lt
  · rcases List.mem_cons.1 hc with rfl | hc
    · decide
    · obtain ⟨group, hgroup, rfl⟩ := List.mem_map.1 hc
      exact (printable_symbol group (codeword_lt _ _ group hgroup)).lt

/-- A text that is read has ASCII characters. -/
theorem ascii_of_decode {readable text : String} {bytes : Bytes}
    (h : decode text = .ok (readable, bytes)) : ∀ c ∈ text.toList, c.toNat < 128 := by
  obtain ⟨part, data, seen, htext, -, hseen, hgroups, -⟩ := decode_eq_ok.1 h
  rw [htext]
  intro c hc
  rcases List.mem_append.1 hc with hc | hc
  · exact (printable_of_checkReadable hseen c hc).lt
  · rcases List.mem_cons.1 hc with rfl | hc
    · decide
    · exact lt_of_readData hgroups c hc

end UtxoCodec.Bech32
