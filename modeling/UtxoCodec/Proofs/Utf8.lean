import UtxoCodec.Bytes

/-!
# Single bytes of UTF-8 text

A byte below 128 stands for the character with that number, wherever it stands: the bytes of all
other characters have their highest bit set.
-/

namespace UtxoCodec

theorem forall_char_lt {bound : Nat} {P : Char → Prop} (h : ∀ n < bound, P (Char.ofNat n)) :
    ∀ c : Char, c.toNat < bound → P c := by
  intro c hc
  have hn := h c.toNat hc
  rwa [Char.ofNat_toNat] at hn

namespace Bytes

theorem utf8EncodeChar_of_lt {c : Char} (hc : c.toNat < 128) :
    String.utf8EncodeChar c = [UInt8.ofNat c.toNat] := by
  unfold String.utf8EncodeChar
  exact if_pos (Nat.le_of_lt_succ hc)

/-- A byte that begins or continues a character of several bytes. -/
theorem le_toNat_ofNat_of_mod {x size base : Nat} (hbase : 128 ≤ base) (hsize : 0 < size)
    (hfit : size + base ≤ 256) : 128 ≤ (UInt8.ofNat (x % size + base)).toNat := by
  have hmod : x % size < size := Nat.mod_lt x hsize
  rw [UInt8.toNat_ofNat_of_lt' (show x % size + base < 256 by omega)]
  omega

/-- A byte below 128 is the only one of its character. -/
theorem toNat_eq_of_mem_utf8EncodeChar {c : Char} {b : UInt8} (hb : b.toNat < 128)
    (hmem : b ∈ String.utf8EncodeChar c) : c.toNat = b.toNat := by
  unfold String.utf8EncodeChar at hmem
  simp only at hmem
  split at hmem
  · next hle =>
    rw [List.mem_singleton.1 hmem, UInt8.toNat_ofNat_of_lt' (Nat.lt_of_le_of_lt hle (by decide))]
    rfl
  -- every byte of the longer forms is 128 or more
  · exfalso
    refine Nat.not_le_of_lt hb ?_
    split at hmem
    · simp only [List.mem_cons, List.not_mem_nil, or_false] at hmem
      rcases hmem with rfl | rfl <;>
        exact le_toNat_ofNat_of_mod (by decide) (by decide) (by decide)
    split at hmem
    · simp only [List.mem_cons, List.not_mem_nil, or_false] at hmem
      rcases hmem with rfl | rfl | rfl <;>
        exact le_toNat_ofNat_of_mod (by decide) (by decide) (by decide)
    · simp only [List.mem_cons, List.not_mem_nil, or_false] at hmem
      rcases hmem with rfl | rfl | rfl | rfl <;>
        exact le_toNat_ofNat_of_mod (by decide) (by decide) (by decide)

theorem toNat_ofNat_byte (b : UInt8) : (Char.ofNat b.toNat).toNat = b.toNat := by
  have hvalid : b.toNat.isValidChar := .inl (Nat.lt_trans b.toNat_lt (by decide))
  unfold Char.ofNat
  rw [dif_pos hvalid]
  rfl

/-- A byte below 128 occurs in a text only where its character does. -/
theorem mem_of_mem_ofChars {cs : List Char} {b : UInt8} (hb : b.toNat < 128)
    (hmem : b ∈ ofChars cs) : Char.ofNat b.toNat ∈ cs := by
  obtain ⟨c, hc, hmem⟩ := List.mem_flatMap.1 hmem
  rwa [← toNat_eq_of_mem_utf8EncodeChar hb hmem, Char.ofNat_toNat]

/-- Characters below 128 are written as one byte each. -/
theorem ofChars_of_lt {cs : List Char} (hcs : ∀ c ∈ cs, c.toNat < 128) :
    ofChars cs = cs.map fun c => UInt8.ofNat c.toNat := by
  induction cs with
  | nil => rfl
  | cons c cs ih =>
    obtain ⟨hc, hcs⟩ := List.forall_mem_cons.1 hcs
    have htail := ih hcs
    unfold ofChars at htail ⊢
    rw [List.flatMap_cons, htail, utf8EncodeChar_of_lt hc]
    rfl

/-- Only characters below 128 are written in bytes below 128 alone. -/
theorem lt_of_forall_ofChars {cs : List Char} (h : ∀ b ∈ ofChars cs, b.toNat < 128) :
    ∀ c ∈ cs, c.toNat < 128 := by
  intro c hc
  have hlen : 0 < (String.utf8EncodeChar c).length := by
    rw [String.length_utf8EncodeChar]
    exact c.utf8Size_pos
  obtain ⟨b, hb⟩ := List.exists_mem_of_length_pos hlen
  have hlt : b.toNat < 128 := h b (List.mem_flatMap.2 ⟨c, hc, hb⟩)
  rw [toNat_eq_of_mem_utf8EncodeChar hlt hb]
  exact hlt

end Bytes

end UtxoCodec
