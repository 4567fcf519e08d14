import Mathlib.Algebra.Group.Nat.Defs
import UtxoCodec.Bech32

/-!
# Bytes and groups of five bits

Bytes and groups are cut from the same bits: the groups of bytes have the bits of the bytes and fewer
than five zeros behind them, and bytes are read from groups just if their bits are of that form
(`ofGroups_eq_ok`). The number of zeros is determined by the number of bytes, so there is one list of
groups for bytes. Main statement: `ofGroups_eq_ok_iff`.
-/

namespace UtxoCodec.Bech32

/-! ## Bits of numbers -/

@[simp] theorem length_toBits (width n : Nat) : (toBits width n).length = width := by
  induction width with
  | zero => rfl
  | succ width ih => rw [toBits, List.length_cons, ih]

theorem toBits_congr {width m n : Nat} (h : ∀ i < width, m.testBit i = n.testBit i) :
    toBits width m = toBits width n := by
  induction width with
  | zero => rfl
  | succ width ih =>
    rw [toBits, toBits, h width (Nat.lt_succ_self width),
      ih fun i hi => h i (Nat.lt_succ_of_lt hi)]

theorem foldl_bits (bits : List Bool) (n : Nat) :
    bits.foldl (fun n bit => 2 * n + bit.toNat) n = 2 ^ bits.length * n + ofBits bits := by
  unfold ofBits
  induction bits generalizing n with
  | nil => simp
  | cons bit bits ih =>
    rw [List.foldl_cons, List.foldl_cons, ih, ih (2 * 0 + bit.toNat), List.length_cons, Nat.pow_succ]
    grind

theorem ofBits_cons (bit : Bool) (bits : List Bool) :
    ofBits (bit :: bits) = 2 ^ bits.length * bit.toNat + ofBits bits := by
  have h : ofBits (bit :: bits) = _ := foldl_bits bits (2 * 0 + bit.toNat)
  rw [h, Nat.mul_zero, Nat.zero_add]

theorem ofBits_lt (bits : List Bool) : ofBits bits < 2 ^ bits.length := by
  induction bits with
  | nil => decide
  | cons bit bits ih =>
    rw [ofBits_cons, List.length_cons, Nat.pow_succ]
    have hbit : 2 ^ bits.length * bit.toNat ≤ 2 ^ bits.length * 1 :=
      Nat.mul_le_mul_left _ bit.toNat_le
    omega

/-- Bits are those of the number that they denote. -/
theorem toBits_ofBits (bits : List Bool) : toBits bits.length (ofBits bits) = bits := by
  induction bits with
  | nil => rfl
  | cons bit bits ih =>
    have hbit (i : Nat) : (ofBits (bit :: bits)).testBit i =
        if i < bits.length then (ofBits bits).testBit i
        else bit.toNat.testBit (i - bits.length) := by
      rw [ofBits_cons, Nat.testBit_two_pow_mul_add _ (ofBits_lt bits)]
    have hlow : toBits bits.length (ofBits (bit :: bits)) = toBits bits.length (ofBits bits) :=
      toBits_congr fun i hi => by rw [hbit, if_pos hi]
    rw [List.length_cons, toBits, hlow, ih, hbit, if_neg (Nat.lt_irrefl _), Nat.sub_self]
    cases bit <;> rfl

/-- The bits of a number within a width denote the number modulo the width. -/
theorem ofBits_toBits (width n : Nat) : ofBits (toBits width n) = n % 2 ^ width := by
  induction width with
  | zero => simp [toBits, ofBits, Nat.mod_one]
  | succ width ih =>
    rw [toBits, ofBits_cons, length_toBits, ih, Nat.toNat_testBit, Nat.mod_pow_succ, Nat.add_comm]

/-! ## Chunks -/

theorem chunks_of_lt {size : Nat} {bits : List Bool} (h : bits.length < size) :
    chunks size bits = ([], bits) := by
  rw [chunks, if_neg fun hfit => Nat.not_lt_of_le hfit.2 h]

theorem chunks_of_le {size : Nat} {bits : List Bool} (hsize : 0 < size)
    (h : size ≤ bits.length) : chunks size bits =
      (bits.take size :: (chunks size (bits.drop size)).1, (chunks size (bits.drop size)).2) := by
  rw [chunks, if_pos ⟨hsize, h⟩]

/-- Chunks are what they were joined from. -/
theorem chunks_flatten_append {size : Nat} (hsize : 0 < size) {full : List (List Bool)}
    {rest : List Bool} (hfull : ∀ chunk ∈ full, chunk.length = size) (hrest : rest.length < size) :
    chunks size (full.flatten ++ rest) = (full, rest) := by
  induction full with
  | nil => exact chunks_of_lt hrest
  | cons chunk full ih =>
    obtain ⟨hchunk, hfull⟩ := List.forall_mem_cons.1 hfull
    rw [List.flatten_cons, List.append_assoc, chunks_of_le hsize (by simp [hchunk]),
      List.take_left' hchunk, List.drop_left' hchunk, ih hfull]

/-- Bits fall into full chunks and less than one more. -/
theorem chunks_spec {size : Nat} (hsize : 0 < size) (bits : List Bool) :
    bits = (chunks size bits).1.flatten ++ (chunks size bits).2 ∧
      (∀ chunk ∈ (chunks size bits).1, chunk.length = size) ∧
      (chunks size bits).2.length < size := by
  by_cases h : size ≤ bits.length
  · obtain ⟨hbits, hfull, hrest⟩ := chunks_spec hsize (bits.drop size)
    rw [chunks_of_le hsize h]
    refine ⟨?_, List.forall_mem_cons.2 ⟨List.length_take_of_le h, hfull⟩, hrest⟩
    rw [List.flatten_cons, List.append_assoc, ← hbits, List.take_append_drop]
  · have hlt : bits.length < size := Nat.lt_of_not_le h
    rw [chunks_of_lt hlt]
    exact ⟨rfl, fun _ hchunk => absurd hchunk List.not_mem_nil, hlt⟩
termination_by bits.length
decreasing_by
  simp only [List.length_drop]
  omega

/-- The bits of numbers, one behind the other. -/
def bitsOf (width : Nat) (ns : List Nat) : List Bool := ns.flatMap (toBits width)

theorem length_bitsOf (width : Nat) (ns : List Nat) :
    (bitsOf width ns).length = width * ns.length := by
  induction ns with
  | nil => rfl
  | cons n ns ih =>
    rw [bitsOf, List.flatMap_cons, List.length_append, length_toBits, ← bitsOf, ih,
      List.length_cons, Nat.mul_succ, Nat.add_comm]

theorem chunks_bitsOf_append {width : Nat} (hwidth : 0 < width) (ns : List Nat) {rest : List Bool}
    (hrest : rest.length < width) :
    chunks width (bitsOf width ns ++ rest) = (ns.map (toBits width), rest) := by
  rw [bitsOf, List.flatMap_def]
  refine chunks_flatten_append hwidth ?_ hrest
  simp only [List.forall_mem_map]
  exact fun n _ => length_toBits width n

theorem bitsOf_map_ofBits {width : Nat} {full : List (List Bool)}
    (hfull : ∀ chunk ∈ full, chunk.length = width) :
    bitsOf width (full.map ofBits) = full.flatten := by
  rw [bitsOf, List.flatMap_map, List.flatMap_def]
  have hself : full.map (fun chunk => toBits width (ofBits chunk)) = full.map id :=
    List.map_congr_left fun chunk hchunk => by
      rw [← hfull chunk hchunk, toBits_ofBits]
      rfl
  rw [hself, List.map_id]

theorem map_ofBits_toBits {width : Nat} {ns : List Nat} (hns : ∀ n ∈ ns, n < 2 ^ width) :
    (ns.map (toBits width)).map ofBits = ns := by
  have hself : ns.map (ofBits ∘ toBits width) = ns.map id :=
    List.map_congr_left fun n hn => by
      rw [Function.comp_apply, ofBits_toBits, Nat.mod_eq_of_lt (hns n hn)]
      rfl
  rw [List.map_map, hself, List.map_id]

/-- Numbers that fit a width are told by their bits. -/
theorem bitsOf_inj {width : Nat} (hwidth : 0 < width) {ms ns : List Nat}
    (hms : ∀ m ∈ ms, m < 2 ^ width) (hns : ∀ n ∈ ns, n < 2 ^ width)
    (h : bitsOf width ms = bitsOf width ns) : ms = ns := by
  have hchunks (ks : List Nat) :
      (chunks width (bitsOf width ks)).1 = ks.map (toBits width) := by
    have hks := chunks_bitsOf_append hwidth ks (show ([] : List Bool).length < width from hwidth)
    rw [List.append_nil] at hks
    rw [hks]
  have hmap : ms.map (toBits width) = ns.map (toBits width) := by
    rw [← hchunks, ← hchunks, h]
  rw [← map_ofBits_toBits hms, hmap, map_ofBits_toBits hns]

/-! ## Groups of bytes -/

/-- The bits of bytes. -/
def byteBits (bytes : Bytes) : List Bool := bitsOf 8 (bytes.map UInt8.toNat)

theorem toGroups_eq (bytes : Bytes) :
    toGroups bytes = (chunks 5 (byteBits bytes)).1.map ofBits ++
      if (chunks 5 (byteBits bytes)).2.isEmpty then []
      else [ofBits ((chunks 5 (byteBits bytes)).2 ++
        List.replicate (5 - (chunks 5 (byteBits bytes)).2.length) false)] := by
  rw [byteBits, bitsOf, List.flatMap_map]
  rfl

theorem ofGroups_eq (groups : List Nat) :
    ofGroups groups =
      if 5 ≤ (chunks 8 (bitsOf 5 groups)).2.length ∨ (chunks 8 (bitsOf 5 groups)).2.any id then
        .error .badPadding
      else .ok ((chunks 8 (bitsOf 5 groups)).1.map fun bits => UInt8.ofNat (ofBits bits)) := rfl

/-- The groups of bytes are cut from the bits of the bytes and a padding. -/
theorem toGroups_eq_map (bytes : Bytes) :
    ∃ (full : List (List Bool)) (padding : Nat), padding < 5 ∧
      (∀ chunk ∈ full, chunk.length = 5) ∧
      full.flatten = byteBits bytes ++ List.replicate padding false ∧
      toGroups bytes = full.map ofBits := by
  obtain ⟨hbits, hfull, hrest⟩ := chunks_spec (by decide : 0 < 5) (byteBits bytes)
  rw [toGroups_eq]
  generalize chunks 5 (byteBits bytes) = cut at hbits hfull hrest ⊢
  obtain ⟨full, rest⟩ := cut
  dsimp only at hbits hfull hrest ⊢
  cases rest with
  | nil =>
    refine ⟨full, 0, by decide, hfull, ?_, ?_⟩
    · rw [hbits]
      simp
    · simp
  | cons bit rest =>
    refine ⟨full ++ [bit :: rest ++ List.replicate (5 - (bit :: rest).length) false],
      5 - (bit :: rest).length, ?_, ?_, ?_, ?_⟩
    · rw [List.length_cons]
      omega
    · intro chunk hchunk
      rcases List.mem_append.1 hchunk with hold | hlast
      · exact hfull chunk hold
      · rw [List.mem_singleton.1 hlast, List.length_append, List.length_replicate]
        omega
    · rw [hbits, List.flatten_append, List.flatten_singleton, List.append_assoc]
    · rw [List.map_append]
      rfl

theorem toGroups_lt (bytes : Bytes) : ∀ group ∈ toGroups bytes, group < 32 := by
  obtain ⟨full, -, -, hfull, -, heq⟩ := toGroups_eq_map bytes
  rw [heq]
  simp only [List.forall_mem_map]
  intro chunk hchunk
  have hlt := ofBits_lt chunk
  rwa [hfull chunk hchunk] at hlt

/-- The groups of bytes have the bits of the bytes and fewer than five zeros behind them. -/
theorem bitsOf_toGroups (bytes : Bytes) :
    ∃ padding < 5, bitsOf 5 (toGroups bytes) = byteBits bytes ++ List.replicate padding false := by
  obtain ⟨full, padding, hpadding, hfull, hflatten, heq⟩ := toGroups_eq_map bytes
  exact ⟨padding, hpadding, by rw [heq, bitsOf_map_ofBits hfull, hflatten]⟩

/-! ## Bytes of groups -/

theorem byteBits_map {full : List (List Bool)} (hfull : ∀ chunk ∈ full, chunk.length = 8) :
    byteBits (full.map fun bits => UInt8.ofNat (ofBits bits)) = full.flatten := by
  have hvalues : (full.map fun bits => UInt8.ofNat (ofBits bits)).map UInt8.toNat =
      full.map ofBits := by
    rw [List.map_map]
    refine List.map_congr_left fun chunk hchunk => ?_
    have hlt := ofBits_lt chunk
    rw [hfull chunk hchunk] at hlt
    exact UInt8.toNat_ofNat_of_lt' hlt
  rw [byteBits, hvalues, bitsOf_map_ofBits hfull]

theorem map_ofNat_toBits (bytes : Bytes) :
    ((bytes.map UInt8.toNat).map (toBits 8)).map (fun bits => UInt8.ofNat (ofBits bits)) =
      bytes := by
  have hself : bytes.map (fun b => UInt8.ofNat (ofBits (toBits 8 b.toNat))) = bytes.map id :=
    List.map_congr_left fun b _ => by
      rw [ofBits_toBits, Nat.mod_eq_of_lt b.toNat_lt, UInt8.ofNat_toNat]
      rfl
  rw [List.map_map, List.map_map]
  exact hself.trans (List.map_id _)

/-- Bytes are read from groups with such bits, and from no others. -/
theorem ofGroups_eq_ok {groups : List Nat} {bytes : Bytes} : ofGroups groups = .ok bytes ↔
    ∃ padding < 5, bitsOf 5 groups = byteBits bytes ++ List.replicate padding false := by
  rw [ofGroups_eq]
  constructor
  · intro h
    obtain ⟨hbits, hfull, -⟩ := chunks_spec (by decide : 0 < 8) (bitsOf 5 groups)
    generalize chunks 8 (bitsOf 5 groups) = cut at h hbits hfull
    obtain ⟨full, rest⟩ := cut
    dsimp only at h hbits hfull
    split at h
    · cases h
    · next hgood =>
      cases h
      have hshort : rest.length < 5 := Nat.lt_of_not_le fun hlong => hgood (.inl hlong)
      have hzero : rest = List.replicate rest.length false := by
        refine List.eq_replicate_iff.2 ⟨rfl, fun bit hbit => ?_⟩
        exact Bool.eq_false_iff.2 fun hset =>
          hgood (.inr (List.any_eq_true.2 ⟨bit, hbit, hset⟩))
      refine ⟨rest.length, hshort, ?_⟩
      rw [byteBits_map hfull, ← hzero, hbits]
  · rintro ⟨padding, hpadding, hbits⟩
    have hlength : (List.replicate padding false).length < 8 := by
      rw [List.length_replicate]
      omega
    rw [hbits, byteBits, chunks_bitsOf_append (by decide) _ hlength]
    dsimp only
    rw [map_ofNat_toBits]
    refine if_neg ?_
    rintro (hlong | hset)
    · rw [List.length_replicate] at hlong
      omega
    · obtain ⟨bit, hbit, hset⟩ := List.any_eq_true.1 hset
      rw [List.eq_of_mem_replicate hbit] at hset
      cases hset

/-- Bytes are read from their groups, and from no other groups. -/
theorem ofGroups_eq_ok_iff {groups : List Nat} (hgroups : ∀ group ∈ groups, group < 32)
    {bytes : Bytes} : ofGroups groups = .ok bytes ↔ groups = toGroups bytes := by
  rw [ofGroups_eq_ok]
  constructor
  · rintro ⟨padding, hpadding, hbits⟩
    obtain ⟨padding', hpadding', hbits'⟩ := bitsOf_toGroups bytes
    -- both numbers of bits are a multiple of five, so the paddings are of one length
    have hlength := congrArg List.length hbits
    have hlength' := congrArg List.length hbits'
    rw [length_bitsOf, List.length_append, List.length_replicate] at hlength hlength'
    have hsame : padding = padding' := by omega
    refine bitsOf_inj (show 0 < 5 by decide) hgroups (toGroups_lt bytes) ?_
    rw [hbits, hbits', hsame]
  · rintro rfl
    exact bitsOf_toGroups bytes

end UtxoCodec.Bech32
