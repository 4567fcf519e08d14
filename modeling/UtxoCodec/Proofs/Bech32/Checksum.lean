import Mathlib.Algebra.Group.Nat.Defs
import UtxoCodec.Bech32

/-!
# One checksum for a text

The residue is linear in exclusive or (`foldl_residueStep_xor`), and six groups that follow nothing
make up a residue of thirty bits of which they are the digits to base 32
(`toNat_foldl_residueStep`). So what comes in front of a checksum only shifts the residues that
checksums give, and one checksum gives the right one. Main statement: `residue_eq_target`.
-/

namespace UtxoCodec.Bech32

/-! ## Linearity -/

/-- What is added to a residue for a bit that is shifted out. -/
def feedBack (top residue : UInt32) (generator : UInt32 × Nat) : UInt32 :=
  if (top >>> UInt32.ofNat generator.2) &&& 1 = 1 then residue ^^^ generator.1 else residue

/-- The generators with the bits that they belong to. -/
def generators : List (UInt32 × Nat) :=
  [0x3b6a57b2, 0x26508e6d, 0x1ea119fa, 0x3d4233dd, 0x2a1462b3].zipIdx

theorem residueStep_eq_foldl (r : UInt32) (group : Nat) :
    residueStep r group =
      generators.foldl (feedBack (r >>> 25)) (((r &&& 0x1ffffff) <<< 5) ^^^ UInt32.ofNat group) :=
  rfl

theorem and_one_eq_one (a : UInt32) : a &&& 1 = 1 ↔ a.toNat.testBit 0 = true := by
  rw [← UInt32.toNat_inj, UInt32.toNat_and, Nat.testBit_zero, decide_eq_true_iff]
  show a.toNat &&& 1 = 1 ↔ _
  rw [Nat.and_one_is_mod]

theorem feedBack_xor (top top' r r' : UInt32) (generator : UInt32 × Nat) :
    feedBack (top ^^^ top') (r ^^^ r') generator =
      feedBack top r generator ^^^ feedBack top' r' generator := by
  unfold feedBack
  simp only [and_one_eq_one, UInt32.shiftRight_xor, UInt32.toNat_xor, Nat.testBit_xor]
  cases (top >>> UInt32.ofNat generator.2).toNat.testBit 0 <;>
    cases (top' >>> UInt32.ofNat generator.2).toNat.testBit 0
  · rfl
  · simp only [Bool.false_xor, if_true, Bool.false_eq_true, if_false]
    ac_rfl
  · simp only [Bool.xor_false, if_true, Bool.false_eq_true, if_false]
    ac_rfl
  · -- the generator is added twice, which cancels
    simp only [Bool.xor_self, if_true, Bool.false_eq_true, if_false]
    calc r ^^^ r' = r ^^^ r' ^^^ (generator.1 ^^^ generator.1) := by
          rw [UInt32.xor_self, UInt32.xor_zero]
      _ = r ^^^ generator.1 ^^^ (r' ^^^ generator.1) := by ac_rfl

theorem foldl_feedBack_xor (top top' : UInt32) (gs : List (UInt32 × Nat)) (r r' : UInt32) :
    gs.foldl (feedBack (top ^^^ top')) (r ^^^ r') =
      gs.foldl (feedBack top) r ^^^ gs.foldl (feedBack top') r' := by
  induction gs generalizing r r' with
  | nil => rfl
  | cons generator gs ih =>
    simp only [List.foldl_cons]
    rw [feedBack_xor, ih]

theorem residueStep_xor (r r' : UInt32) (group : Nat) :
    residueStep (r ^^^ r') group = residueStep r 0 ^^^ residueStep r' group := by
  have hmask : (r ^^^ r') &&& 0x1ffffff = (r &&& 0x1ffffff) ^^^ (r' &&& 0x1ffffff) := by
    rw [← UInt32.toNat_inj]
    simp only [UInt32.toNat_and, UInt32.toNat_xor, Nat.and_xor_distrib_right]
  simp only [residueStep_eq_foldl]
  rw [← foldl_feedBack_xor, UInt32.shiftRight_xor, hmask, UInt32.shiftLeft_xor]
  congr 1
  show _ = (r &&& 0x1ffffff) <<< 5 ^^^ 0 ^^^ _
  rw [UInt32.xor_zero, UInt32.xor_assoc]

/-- Groups act on a difference of residues as if they followed nothing. -/
theorem foldl_residueStep_xor (groups : List Nat) (r r' : UInt32) :
    groups.foldl residueStep (r ^^^ r') =
      (List.replicate groups.length 0).foldl residueStep r ^^^ groups.foldl residueStep r' := by
  induction groups generalizing r r' with
  | nil => rfl
  | cons group groups ih =>
    simp only [List.foldl_cons, List.length_cons, List.replicate_succ]
    rw [residueStep_xor, ih]

/-! ## Residues as numbers to base 32 -/

theorem feedBack_zero (r : UInt32) (generator : UInt32 × Nat) : feedBack 0 r generator = r := by
  unfold feedBack
  rw [UInt32.zero_shiftRight, UInt32.zero_and]
  exact if_neg (by decide)

theorem foldl_feedBack_zero (gs : List (UInt32 × Nat)) (r : UInt32) :
    gs.foldl (feedBack 0) r = r := by
  induction gs with
  | nil => rfl
  | cons generator gs ih => rw [List.foldl_cons, feedBack_zero, ih]

theorem xor_of_lt {a b : Nat} (hb : b < 32) : (a * 32) ^^^ b = 32 * a + b := by
  have hdiv : ((a * 32) ^^^ b) / 2 ^ 5 = a := by
    rw [Nat.xor_div_two_pow]
    show a * 32 / 32 ^^^ b / 32 = a
    rw [Nat.mul_div_cancel a (by decide), Nat.div_eq_of_lt hb, Nat.xor_zero]
  have hmod : ((a * 32) ^^^ b) % 2 ^ 5 = b := by
    rw [Nat.xor_mod_two_pow]
    show a * 32 % 32 ^^^ b % 32 = b
    rw [Nat.mul_mod_left, Nat.mod_eq_of_lt hb, Nat.zero_xor]
  omega

/-- As long as no bit is shifted out, a group is one more digit. -/
theorem toNat_residueStep {r : UInt32} {group : Nat} (hr : r.toNat < 2 ^ 25) (hg : group < 32) :
    (residueStep r group).toNat = 32 * r.toNat + group := by
  have htop : r >>> 25 = 0 := by
    rw [← UInt32.toNat_inj, UInt32.toNat_shiftRight, Nat.shiftRight_eq_div_pow]
    exact Nat.div_eq_of_lt hr
  have hmask : r &&& 0x1ffffff = r := by
    rw [← UInt32.toNat_inj, UInt32.toNat_and]
    show r.toNat &&& (2 ^ 25 - 1) = r.toNat
    rw [Nat.and_two_pow_sub_one_eq_mod, Nat.mod_eq_of_lt hr]
  have hshift : (r <<< 5).toNat = r.toNat * 32 := by
    rw [UInt32.toNat_shiftLeft, Nat.shiftLeft_eq]
    show r.toNat * 32 % 2 ^ 32 = r.toNat * 32
    omega
  have hgroup : (UInt32.ofNat group).toNat = group :=
    UInt32.toNat_ofNat_of_lt' (Nat.lt_trans hg (by decide))
  rw [residueStep_eq_foldl, htop, foldl_feedBack_zero, hmask, UInt32.toNat_xor, hshift, hgroup,
    xor_of_lt hg]

/-- The number that groups are the digits of, most significant first. -/
def groupsValue (groups : List Nat) : Nat := groups.foldl (fun n group => 32 * n + group) 0

/-- The six digits to base 32 of a number below `2 ^ 30`, most significant first. -/
def sixGroups (n : Nat) : List Nat :=
  (List.range checksumLength).map fun i => n / 2 ^ (5 * (5 - i)) % 32

theorem eq_sixGroups_iff {groups : List Nat} {n : Nat} (hlength : groups.length = checksumLength)
    (hgroups : ∀ group ∈ groups, group < 32) (hn : n < 2 ^ 30) :
    groups = sixGroups n ↔ groupsValue groups = n := by
  match groups, hlength with
  | [a, b, c, d, e, f], _ =>
    simp only [List.forall_mem_cons] at hgroups
    obtain ⟨ha, hb, hc, hd, he, hf, -⟩ := hgroups
    have hdigits : sixGroups n = [n / 2 ^ 25 % 32, n / 2 ^ 20 % 32, n / 2 ^ 15 % 32,
      n / 2 ^ 10 % 32, n / 2 ^ 5 % 32, n / 2 ^ 0 % 32] := rfl
    rw [hdigits]
    simp only [List.cons.injEq, and_true, groupsValue, List.foldl_cons, List.foldl_nil]
    omega

/-- The residue of at most six groups that follow nothing. A residue of `k` groups leaves room for
`6 - k` more. -/
theorem toNat_foldl_residueStep {groups : List Nat} (hgroups : ∀ group ∈ groups, group < 32)
    {r : UInt32} {k : Nat} (hr : r.toNat < 32 ^ k) (hroom : k + groups.length ≤ 6) :
    (groups.foldl residueStep r).toNat = groups.foldl (fun n group => 32 * n + group) r.toNat := by
  induction groups generalizing r k with
  | nil => rfl
  | cons group groups ih =>
    obtain ⟨hgroup, hgroups⟩ := List.forall_mem_cons.1 hgroups
    rw [List.length_cons] at hroom
    have hlt : r.toNat < 2 ^ 25 := calc
      r.toNat < 32 ^ k := hr
      _ ≤ 32 ^ 5 := Nat.pow_le_pow_right (by decide) (by omega)
    have hstep : (residueStep r group).toNat = 32 * r.toNat + group :=
      toNat_residueStep hlt hgroup
    have hnext : (residueStep r group).toNat < 32 ^ (k + 1) := by
      rw [hstep, Nat.pow_succ]
      omega
    rw [List.foldl_cons, List.foldl_cons, ih hgroups hnext (by omega), hstep]

/-! ## Residues have thirty bits -/

theorem toNat_feedBack_lt {top r : UInt32} {generator : UInt32 × Nat} (hr : r.toNat < 2 ^ 30)
    (hgenerator : generator.1.toNat < 2 ^ 30) : (feedBack top r generator).toNat < 2 ^ 30 := by
  unfold feedBack
  split
  · rw [UInt32.toNat_xor]
    exact Nat.xor_lt_two_pow hr hgenerator
  · exact hr

theorem toNat_foldl_feedBack_lt {top : UInt32} {gs : List (UInt32 × Nat)}
    (hgs : ∀ generator ∈ gs, generator.1.toNat < 2 ^ 30) {r : UInt32} (hr : r.toNat < 2 ^ 30) :
    (gs.foldl (feedBack top) r).toNat < 2 ^ 30 := by
  induction gs generalizing r with
  | nil => exact hr
  | cons generator gs ih =>
    obtain ⟨hgenerator, hgs⟩ := List.forall_mem_cons.1 hgs
    exact ih hgs (toNat_feedBack_lt hr hgenerator)

theorem toNat_residueStep_zero_lt (r : UInt32) : (residueStep r 0).toNat < 2 ^ 30 := by
  rw [residueStep_eq_foldl]
  refine toNat_foldl_feedBack_lt (by decide) ?_
  show ((r &&& 0x1ffffff) <<< 5 ^^^ 0).toNat < 2 ^ 30
  have hmask : (r &&& 0x1ffffff).toNat ≤ 0x1ffffff := UInt32.le_iff_toNat_le.1 UInt32.and_le_right
  rw [UInt32.xor_zero, UInt32.toNat_shiftLeft, Nat.shiftLeft_eq]
  show (r &&& 0x1ffffff).toNat * 32 % 2 ^ 32 < 2 ^ 30
  omega

/-! ## The checksum -/

/-- The residue of what a checksum is computed from. -/
def openResidue (readable : List Char) (data : List Nat) : UInt32 :=
  residue (expand readable ++ data ++ List.replicate checksumLength 0)

theorem toNat_openResidue_lt (readable : List Char) (data : List Nat) :
    (openResidue readable data).toNat < 2 ^ 30 := by
  unfold openResidue residue
  rw [show checksumLength = 5 + 1 from rfl, List.replicate_succ', ← List.append_assoc,
    List.foldl_append]
  exact toNat_residueStep_zero_lt _

theorem checksum_eq_sixGroups (readable : List Char) (data : List Nat) :
    checksum readable data = sixGroups (openResidue readable data ^^^ target).toNat := by
  unfold checksum sixGroups
  refine List.map_congr_left fun i _ => ?_
  have hcount : (UInt32.ofNat (5 * (5 - i))).toNat % 32 = 5 * (5 - i) := by
    rw [UInt32.toNat_ofNat_of_lt' (Nat.lt_of_le_of_lt (by omega : _ ≤ 25) (by decide))]
    omega
  rw [UInt32.toNat_and, UInt32.toNat_shiftRight, hcount, Nat.shiftRight_eq_div_pow]
  exact Nat.and_two_pow_sub_one_eq_mod _ 5

/-- A text has the right residue with one checksum and no other. -/
theorem residue_eq_target {readable : List Char} {data sum : List Nat}
    (hlength : sum.length = checksumLength) (hsum : ∀ group ∈ sum, group < 32) :
    residue (expand readable ++ data ++ sum) = target ↔ sum = checksum readable data := by
  have hshift : residue (expand readable ++ data ++ sum) =
      openResidue readable data ^^^ sum.foldl residueStep 0 := by
    have hopen : openResidue readable data = (List.replicate sum.length 0).foldl residueStep
        (residue (expand readable ++ data)) := by
      rw [hlength]
      exact List.foldl_append
    rw [hopen, ← foldl_residueStep_xor, UInt32.xor_zero]
    exact List.foldl_append
  have hvalue : (sum.foldl residueStep 0).toNat = groupsValue sum :=
    toNat_foldl_residueStep hsum (k := 0) (by decide) (by rw [hlength]; decide)
  have hbound : (openResidue readable data ^^^ target).toNat < 2 ^ 30 := by
    rw [UInt32.toNat_xor]
    exact Nat.xor_lt_two_pow (toNat_openResidue_lt readable data) (by decide)
  rw [checksum_eq_sixGroups, eq_sixGroups_iff hlength hsum hbound, ← hvalue, UInt32.toNat_inj, hshift]
  constructor
  · intro h
    rw [← h, ← UInt32.xor_assoc, UInt32.xor_self, UInt32.zero_xor]
  · intro h
    rw [h, ← UInt32.xor_assoc, UInt32.xor_self, UInt32.zero_xor]

theorem length_checksum (readable : List Char) (data : List Nat) :
    (checksum readable data).length = checksumLength := by
  simp [checksum]

theorem checksum_lt (readable : List Char) (data : List Nat) :
    ∀ group ∈ checksum readable data, group < 32 := by
  rw [checksum_eq_sixGroups]
  unfold sixGroups
  simp only [List.forall_mem_map]
  exact fun i _ => Nat.mod_lt _ (by decide)

end UtxoCodec.Bech32
