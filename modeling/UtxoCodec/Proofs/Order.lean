import Mathlib.Data.List.Pairwise
import Mathlib.Data.List.Perm.Subperm
import UtxoCodec.Proofs.Packing.Element
import UtxoCodec.SortedKinds

/-!
# Order of bytes and of elements

Byte strings are compared as in a dictionary. Checks of neighbours say that elements strictly
increase throughout, and what strictly increases within a list is no longer than the list.
-/

namespace UtxoCodec

/-! ## Byte strings -/

theorem Bytes.compare_eq_lt {xs ys : Bytes} : compare xs ys = .lt ↔ xs < ys := by
  rw [List.compare_eq_compareLex]
  induction xs generalizing ys with
  | nil =>
    cases ys with
    | nil => decide
    | cons y ys => simp [List.compareLex_nil_cons]
  | cons x xs ih =>
    cases ys with
    | nil => simp [List.compareLex_cons_nil]
    | cons y ys =>
      rw [List.compareLex_cons_cons, Ordering.then_eq_lt, List.cons_lt_cons_iff, ih,
        Std.compare_eq_lt, Std.compare_eq_iff_eq]

theorem Bytes.isLE_compare {xs ys : Bytes} : (compare xs ys).isLE = true ↔ xs ≤ ys := by
  rw [Ordering.isLE_iff_ne_gt, Std.OrientedCmp.gt_iff_lt, Bytes.compare_eq_lt]
  exact List.not_lt

instance isTrans_byte_lt : IsTrans UInt8 (· < ·) := ⟨fun _ _ _ => UInt8.lt_trans⟩

instance isTrans_bytes_lt : IsTrans Bytes (· < ·) := ⟨fun _ _ _ => List.lt_trans⟩

theorem Identifier.eq_of_bytes {kind : IdKind} {a b : Identifier kind} (h : a.bytes = b.bytes) :
    a = b := by
  cases a
  cases b
  cases h
  rfl

/-! ## Neighbours -/

/-- A check that compares neighbours compares all elements. -/
theorem check_iff_pairwise {α κ : Type} {lt : κ → κ → Prop} [IsTrans κ lt] (key : α → κ)
    (check : List α → Prop) (hnil : check []) (hone : ∀ a, check [a])
    (hcons : ∀ a b rest, check (a :: b :: rest) ↔ lt (key a) (key b) ∧ check (b :: rest))
    (items : List α) : check items ↔ (items.map key).Pairwise lt := by
  induction items with
  | nil => exact iff_of_true hnil .nil
  | cons a items ih =>
    cases items with
    | nil => exact iff_of_true (hone a) (List.pairwise_singleton _ _)
    | cons b rest =>
      rw [hcons, ih]
      exact List.pairwise_cons_cons_iff_of_trans.symm

/-- A check that compares the keys of neighbours sees nothing but the keys. -/
theorem check_congr {α κ ρ : Type} (key : α → κ) (check : List α → ρ)
    (hone : ∀ a b, check [a] = check [b])
    (hcons : ∀ a b c d rest rest', key a = key c → key b = key d →
      check (b :: rest) = check (d :: rest') → check (a :: b :: rest) = check (c :: d :: rest'))
    {items others : List α} (h : items.map key = others.map key) : check items = check others := by
  induction items generalizing others with
  | nil => rw [List.map_eq_nil_iff.1 h.symm]
  | cons a items ih =>
    obtain ⟨c, others, rfl, hfirst, htail⟩ := List.map_eq_cons_iff.1 h.symm
    cases items with
    | nil =>
      rw [List.map_eq_nil_iff.1 htail]
      exact hone a c
    | cons b rest =>
      obtain ⟨d, rest', rfl, hsecond, -⟩ := List.map_eq_cons_iff.1 htail
      exact hcons a b c d rest rest' hfirst.symm hsecond.symm (ih htail.symm)

theorem length_le_of_increasing {kinds allowed : List UInt8} (h : kinds.Pairwise (· < ·))
    (hallowed : ∀ kind ∈ kinds, kind ∈ allowed) : kinds.length ≤ allowed.length := by
  have hnodup : kinds.Nodup := h.imp UInt8.ne_of_lt
  exact (List.subperm_of_subset hnodup hallowed).length_le

namespace SortedKinds

variable {α : Type} {kind : α → UInt8} {what : String}

theorem verifyOrder_cons {a b : α} {rest : List α} :
    verifyOrder kind what (a :: b :: rest) = .ok () ↔
      kind a < kind b ∧ verifyOrder kind what (b :: rest) = .ok () := by
  rw [verifyOrder, ite_error_eq_ok, ite_error_eq_ok, ← and_assoc]
  refine and_congr_left fun _ => ⟨?_, ?_⟩
  · rintro ⟨hne, hnlt⟩
    exact UInt8.lt_of_le_of_ne (UInt8.not_lt.1 hnlt) hne
  · intro hlt
    exact ⟨UInt8.ne_of_lt hlt, UInt8.lt_asymm hlt⟩

/-- The check of the order sees nothing but the kinds. -/
theorem verifyOrder_congr {items others : List α} (h : items.map kind = others.map kind) :
    verifyOrder kind what items = verifyOrder kind what others := by
  refine check_congr kind (verifyOrder kind what) (fun _ _ => rfl) ?_ h
  intro a b c d rest rest' hfirst hsecond htail
  rw [verifyOrder, verifyOrder, hfirst, hsecond, htail]

theorem verifyOrder_eq_ok {items : List α} :
    verifyOrder kind what items = .ok () ↔ (items.map kind).Pairwise (· < ·) :=
  check_iff_pairwise kind (verifyOrder kind what · = .ok ()) rfl (fun _ => rfl)
    (fun _ _ _ => verifyOrder_cons) items

end SortedKinds

namespace NativeTokens

theorem verifyOrder_cons {a b : NativeToken} {rest : List NativeToken} :
    verifyOrder (a :: b :: rest) = .ok () ↔
      a.id.bytes < b.id.bytes ∧ verifyOrder (b :: rest) = .ok () := by
  have hcompare : compare a.id b.id = compare a.id.bytes b.id.bytes := rfl
  rw [verifyOrder, ← Bytes.compare_eq_lt, hcompare]
  cases compare a.id.bytes b.id.bytes <;> simp

/-- The check of the order sees nothing but the identifiers. -/
theorem verifyOrder_congr {items others : List NativeToken}
    (h : items.map (fun t => t.id.bytes) = others.map fun t => t.id.bytes) :
    verifyOrder items = verifyOrder others := by
  refine check_congr (fun t => t.id.bytes) verifyOrder (fun _ _ => rfl) ?_ h
  intro a b c d rest rest' hfirst hsecond htail
  have hfirst : a.id = c.id := Identifier.eq_of_bytes hfirst
  have hsecond : b.id = d.id := Identifier.eq_of_bytes hsecond
  rw [verifyOrder, verifyOrder, hfirst, hsecond, htail]

theorem verifyOrder_eq_ok {items : List NativeToken} :
    verifyOrder items = .ok () ↔ (items.map fun t => t.id.bytes).Pairwise (· < ·) :=
  check_iff_pairwise (fun t => t.id.bytes) (verifyOrder · = .ok ()) rfl (fun _ => rfl)
    (fun _ _ _ => verifyOrder_cons) items

theorem verify_iff_increasing {ts : NativeTokens} : ts.verify = .ok () ↔
    ts.items.length ≤ 64 ∧ (ts.items.map fun t => t.id.bytes).Pairwise (· < ·) ∧
      ∀ t ∈ ts.items, t.amount ≠ 0 := by
  have hamount (t : NativeToken) : t.verify = .ok () ↔ t.amount ≠ 0 := by
    simp [NativeToken.verify]
  rw [verify_eq_ok, verifyOrder_eq_ok]
  simp only [hamount]
  exact and_congr_right fun _ => and_comm

end NativeTokens

end UtxoCodec
