import Mathlib.Data.List.Nodup
import UtxoCodec.Proofs.Order

/-!
# Sorting by a key

Elements are sorted by a key, those of one key in the order in which they come. The keys of the
result do not depend on the order of the elements (`map_sortBy_of_perm`), so neither does the outcome
of a check of the keys. The elements with the same key may come in either order; where no key is
repeated, which is to say where the keys of the result strictly increase, the result is determined
by the elements (`sortBy_of_perm`).
-/

namespace UtxoCodec

variable {α κ : Type} {key : α → κ} {items others : List α}

/-- Where no key is repeated, the first element with a key is the only one. -/
theorem find?_key_eq_some [DecidableEq κ] (hnodup : (items.map key).Nodup) {k : κ} {a : α} :
    items.find? (key · == k) = some a ↔ a ∈ items ∧ key a = k := by
  constructor
  · intro hfind
    exact ⟨List.mem_of_find?_eq_some hfind, by simpa using List.find?_some hfind⟩
  · rintro ⟨hmem, rfl⟩
    cases hfind : items.find? (key · == key a) with
    | none =>
      have hnone := List.find?_eq_none.1 hfind a hmem
      simp at hnone
    | some b =>
      have hkey : key b = key a := by simpa using List.find?_some hfind
      rw [List.inj_on_of_nodup_map hnodup (List.mem_of_find?_eq_some hfind) hmem hkey]

variable [LE κ] [DecidableLE κ]

/-- Elements in increasing order of their keys; those of one key keep their order. -/
def sortBy (key : α → κ) (items : List α) : List α :=
  items.mergeSort fun a b => key a ≤ key b

theorem sortBy_perm (key : α → κ) (items : List α) : (sortBy key items).Perm items :=
  List.mergeSort_perm items _

theorem sortBy_perm_sortBy (key : α → κ) (h : items.Perm others) :
    (sortBy key items).Perm (sortBy key others) :=
  ((sortBy_perm key items).trans h).trans (sortBy_perm key others).symm

theorem mem_sortBy {a : α} : a ∈ sortBy key items ↔ a ∈ items :=
  (sortBy_perm key items).mem_iff

theorem length_sortBy : (sortBy key items).length = items.length :=
  (sortBy_perm key items).length_eq

/-! ## Elements in another order -/

section

variable [Std.IsLinearOrder κ]

theorem pairwise_map_sortBy (key : α → κ) (items : List α) :
    ((sortBy key items).map key).Pairwise (· ≤ ·) := by
  have htrans : ∀ a b c : α, decide (key a ≤ key b) = true → decide (key b ≤ key c) = true →
      decide (key a ≤ key c) = true := by
    intro a b c hab hbc
    simp only [decide_eq_true_eq] at hab hbc ⊢
    exact Std.le_trans hab hbc
  have htotal : ∀ a b : α, (decide (key a ≤ key b) || decide (key b ≤ key a)) = true := by
    intro a b
    simp only [Bool.or_eq_true, decide_eq_true_eq]
    exact Std.le_total
  have hsorted := List.pairwise_mergeSort htrans htotal items
  simp only [decide_eq_true_eq] at hsorted
  exact List.pairwise_map.2 hsorted

/-- Whichever order the elements come in, the keys come out in one order, repeated ones included. -/
theorem map_sortBy_of_perm (h : items.Perm others) :
    (sortBy key items).map key = (sortBy key others).map key := by
  have hperm := (sortBy_perm_sortBy key h).map key
  exact hperm.eq_of_pairwise (fun _ _ _ _ => Std.le_antisymm)
    (pairwise_map_sortBy key items) (pairwise_map_sortBy key others)

theorem sortBy_of_perm (h : items.Perm others) (hnodup : (items.map key).Nodup) :
    sortBy key items = sortBy key others := by
  refine (sortBy_perm_sortBy key h).eq_of_pairwise (fun a b ha hb hab hba => ?_)
    (List.pairwise_map.1 (pairwise_map_sortBy key items))
    (List.pairwise_map.1 (pairwise_map_sortBy key others))
  have hb' : b ∈ items := h.mem_iff.2 (mem_sortBy.1 hb)
  exact List.inj_on_of_nodup_map hnodup (mem_sortBy.1 ha) hb' (Std.le_antisymm hab hba)

end

/-! ## Strictly increasing keys -/

variable [LT κ] [Std.LawfulOrderLT κ]

theorem sortBy_of_increasing (h : (items.map key).Pairwise (· < ·)) : sortBy key items = items := by
  refine List.mergeSort_of_pairwise ?_
  exact (List.pairwise_map.1 h).imp fun hlt => decide_eq_true (Std.le_of_lt hlt)

variable [Std.IsLinearOrder κ]

/-- The keys of the result strictly increase if and only if no two elements have one key. -/
theorem increasing_sortBy : ((sortBy key items).map key).Pairwise (· < ·) ↔
    (items.map key).Nodup := by
  rw [← ((sortBy_perm key items).map key).nodup_iff]
  constructor
  · intro hlt
    exact hlt.imp Std.ne_of_lt
  · intro hnodup
    exact ((pairwise_map_sortBy key items).and hnodup).imp
      fun ⟨hle, hne⟩ => Std.lt_of_le_of_ne hle hne

/-- The strictly increasing order of the elements is the one that sorting finds. -/
theorem sortBy_eq_of_perm (h : items.Perm others) (hlt : (others.map key).Pairwise (· < ·)) :
    sortBy key items = others := by
  have hnodup : (others.map key).Nodup := hlt.imp Std.ne_of_lt
  rw [sortBy_of_perm h ((h.map key).nodup_iff.2 hnodup), sortBy_of_increasing hlt]

end UtxoCodec
