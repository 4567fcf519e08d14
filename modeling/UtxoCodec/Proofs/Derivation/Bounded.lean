import Mathlib.Data.Finset.Card
import UtxoCodec.Proofs.Derivation.Cache

/-!
# The size of bounded maps

Which entries a full map holds depends on what was given up to make room, but how many does not: as
many of the keys that were asked for with success as the capacity admits. The invariant relates the
map to the set of these keys (`BoundedMap.Fills`). A key that was given up and is asked for again is
no new member of the set, and then the map is full already.
-/

namespace UtxoCodec.BoundedMap

variable {κ ν ε : Type} [DecidableEq κ] {m : BoundedMap κ ν} {capacity choice : Nat}
  {asked : Finset κ} {key : κ} {value : ν} {derive : Unit → Except ε ν}

/-- The keys of the entries. -/
def keys (m : BoundedMap κ ν) : List κ := m.entries.map Prod.fst

/-- The map holds keys that were asked for, each once, and as many of them as it admits. -/
structure Fills (capacity : Nat) (asked : Finset κ) (m : BoundedMap κ ν) : Prop where
  capacity_eq : m.capacity = capacity
  nodup : m.keys.Nodup
  mem_asked : ∀ key ∈ m.keys, key ∈ asked
  size_eq : m.size = min capacity asked.card

theorem find?_eq_none : m.find? key = none ↔ key ∉ m.keys := by
  unfold find? keys
  rw [Option.map_eq_none_iff, List.find?_eq_none, List.mem_map, not_exists]
  simp only [decide_eq_true_eq, not_and]

theorem mem_keys_of_find? (h : m.find? key = some value) : key ∈ m.keys := by
  by_contra hkey
  rw [find?_eq_none.2 hkey] at h
  cases h

omit [DecidableEq κ] in
theorem makeRoom_sublist (m : BoundedMap κ ν) (choice : Nat) :
    (m.makeRoom choice).Sublist m.entries := by
  unfold makeRoom
  split
  · exact List.eraseIdx_sublist ..
  · exact List.Sublist.refl _

omit [DecidableEq κ] in
/-- Room is made for one entry, and none is given up where there is room. -/
theorem length_makeRoom (hpos : 0 < m.capacity) (hle : m.size ≤ m.capacity) :
    (m.makeRoom choice).length = min m.size (m.capacity - 1) := by
  unfold size at hle ⊢
  unfold makeRoom
  split
  · next hfull =>
    have hchoice : choice % m.entries.length < m.entries.length := Nat.mod_lt _ (by omega)
    rw [List.length_eraseIdx_of_lt hchoice]
    omega
  · omega

theorem length_le_card {keys : List κ} (hnodup : keys.Nodup) (h : ∀ key ∈ keys, key ∈ asked) :
    keys.length ≤ asked.card := by
  rw [← List.toFinset_card_of_nodup hnodup]
  exact Finset.card_le_card fun key hkey => h key (List.mem_toFinset.1 hkey)

omit [DecidableEq κ] in
theorem fills_empty (capacity : Nat) : (empty capacity : BoundedMap κ ν).Fills capacity ∅ where
  capacity_eq := rfl
  nodup := List.nodup_nil
  mem_asked _ h := absurd h List.not_mem_nil
  size_eq := by
    rw [Finset.card_empty, Nat.min_zero]
    rfl

namespace Fills

theorem insertNew (h : m.Fills capacity asked) (choice : Nat) (hnew : key ∉ m.keys) (value : ν) :
    (m.insertNew choice key value).Fills capacity (insert key asked) := by
  obtain ⟨rfl, hnodup, hasked, hsize⟩ := h
  unfold BoundedMap.insertNew
  split
  · next hzero =>
    refine ⟨rfl, hnodup, fun k hk => Finset.mem_insert_of_mem (hasked k hk), ?_⟩
    rw [hsize, hzero, Nat.zero_min, Nat.zero_min]
  · next hpos =>
    have hsub : ((m.makeRoom choice).map Prod.fst).Sublist m.keys :=
      (m.makeRoom_sublist choice).map Prod.fst
    have hlength : (m.makeRoom choice).length = min m.size (m.capacity - 1) :=
      length_makeRoom (Nat.pos_of_ne_zero hpos) (hsize ▸ Nat.min_le_left _ _)
    refine ⟨rfl, ?_, ?_, ?_⟩
    · exact List.nodup_cons.2 ⟨fun hmem => hnew (hsub.subset hmem), hsub.nodup hnodup⟩
    · intro k hk
      rcases List.mem_cons.1 hk with rfl | hk
      · exact Finset.mem_insert_self _ _
      · exact Finset.mem_insert_of_mem (hasked k (hsub.subset hk))
    · show (m.makeRoom choice).length + 1 = _
      by_cases hagain : key ∈ asked
      · -- the key was given up before, so there are more keys than entries
        have hfewer : (key :: m.keys).length ≤ asked.card :=
          length_le_card (List.nodup_cons.2 ⟨hnew, hnodup⟩)
            (List.forall_mem_cons.2 ⟨hagain, hasked⟩)
        have hkeys : m.keys.length = m.size := List.length_map ..
        rw [Finset.insert_eq_of_mem hagain, hlength]
        rw [List.length_cons, hkeys] at hfewer
        omega
      · rw [Finset.card_insert_of_notMem hagain, hlength]
        omega

/-- Asking for a key with success. -/
theorem getOrDerive (h : m.Fills capacity asked)
    (hok : (m.getOrDerive choice key derive).1 = .ok value) :
    (m.getOrDerive choice key derive).2.Fills capacity (insert key asked) := by
  unfold BoundedMap.getOrDerive at hok ⊢
  cases hfind : m.find? key with
  | some found =>
    rw [Finset.insert_eq_of_mem (h.mem_asked key (mem_keys_of_find? hfind))]
    exact h
  | none =>
    cases hderive : derive () with
    | ok derived => exact h.insertNew choice (find?_eq_none.1 hfind) derived
    | error e =>
      rw [hfind, hderive] at hok
      cases hok

end Fills

/-- What was asked for with success is stored, if anything is. -/
theorem find?_getOrDerive (hpos : 0 < m.capacity)
    (hok : (m.getOrDerive choice key derive).1 = .ok value) :
    (m.getOrDerive choice key derive).2.find? key = some value := by
  unfold getOrDerive at hok ⊢
  cases hfind : m.find? key with
  | some found =>
    rw [hfind] at hok
    cases hok
    exact hfind
  | none =>
    cases hderive : derive () with
    | ok derived =>
      rw [hfind, hderive] at hok
      cases hok
      simp [insertNew, Nat.ne_of_gt hpos, find?]
    | error e =>
      rw [hfind, hderive] at hok
      cases hok

/-! ## Entries that are given up -/

section

variable [DecidableEq ν]

/-- The entries that a later map does not have. -/
def lost (m later : BoundedMap κ ν) : List (κ × ν) :=
  m.entries.filter fun entry => entry ∉ later.entries

theorem lost_eq_nil {later : BoundedMap κ ν} (h : m.entries ⊆ later.entries) : m.lost later = [] :=
  List.filter_eq_nil_iff.2 fun _ hentry => by simpa using h hentry

@[simp] theorem lost_self : m.lost m = [] := lost_eq_nil (List.Subset.refl _)

/-- Of the entries of a list, those that are missing when one is taken out. -/
theorem length_filter_notMem_le {entries later : List (κ × ν)} {i : Nat} (h : i < entries.length)
    (hkept : entries.eraseIdx i ⊆ later) :
    (entries.filter fun entry => entry ∉ later).length ≤ 1 := by
  have hperm := (List.getElem_cons_eraseIdx_perm h).filter fun entry => decide (entry ∉ later)
  have hrest : (entries.eraseIdx i).filter (fun entry => decide (entry ∉ later)) = [] :=
    List.filter_eq_nil_iff.2 fun _ hentry => by simpa using hkept hentry
  rw [← hperm.length_eq, List.filter_cons, hrest]
  split <;> simp

theorem length_lost_insertNew_le : (m.lost (m.insertNew choice key value)).length ≤ 1 := by
  unfold insertNew
  split
  · simp
  · next hpos =>
    by_cases hfull : m.capacity ≤ m.entries.length
    · have hchoice : choice % m.entries.length < m.entries.length := Nat.mod_lt _ (by omega)
      refine length_filter_notMem_le hchoice fun entry hentry => List.mem_cons_of_mem _ ?_
      rwa [makeRoom, if_pos hfull]
    · rw [lost_eq_nil fun entry hentry => List.mem_cons_of_mem _ (by rwa [makeRoom, if_neg hfull])]
      exact Nat.zero_le 1

theorem lost_insertNew_of_lt (h : m.size < m.capacity) :
    m.lost (m.insertNew choice key value) = [] := by
  have hroom : m.makeRoom choice = m.entries := if_neg (Nat.not_le_of_lt h)
  refine lost_eq_nil fun entry hentry => ?_
  rw [insertNew, if_neg (Nat.ne_of_gt (Nat.zero_lt_of_lt h)), hroom]
  exact List.mem_cons_of_mem _ hentry

/-- A call gives up one entry at most. -/
theorem length_lost_getOrDerive_le :
    (m.lost (m.getOrDerive choice key derive).2).length ≤ 1 := by
  unfold getOrDerive
  split
  · simp
  · split
    · exact length_lost_insertNew_le
    · simp

/-- A call gives up nothing while there is room. -/
theorem lost_getOrDerive_of_lt (h : m.size < m.capacity) :
    m.lost (m.getOrDerive choice key derive).2 = [] := by
  unfold getOrDerive
  split
  · simp
  · split
    · exact lost_insertNew_of_lt h
    · simp

end

end UtxoCodec.BoundedMap
