import UtxoCodec.Proofs.Outcome
import UtxoCodec.Proofs.Packing.Collection
import UtxoCodec.Proofs.Sorting

/-!
# Collections made from lists

Unlock conditions, features and native tokens are collected from lists in any order: the list is
sorted by key and then checked, neighbours only. Which lists are taken and what is made of them is
one statement for the three (`Collects`), so that the order of neighbours in a sorted list is related
to the elements once. Main statements: `checked_collections`, and that the order of the list has no
influence, on the error no more than on the collection (`ofList_of_perm` of each collection).
-/

namespace UtxoCodec

open Outcome

/-- What making a collection from a list promises. An element has to be `sound`, and no two may have
one key. -/
structure Collects {α κ γ : Type} [LT κ] (ofList : List α → Except EncodingError γ)
    (items : γ → List α) (key : α → κ) (greatest : Nat) (sound : α → Prop) : Prop where
  accepts : ∀ l, (∃ c, ofList l = .ok c) ↔
    l.length ≤ greatest ∧ (l.map key).Nodup ∧ ∀ a ∈ l, sound a
  perm : ∀ l c, ofList l = .ok c → (items c).Perm l
  increasing : ∀ l c, ofList l = .ok c → ((items c).map key).Pairwise (· < ·)
  rebuilt : ∀ l c, ofList l = .ok c → ofList (items c) = .ok c

section

variable {α κ γ : Type} [LE κ] [LT κ] [DecidableLE κ] [Std.IsLinearOrder κ]
  [Std.LawfulOrderLT κ] {ofList : List α → Except EncodingError γ}
  {make : List α → γ} {items : γ → List α} {check : γ → Except EncodingError Unit} {key : α → κ}
  {greatest : Nat} {sound : α → Prop}

omit [Std.IsLinearOrder κ] in
/-- A list that is in order and passes the check is collected as it is. -/
theorem ofList_of_check {l : List α}
    (hof : ∀ l, ofList l = do check (make (sortBy key l)); return make (sortBy key l))
    (hlt : (l.map key).Pairwise (· < ·)) (hcheck : check (make l) = .ok ()) :
    ofList l = .ok (make l) := by
  rw [hof, sortBy_of_increasing hlt]
  exact check_eq_ok.2 ⟨hcheck, rfl⟩

/-- Sorting and then checking that keys strictly increase collects. -/
theorem Collects.of_sortBy
    (hof : ∀ l, ofList l = do check (make (sortBy key l)); return make (sortBy key l))
    (hitems : ∀ l, items (make l) = l)
    (hcheck : ∀ l, check (make l) = .ok () ↔
      l.length ≤ greatest ∧ (l.map key).Pairwise (· < ·) ∧ ∀ a ∈ l, sound a) :
    Collects ofList items key greatest sound := by
  have hsorted : ∀ l, check (make (sortBy key l)) = .ok () ↔
      l.length ≤ greatest ∧ (l.map key).Nodup ∧ ∀ a ∈ l, sound a := by
    intro l
    rw [hcheck, length_sortBy, increasing_sortBy]
    simp only [mem_sortBy]
  have hok : ∀ l c, ofList l = .ok c ↔
      check (make (sortBy key l)) = .ok () ∧ make (sortBy key l) = c := by
    intro l c
    rw [hof, check_eq_ok]
  have hincreasing : ∀ l c, ofList l = .ok c → ((items c).map key).Pairwise (· < ·) := by
    intro l c h
    obtain ⟨hv, rfl⟩ := (hok l c).1 h
    rw [hitems]
    exact ((hcheck _).1 hv).2.1
  refine ⟨fun l => ?_, fun l c h => ?_, hincreasing, fun l c h => ?_⟩
  · rw [← hsorted]
    constructor
    · rintro ⟨c, h⟩
      exact ((hok l c).1 h).1
    · intro hv
      exact ⟨_, (hok l _).2 ⟨hv, rfl⟩⟩
  · obtain ⟨-, rfl⟩ := (hok l c).1 h
    rw [hitems]
    exact sortBy_perm key l
  · have hlt := hincreasing l c h
    obtain ⟨hv, rfl⟩ := (hok l c).1 h
    rw [hitems] at hlt ⊢
    exact ofList_of_check hof hlt hv

omit [LT κ] [Std.LawfulOrderLT κ] in
/-- Sorting and then checking does not see the order of the list, if the check does not and takes
no repeated keys. -/
theorem ofList_of_perm_of_sortBy {l l' : List α}
    (hof : ∀ l, ofList l = do check (make (sortBy key l)); return make (sortBy key l))
    (hperm : l.Perm l') (hcheck : check (make (sortBy key l)) = check (make (sortBy key l')))
    (hnodup : check (make (sortBy key l)) = .ok () → (l.map key).Nodup) :
    ofList l = ofList l' := by
  rw [hof, hof, ← hcheck]
  cases hv : check (make (sortBy key l)) with
  | error e => rfl
  | ok _ => rw [sortBy_of_perm hperm (hnodup hv)]

end

/-! ## Collections sorted by kind -/

namespace SortedKinds

variable {α : Type} {kind : α → UInt8} {what : String} {greatest : Nat}

theorem sort_eq_sortBy (items : List α) : sort kind items = sortBy kind items := rfl

theorem verify_iff_increasing {items : List α} : verify kind what greatest items = .ok () ↔
    items.length ≤ greatest ∧ (items.map kind).Pairwise (· < ·) := by
  rw [verify_eq_ok, verifyOrder_eq_ok]

/-- The check of sorted items does not depend on the order in which they came. -/
theorem verify_sort_of_perm {items others : List α} (h : items.Perm others) :
    verify kind what greatest (sort kind items) = verify kind what greatest (sort kind others) := by
  have hlength : (sort kind items).length = (sort kind others).length :=
    (sortBy_perm_sortBy kind h).length_eq
  unfold verify
  rw [hlength, sort_eq_sortBy, sort_eq_sortBy, verifyOrder_congr (map_sortBy_of_perm h)]

theorem nodup_of_verify_sort {items : List α}
    (h : verify kind what greatest (sort kind items) = .ok ()) : (items.map kind).Nodup :=
  increasing_sortBy.1 (verify_iff_increasing.1 h).2

end SortedKinds

namespace UnlockConditions

theorem collects : Collects ofList items UnlockCondition.kind 7 fun _ => True := by
  refine .of_sortBy (fun _ => rfl) (fun _ => rfl) fun l => ?_
  refine SortedKinds.verify_iff_increasing.trans ?_
  simp [greatestCount]

theorem ofList_items {cs : UnlockConditions} (h : cs.verifyKinds = .ok ()) :
    ofList cs.items = .ok cs :=
  ofList_of_check (fun _ => rfl) (SortedKinds.verify_iff_increasing.1 h).2 h

theorem ofList_of_perm {l l' : List UnlockCondition} (h : l.Perm l') : ofList l = ofList l' :=
  ofList_of_perm_of_sortBy (fun _ => rfl) h (SortedKinds.verify_sort_of_perm h)
    SortedKinds.nodup_of_verify_sort

variable {l : List UnlockCondition} {cs : UnlockConditions} {kind : UInt8}

theorem get?_eq_some (h : ofList l = .ok cs) {c : UnlockCondition} :
    cs.get? kind = some c ↔ c ∈ l ∧ c.kind = kind := by
  have hnodup : (cs.items.map UnlockCondition.kind).Nodup :=
    (collects.increasing l cs h).imp UInt8.ne_of_lt
  rw [← (collects.perm l cs h).mem_iff]
  exact find?_key_eq_some hnodup

theorem get?_eq_none (h : ofList l = .ok cs) :
    cs.get? kind = none ↔ ∀ c ∈ l, c.kind ≠ kind := by
  rw [Option.eq_none_iff_forall_ne_some]
  constructor
  · intro hnone c hc hkind
    exact hnone c ((get?_eq_some h).2 ⟨hc, hkind⟩)
  · intro hnone c hsome
    obtain ⟨hc, hkind⟩ := (get?_eq_some h).1 hsome
    exact hnone c hc hkind

end UnlockConditions

namespace Features

theorem collects : Collects ofList items Feature.kind 4 fun _ => True := by
  refine .of_sortBy (fun _ => rfl) (fun _ => rfl) fun l => ?_
  refine SortedKinds.verify_iff_increasing.trans ?_
  simp [greatestCount]

theorem ofList_items {fs : Features} (h : fs.verifyKinds = .ok ()) : ofList fs.items = .ok fs :=
  ofList_of_check (fun _ => rfl) (SortedKinds.verify_iff_increasing.1 h).2 h

theorem ofList_nil : ofList [] = .ok .empty := ofList_items rfl

theorem ofList_of_perm {l l' : List Feature} (h : l.Perm l') : ofList l = ofList l' :=
  ofList_of_perm_of_sortBy (fun _ => rfl) h (SortedKinds.verify_sort_of_perm h)
    SortedKinds.nodup_of_verify_sort

end Features

/-! ## Native tokens -/

/-- A check that fails in one way only does not depend on the order of the items. -/
theorem verifyAll_of_perm {α : Type} {check : α → Except EncodingError Unit} {e : EncodingError}
    (hcheck : ∀ {a e'}, check a = .error e' → e' = e) {items others : List α}
    (h : items.Perm others) : verifyAll check items = verifyAll check others := by
  induction h with
  | nil => rfl
  | cons a _ ih => rw [verifyAll, verifyAll, ih]
  | swap a b rest =>
    simp only [verifyAll]
    cases ha : check a with
    | ok _ => cases hb : check b <;> rfl
    | error ea =>
      cases hb : check b with
      | ok _ => rfl
      | error eb =>
        rw [hcheck ha, hcheck hb]
  | trans _ _ ih ih' => rw [ih, ih']

theorem NativeToken.eq_of_verify_error {t : NativeToken} {e : EncodingError}
    (h : t.verify = .error e) : e = .nullNativeTokenAmount := by
  unfold verify at h
  split at h
  · cases h
    rfl
  · cases h

namespace NativeTokens

/-- Tokens are sorted by the bytes of their identifiers. -/
theorem ofList_eq (l : List NativeToken) : ofList l =
    (do let ts : NativeTokens := ⟨sortBy (fun t => t.id.bytes) l⟩
        ts.verify
        return ts) := by
  have hle : (fun a b : NativeToken => (compare a.id b.id).isLE) =
      fun a b => decide (a.id.bytes ≤ b.id.bytes) := by
    funext a b
    exact Bool.eq_iff_iff.2 (Bytes.isLE_compare.trans decide_eq_true_iff.symm)
  unfold ofList sortBy
  rw [hle]

theorem collects :
    Collects ofList items (fun t => t.id.bytes) 64 fun t => t.amount ≠ 0 := by
  have hcheck : ∀ l, verify ⟨l⟩ = .ok () ↔ l.length ≤ 64 ∧
      (l.map fun t : NativeToken => t.id.bytes).Pairwise (· < ·) ∧ ∀ t ∈ l, t.amount ≠ 0 :=
    fun _ => verify_iff_increasing
  exact .of_sortBy ofList_eq (fun _ => rfl) hcheck

theorem ofList_items {ts : NativeTokens} (h : ts.verify = .ok ()) : ofList ts.items = .ok ts :=
  ofList_of_check ofList_eq (verify_iff_increasing.1 h).2.1 h

theorem ofList_nil : ofList [] = .ok .empty := ofList_items rfl

theorem ofList_of_perm {l l' : List NativeToken} (h : l.Perm l') : ofList l = ofList l' := by
  refine ofList_of_perm_of_sortBy ofList_eq h ?_ fun hv =>
    increasing_sortBy.1 (verify_iff_increasing.1 hv).2.1
  have hsorted := sortBy_perm_sortBy (fun t => t.id.bytes) h
  unfold verify
  rw [hsorted.length_eq, verifyAll_of_perm NativeToken.eq_of_verify_error hsorted,
    verifyOrder_congr (map_sortBy_of_perm h)]

end NativeTokens

/-! ## The three collections -/

/-- A list is collected if and only if it is not too long, no two of its elements have one key and
no native token has the amount zero. The collection holds its elements, strictly increasing, and is
collected from its own elements again. A condition is found by its kind, whichever the list had. -/
theorem checked_collections :
    Collects UnlockConditions.ofList UnlockConditions.items UnlockCondition.kind 7
      (fun _ => True) ∧
    Collects Features.ofList Features.items Feature.kind 4 (fun _ => True) ∧
    Collects NativeTokens.ofList NativeTokens.items (fun t => t.id.bytes) 64
      (fun t => t.amount ≠ 0) ∧
    ∀ l cs, UnlockConditions.ofList l = .ok cs → ∀ kind,
      (∀ c, cs.get? kind = some c ↔ c ∈ l ∧ c.kind = kind) ∧
        (cs.get? kind = none ↔ ∀ c ∈ l, c.kind ≠ kind) := by
  refine ⟨UnlockConditions.collects, Features.collects, NativeTokens.collects, ?_⟩
  intro l cs h kind
  exact ⟨fun c => UnlockConditions.get?_eq_some h, UnlockConditions.get?_eq_none h⟩

/-- Conditions in decreasing order, one of them unrecognized. -/
theorem checked_collections_decreasing :
    let unrecognized := UnlockCondition.unknown ⟨9, .fields []⟩
    let owner := UnlockCondition.address (.ed25519 .null)
    UnlockConditions.ofList [unrecognized, .timelock ⟨1⟩, owner] =
        .ok ⟨[owner, .timelock ⟨1⟩, unrecognized]⟩ ∧
      UnlockConditions.get? ⟨[owner, .timelock ⟨1⟩, unrecognized]⟩ 9 = some unrecognized := by
  intro unrecognized owner
  have hsort : SortedKinds.sort UnlockCondition.kind [unrecognized, .timelock ⟨1⟩, owner] =
      [owner, .timelock ⟨1⟩, unrecognized] :=
    sortBy_eq_of_perm (List.reverse_perm [owner, .timelock ⟨1⟩, unrecognized]) (by decide)
  have hof : UnlockConditions.ofList [unrecognized, .timelock ⟨1⟩, owner] =
      .ok ⟨[owner, .timelock ⟨1⟩, unrecognized]⟩ := by
    unfold UnlockConditions.ofList
    rw [hsort]
    rfl
  have hget := (checked_collections.2.2.2 _ _ hof 9).1 unrecognized
  exact ⟨hof, hget.2 ⟨by simp, rfl⟩⟩

end UtxoCodec
