import UtxoCodec.Proofs.Canonical
import UtxoCodec.Proofs.Collection

/-!
# Order of values and of their binary forms

Identifiers, addresses and output identifiers are ordered as their binary forms are in a dictionary
(`OrderedAsPacked`), so whether values are sorted before they are packed or after makes no difference.

All of it comes from comparing byte strings piece by piece (`Bytes.compare_append`), where the first
pieces have one length. For addresses the first piece is the kind, and the kinds grow with the rank.
For output identifiers the last piece is the position, whose bytes stand in the wrong order for a
dictionary: least significant first. They are compared as the number is for as long as the second byte
is zero, which the range of positions sees to.

Main statement: `values_ordered_as_packed`.
-/

namespace UtxoCodec

/-! ## Byte strings in pieces -/

namespace Bytes

theorem compare_append {xs ys us vs : Bytes} (h : xs.length = ys.length) :
    compare (xs ++ us) (ys ++ vs) = (compare xs ys).then (compare us vs) := by
  induction xs generalizing ys with
  | nil =>
    obtain rfl : ys = [] := List.length_eq_zero_iff.1 h.symm
    simp
  | cons x xs ih =>
    cases ys with
    | nil => simp at h
    | cons y ys =>
      have htail : xs.length = ys.length := by simpa using h
      rw [List.cons_append, List.cons_append, List.compare_cons_cons, List.compare_cons_cons,
        ih htail, Ordering.then_assoc]

theorem append_lt_append {xs ys us vs : Bytes} (hlen : xs.length = ys.length) (h : xs < ys) :
    xs ++ us < ys ++ vs := by
  apply compare_eq_lt.1
  rw [compare_append hlen, compare_eq_lt.2 h]
  rfl

theorem littleEndian_two_of_lt {n : Nat} (h : n < 256) : littleEndian 2 n = [UInt8.ofNat n, 0] := by
  have hhigh : n / 256 = 0 := by omega
  simp [littleEndian, hhigh]

/-- Two bytes are compared as the number if the number fits the first of them. -/
theorem compare_littleEndian_two {m n : UInt16} (hm : m.toNat < 256) (hn : n.toNat < 256) :
    compare (littleEndian 2 m.toNat) (littleEndian 2 n.toNat) = compare m n := by
  have hlow : ∀ k : UInt16, k.toNat < 256 → (UInt8.ofNat k.toNat).toNat = k.toNat := by
    intro k hk
    simpa using Nat.mod_eq_of_lt hk
  -- the low bytes are the numbers, so both orders are that of natural numbers
  have hbyte : compare (UInt8.ofNat m.toNat) (UInt8.ofNat n.toNat) = compare m n := by
    cases hc : compare m n with
    | lt =>
      apply Std.compare_eq_lt.2
      rw [UInt8.lt_iff_toNat_lt, hlow m hm, hlow n hn]
      exact UInt16.lt_iff_toNat_lt.1 (Std.compare_eq_lt.1 hc)
    | eq =>
      rw [Std.compare_eq_iff_eq.1 hc]
      exact Std.ReflCmp.compare_self
    | gt =>
      apply Std.compare_eq_gt.2
      rw [UInt8.lt_iff_toNat_lt, hlow m hm, hlow n hn]
      exact UInt16.lt_iff_toNat_lt.1 (Std.compare_eq_gt.1 hc)
  rw [littleEndian_two_of_lt hm, littleEndian_two_of_lt hn, List.compare_cons_cons, hbyte]
  simp

end Bytes

/-! ## Values -/

/-- Those of the values that are `sound` are ordered as their binary forms are in a dictionary. -/
structure OrderedAsPacked (α : Type) [Ord α] [Packable α] (sound : α → Prop) : Prop where
  compare_eq : ∀ a b : α, sound a → sound b → compare a b = compare (pack a) (pack b)
  lt_iff : ∀ a b : α, sound a → sound b → (compare a b = .lt ↔ pack a < pack b)
  gt_iff : ∀ a b : α, sound a → sound b → (compare a b = .gt ↔ pack b < pack a)
  eq_iff_pack : ∀ a b : α, sound a → sound b → (compare a b = .eq ↔ pack a = pack b)
  eq_iff : ∀ a b : α, sound a → sound b → (compare a b = .eq ↔ a = b)
  /-- Sorting the values sorts the binary forms. -/
  map_sort : ∀ items : List α, (∀ a ∈ items, sound a) →
    (items.mergeSort fun a b => (compare a b).isLE).map pack = sortBy id (items.map pack)

/-- Comparing the binary forms is all there is to show, if they tell the values apart. -/
theorem OrderedAsPacked.of_compare {α : Type} [Ord α] [Packable α] [LawfulPackable α]
    {sound : α → Prop} (hverify : ∀ a : α, sound a → verify a = .ok ())
    (hcompare : ∀ a b : α, sound a → sound b → compare a b = compare (pack a) (pack b)) :
    OrderedAsPacked α sound where
  compare_eq := hcompare
  lt_iff a b ha hb := by
    rw [hcompare a b ha hb]
    exact Bytes.compare_eq_lt
  gt_iff a b ha hb := by
    rw [hcompare a b ha hb, Std.OrientedCmp.gt_iff_lt]
    exact Bytes.compare_eq_lt
  eq_iff_pack a b ha hb := by
    rw [hcompare a b ha hb]
    exact Std.compare_eq_iff_eq
  eq_iff a b ha hb := by
    rw [hcompare a b ha hb, Std.compare_eq_iff_eq]
    constructor
    · intro heq
      exact (LawfulPackable.canonical α).pack_injective a b (hverify a ha) (hverify b hb) heq
    · intro heq
      rw [heq]
  map_sort items hitems := by
    apply List.map_mergeSort
    intro a ha b hb
    rw [hcompare a b (hitems a ha) (hitems b hb), Bool.eq_iff_iff, Bytes.isLE_compare]
    simp

theorem Identifier.orderedAsPacked (kind : IdKind) :
    OrderedAsPacked (Identifier kind) fun _ => True :=
  .of_compare (fun _ _ => rfl) fun _ _ _ _ => rfl

namespace Address

theorem compare_kind (a b : Address) : compare a.kind b.kind = compare a.rank b.rank := by
  cases a <;> cases b <;> rfl

theorem orderedAsPacked : OrderedAsPacked Address fun _ => True := by
  refine .of_compare (fun _ _ => rfl) ?_
  intro a b _ _
  have hpack : compare (pack a) (pack b) =
      (compare a.kind b.kind).then (compare a.idBytes b.idBytes) := List.compare_cons_cons
  rw [hpack, compare_kind]
  rfl

end Address

namespace OutputId

theorem orderedAsPacked : OrderedAsPacked OutputId fun id => id.index.toNat ≤ 127 := by
  refine .of_compare ?_ ?_
  · intro id h
    exact if_pos h
  · intro a b ha hb
    have hlen : a.transactionId.bytes.length = b.transactionId.bytes.length :=
      a.transactionId.length_eq.trans b.transactionId.length_eq.symm
    have hpack : compare (pack a) (pack b) =
        (compare a.transactionId.bytes b.transactionId.bytes).then
          (compare (Bytes.littleEndian 2 a.index.toNat) (Bytes.littleEndian 2 b.index.toNat)) :=
      Bytes.compare_append hlen
    rw [hpack, Bytes.compare_littleEndian_two (by omega) (by omega)]
    rfl

/-- Beyond the range of positions the low byte comes first and decides. -/
example : compare (⟨.null, 255⟩ : OutputId) ⟨.null, 256⟩ = .lt ∧
    compare (pack (⟨.null, 255⟩ : OutputId)) (pack (⟨.null, 256⟩ : OutputId)) = .gt := by
  decide

end OutputId

/-! ## Native tokens -/

namespace NativeTokens

variable {ts : NativeTokens}

/-- The identifiers increase and have one length, so whatever stands behind them increases too. -/
theorem increasing_map_pack (h : ts.verify = .ok ()) : (ts.items.map pack).Pairwise (· < ·) := by
  have hids : ts.items.Pairwise fun t u => t.id.bytes < u.id.bytes :=
    List.pairwise_map.1 (verify_iff_increasing.1 h).2.1
  apply List.pairwise_map.2
  apply hids.imp
  intro t u hlt
  exact Bytes.append_lt_append (t.id.length_eq.trans u.id.length_eq.symm) hlt

theorem mergeSort_of_perm {tokens : List NativeToken} (h : ts.verify = .ok ())
    (hperm : tokens.Perm ts.items) :
    (tokens.mergeSort fun a b => (compare a.id b.id).isLE) = ts.items := by
  have hof : ofList tokens = .ok ts := (ofList_of_perm hperm).trans (ofList_items h)
  obtain ⟨-, hts⟩ := Outcome.check_eq_ok.1 hof
  rw [← hts]

theorem sortBy_map_pack_of_perm {tokens : List NativeToken} (h : ts.verify = .ok ())
    (hperm : tokens.Perm ts.items) : sortBy id (tokens.map pack) = ts.items.map pack := by
  -- the order of the tokens is one in which the forms increase, and there is only one such order
  apply sortBy_eq_of_perm (hperm.map pack)
  rw [List.map_id]
  exact increasing_map_pack h

end NativeTokens

/-- Identifiers, addresses and output identifiers in range are compared as their binary forms are.
The binary forms of the tokens in a collection strictly increase, and sorting the tokens gives those
that sorting their binary forms gives. -/
theorem values_ordered_as_packed :
    (∀ kind, OrderedAsPacked (Identifier kind) fun _ => True) ∧
    OrderedAsPacked Address (fun _ => True) ∧
    OrderedAsPacked OutputId (fun id => id.index.toNat ≤ 127) ∧
    ∀ ts : NativeTokens, ts.verify = .ok () →
      (ts.items.map pack).Pairwise (· < ·) ∧
      ∀ tokens : List NativeToken, tokens.Perm ts.items →
        (tokens.mergeSort fun a b => (compare a.id b.id).isLE) = ts.items ∧
          sortBy id (tokens.map pack) = ts.items.map pack := by
  refine ⟨Identifier.orderedAsPacked, Address.orderedAsPacked, OutputId.orderedAsPacked, ?_⟩
  intro ts h
  refine ⟨NativeTokens.increasing_map_pack h, ?_⟩
  intro tokens hperm
  exact ⟨NativeTokens.mergeSort_of_perm h hperm, NativeTokens.sortBy_map_pack_of_perm h hperm⟩

/-- Serial numbers stand in identifiers with the low byte first, so 256 comes before one. -/
theorem values_ordered_as_packed_serial_numbers :
    let t : NativeToken := ⟨FoundryId.build .null 256 0, 9⟩
    let u : NativeToken := ⟨FoundryId.build .null 1 0, 5⟩
    NativeTokens.verify ⟨[t, u]⟩ = .ok () ∧ [u, t].Perm [t, u] ∧ compare t.id u.id = .lt ∧
      [pack t, pack u].Pairwise (· < ·) ∧
      ([u, t].mergeSort fun a b => (compare a.id b.id).isLE) = [t, u] ∧
      sortBy id [pack u, pack t] = [pack t, pack u] := by
  intro t u
  have hverify : NativeTokens.verify ⟨[t, u]⟩ = .ok () := by decide
  have hperm : [u, t].Perm [t, u] := .swap t u []
  obtain ⟨hincreasing, hsort⟩ := values_ordered_as_packed.2.2.2 ⟨[t, u]⟩ hverify
  have hid : t.id.bytes < u.id.bytes := by decide
  have hcompare : compare t.id u.id = .lt :=
    ((values_ordered_as_packed.1 .foundry).lt_iff t.id u.id trivial trivial).2 hid
  exact ⟨hverify, hperm, hcompare, hincreasing, hsort [u, t] hperm⟩

end UtxoCodec
