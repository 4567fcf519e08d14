import UtxoCodec.Json.Parser

/-!
# Objects in increasing order

Objects are compared by what their keys are looked up as. `ofFields` puts fields in increasing
order and keeps every look-up of fields with different keys; two increasing lists of fields with
the same look-ups are equal (`fields_ext`). A value is canonical if and only if sorting leaves it
as it is (`canonical_iff_sorted`), so every value that is read from a text is canonical
(`canonical_of_parse`).
-/

namespace UtxoCodec.Json

/-- The keys of fields, in order. -/
def keys (fields : List Field) : List String := fields.map Prod.fst

/-! ## Look-ups -/

@[simp] theorem find?_nil (key : String) : find? [] key = none := rfl

theorem find?_cons (k : String) (v : Json) (rest : List Field) (key : String) :
    find? ((k, v) :: rest) key = if key = k then some v else find? rest key := by
  unfold find?
  rw [List.lookup_cons]
  by_cases h : key = k
  · rw [if_pos h, beq_iff_eq.2 h]
  · rw [if_neg h, beq_eq_false_iff_ne.2 h]

theorem find?_append (fields others : List Field) (key : String) :
    find? (fields ++ others) key = (find? fields key).or (find? others key) :=
  List.lookup_append

theorem find?_eq_none {fields : List Field} {key : String} :
    find? fields key = none ↔ key ∉ keys fields := by
  induction fields with
  | nil => simp [keys]
  | cons field rest ih =>
    obtain ⟨k, v⟩ := field
    rw [find?_cons]
    by_cases h : key = k
    · simp [h, keys]
    · simp [h, ih, keys]

theorem mem_of_find? {fields : List Field} {key : String} {j : Json}
    (h : find? fields key = some j) : (key, j) ∈ fields := by
  induction fields with
  | nil => cases h
  | cons field rest ih =>
    obtain ⟨k, v⟩ := field
    rw [find?_cons] at h
    split at h
    · next hk =>
      cases h
      rw [hk]
      exact List.mem_cons_self
    · exact List.mem_cons_of_mem _ (ih h)

/-- Fields that are kept by their keys are looked up as before. -/
theorem find?_filter (p : String → Bool) (fields : List Field) (key : String) :
    find? (fields.filter fun field => p field.1) key =
      if p key then find? fields key else none := by
  induction fields with
  | nil => simp
  | cons field rest ih =>
    obtain ⟨k, v⟩ := field
    rw [List.filter_cons, find?_cons]
    by_cases hk : p k
    · rw [if_pos hk, find?_cons, ih]
      by_cases hkey : key = k
      · rw [if_pos hkey, if_pos hkey, hkey, if_pos hk]
      · rw [if_neg hkey, if_neg hkey]
    · rw [if_neg hk, ih]
      by_cases hkey : key = k
      · rw [hkey, if_neg hk, if_neg hk]
      · rw [if_neg hkey]

theorem find?_erase (fields : List Field) (erased key : String) :
    find? (erase fields erased) key = if key = erased then none else find? fields key := by
  refine (find?_filter (fun k => decide (k ≠ erased)) fields key).trans ?_
  by_cases h : key = erased <;> simp [h]

/-! ## Increasing fields -/

theorem lt_of_not_lt_of_ne {a b : String} (h : ¬ a < b) (hne : a ≠ b) : b < a := by
  by_cases hlt : b < a
  · exact hlt
  · exact absurd (String.le_antisymm (String.not_lt.1 hlt) (String.not_lt.1 h)) hne

theorem KeysIncrease.nodup {fields : List Field} (h : KeysIncrease fields) :
    (keys fields).Nodup := by
  refine List.pairwise_map.2 (h.imp fun {a b} hlt heq => ?_)
  rw [heq] at hlt
  exact String.lt_irrefl _ hlt

theorem KeysIncrease.filter {fields : List Field} (h : KeysIncrease fields) (p : Field → Bool) :
    KeysIncrease (fields.filter p) :=
  List.Pairwise.filter p h

/-- No key of increasing fields is before the first one. -/
theorem find?_of_lt_head {k key : String} {v : Json} {rest : List Field}
    (h : KeysIncrease ((k, v) :: rest)) (hlt : key < k) : find? ((k, v) :: rest) key = none := by
  rw [find?_eq_none]
  intro hmem
  rcases List.mem_cons.1 hmem with rfl | hmem
  · exact String.lt_irrefl _ hlt
  · obtain ⟨field, hfield, rfl⟩ := List.mem_map.1 hmem
    have hafter := (List.pairwise_cons.1 h).1 field hfield
    exact String.lt_irrefl _ (String.lt_trans hlt hafter)

/-- Increasing fields are determined by what their keys are looked up as. -/
theorem fields_ext : ∀ {fields others : List Field}, KeysIncrease fields → KeysIncrease others →
    (∀ key, find? fields key = find? others key) → fields = others
  | [], [], _, _, _ => rfl
  | [], (k, v) :: rest, _, _, heq => by
    have h := heq k
    rw [find?_cons, if_pos rfl] at h
    cases h
  | (k, v) :: rest, [], _, _, heq => by
    have h := heq k
    rw [find?_cons, if_pos rfl] at h
    cases h
  | (k, v) :: rest, (k', v') :: rest', hinc, hinc', heq => by
    have hk : k = k' := by
      have h := heq k
      have h' := heq k'
      rw [find?_cons, if_pos rfl] at h
      rw [find?_cons k' v', if_pos rfl] at h'
      by_cases hlt : k < k'
      · rw [find?_of_lt_head hinc' hlt] at h
        cases h
      by_cases hgt : k' < k
      · rw [find?_of_lt_head hinc hgt] at h'
        cases h'
      · exact String.le_antisymm (String.not_lt.1 hgt) (String.not_lt.1 hlt)
    subst hk
    have hv : v = v' := by
      have h := heq k
      rw [find?_cons, find?_cons, if_pos rfl, if_pos rfl] at h
      exact Option.some.inj h
    have hrest : rest = rest' := by
      refine fields_ext (List.pairwise_cons.1 hinc).2 (List.pairwise_cons.1 hinc').2 fun key => ?_
      by_cases hkey : key = k
      · rw [hkey, find?_eq_none.2 (List.nodup_cons.1 hinc.nodup).1,
          find?_eq_none.2 (List.nodup_cons.1 hinc'.nodup).1]
      · have h := heq key
        rwa [find?_cons, find?_cons, if_neg hkey, if_neg hkey] at h
    rw [hv, hrest]

/-! ## Putting fields in order -/

theorem find?_insert (key : String) (value : Json) (fields : List Field) (k : String) :
    find? (insert key value fields) k = if k = key then some value else find? fields k := by
  induction fields with
  | nil => rw [insert, find?_cons]
  | cons field rest ih =>
    obtain ⟨l, v⟩ := field
    rw [insert]
    by_cases hlt : key < l
    · rw [if_pos hlt, find?_cons]
    rw [if_neg hlt]
    by_cases heq : key = l
    · rw [if_pos heq, find?_cons, find?_cons, heq]
      by_cases hk : k = l
      · rw [if_pos hk, if_pos hk]
      · rw [if_neg hk, if_neg hk, if_neg hk]
    · rw [if_neg heq, find?_cons, find?_cons, ih]
      by_cases hk : k = l
      · have hne : k ≠ key := by
          rintro rfl
          exact heq hk
        rw [if_pos hk, if_neg hne, if_pos hk]
      · rw [if_neg hk, if_neg hk]

theorem mem_insert {key : String} {value : Json} {fields : List Field} {field : Field}
    (h : field ∈ insert key value fields) : field = (key, value) ∨ field ∈ fields := by
  induction fields with
  | nil => exact .inl (List.mem_singleton.1 h)
  | cons first rest ih =>
    obtain ⟨l, v⟩ := first
    rw [insert] at h
    split at h
    · exact List.mem_cons.1 h
    split at h
    · rcases List.mem_cons.1 h with heq | hmem
      · exact .inl heq
      · exact .inr (List.mem_cons_of_mem _ hmem)
    · rcases List.mem_cons.1 h with heq | hmem
      · exact .inr (heq ▸ List.mem_cons_self)
      · exact (ih hmem).imp_right (List.mem_cons_of_mem _)

theorem KeysIncrease.insert {fields : List Field} (h : KeysIncrease fields) (key : String)
    (value : Json) : KeysIncrease (insert key value fields) := by
  induction fields with
  | nil => exact List.pairwise_singleton _ _
  | cons first rest ih =>
    obtain ⟨l, v⟩ := first
    obtain ⟨hhead, htail⟩ := List.pairwise_cons.1 h
    rw [Json.insert]
    split
    · next hlt =>
      refine List.pairwise_cons.2 ⟨fun field hmem => ?_, h⟩
      rcases List.mem_cons.1 hmem with rfl | hmem
      · exact hlt
      · exact String.lt_trans hlt (hhead field hmem)
    split
    · next heq =>
      subst heq
      exact List.pairwise_cons.2 ⟨hhead, htail⟩
    · next hlt hne =>
      refine List.pairwise_cons.2 ⟨fun field hmem => ?_, ih htail⟩
      rcases mem_insert hmem with rfl | hmem
      · exact lt_of_not_lt_of_ne hlt hne
      · exact hhead field hmem

theorem mem_ofFields {fields : List Field} {field : Field} (h : field ∈ ofFields fields) :
    field ∈ fields := by
  have hfold : ∀ (fields done : List Field),
      field ∈ fields.foldl (fun done field => insert field.1 field.2 done) done →
        field ∈ fields ∨ field ∈ done := by
    intro fields
    induction fields with
    | nil => exact fun done h => .inr h
    | cons first rest ih =>
      intro done h
      rcases ih _ h with hmem | hmem
      · exact .inl (List.mem_cons_of_mem _ hmem)
      · rcases mem_insert hmem with rfl | hmem
        · exact .inl List.mem_cons_self
        · exact .inr hmem
  exact (hfold fields [] h).resolve_right (List.not_mem_nil)

/-- Fields that were put in order increase. -/
theorem keysIncrease_ofFields (fields : List Field) : KeysIncrease (ofFields fields) := by
  have hfold : ∀ (fields done : List Field), KeysIncrease done →
      KeysIncrease (fields.foldl (fun done field => insert field.1 field.2 done) done) := by
    intro fields
    induction fields with
    | nil => exact fun done h => h
    | cons first rest ih => exact fun done h => ih _ (h.insert first.1 first.2)
  exact hfold fields [] List.Pairwise.nil

/-- Putting fields with different keys in order keeps what keys are looked up as. -/
theorem find?_ofFields {fields : List Field} (hnodup : (keys fields).Nodup) (key : String) :
    find? (ofFields fields) key = find? fields key := by
  have hfold : ∀ (fields done : List Field), (keys fields).Nodup →
      find? (fields.foldl (fun done field => insert field.1 field.2 done) done) key =
        (find? fields key).or (find? done key) := by
    intro fields
    induction fields with
    | nil => exact fun done _ => rfl
    | cons first rest ih =>
      intro done hnodup
      obtain ⟨k, v⟩ := first
      obtain ⟨hk, hrest⟩ := List.nodup_cons.1 hnodup
      rw [List.foldl_cons, ih _ hrest, find?_insert, find?_cons]
      by_cases hkey : key = k
      · subst hkey
        rw [find?_eq_none.2 hk]
        simp
      · rw [if_neg hkey, if_neg hkey]
  rw [ofFields, hfold fields [] hnodup, find?_nil, Option.or_none]

/-- Increasing fields are in order already. -/
theorem ofFields_of_keysIncrease {fields : List Field} (h : KeysIncrease fields) :
    ofFields fields = fields :=
  fields_ext (keysIncrease_ofFields fields) h (find?_ofFields h.nodup)

/-! ## Canonical values -/

theorem sortedFields_append (fields others : List Field) :
    sortedFields (fields ++ others) = sortedFields fields ++ sortedFields others := by
  induction fields with
  | nil => rfl
  | cons field rest ih =>
    obtain ⟨k, v⟩ := field
    rw [List.cons_append, sortedFields, sortedFields, ih, List.cons_append]

@[simp] theorem keys_sortedFields (fields : List Field) :
    keys (sortedFields fields) = keys fields := by
  induction fields with
  | nil => rfl
  | cons field rest ih =>
    obtain ⟨k, v⟩ := field
    rw [sortedFields]
    exact congrArg (k :: ·) ih

theorem sortedItems_eq_map (items : List Json) : sortedItems items = items.map sorted := by
  induction items with
  | nil => rfl
  | cons item rest ih => rw [sortedItems, ih, List.map_cons]

theorem find?_sortedFields (fields : List Field) (key : String) :
    find? (sortedFields fields) key = (find? fields key).map sorted := by
  induction fields with
  | nil => rfl
  | cons field rest ih =>
    obtain ⟨k, v⟩ := field
    rw [sortedFields, find?_cons, find?_cons, ih]
    by_cases h : key = k
    · rw [if_pos h, if_pos h, Option.map_some]
    · rw [if_neg h, if_neg h]

theorem canonicalItems_iff {items : List Json} :
    CanonicalItems items ↔ ∀ j ∈ items, Canonical j := by
  induction items with
  | nil => simp [CanonicalItems]
  | cons item rest ih => rw [CanonicalItems, ih, List.forall_mem_cons]

theorem canonicalFields_iff {fields : List Field} :
    CanonicalFields fields ↔ ∀ field ∈ fields, Canonical field.2 := by
  induction fields with
  | nil => simp [CanonicalFields]
  | cons field rest ih => rw [CanonicalFields, ih, List.forall_mem_cons]

theorem CanonicalFields.filter {fields : List Field} (h : CanonicalFields fields)
    (p : Field → Bool) : CanonicalFields (fields.filter p) :=
  canonicalFields_iff.2 fun field hmem =>
    canonicalFields_iff.1 h field (List.mem_filter.1 hmem).1

mutual

/-- Sorting makes a value canonical. -/
theorem canonical_sorted : ∀ j : Json, Canonical (sorted j)
  | .array items => canonicalItems_sorted items
  | .object fields =>
    ⟨keysIncrease_ofFields _, canonicalFields_iff.2 fun field hmem =>
      canonicalFields_iff.1 (canonicalFields_sorted fields) field (mem_ofFields hmem)⟩
  | .null | .bool _ | .number _ | .string _ => trivial

theorem canonicalItems_sorted : ∀ items : List Json, CanonicalItems (sortedItems items)
  | [] => trivial
  | item :: rest => ⟨canonical_sorted item, canonicalItems_sorted rest⟩

theorem canonicalFields_sorted : ∀ fields : List Field, CanonicalFields (sortedFields fields)
  | [] => trivial
  | (_, value) :: rest => ⟨canonical_sorted value, canonicalFields_sorted rest⟩

end

mutual

/-- Sorting leaves a canonical value as it is. -/
theorem sorted_of_canonical : ∀ {j : Json}, Canonical j → sorted j = j
  | .array _, h => congrArg Json.array (sortedItems_of_canonical h)
  | .object fields, h => by
    rw [sorted, sortedFields_of_canonical h.2, ofFields_of_keysIncrease h.1]
  | .null, _ | .bool _, _ | .number _, _ | .string _, _ => rfl

theorem sortedItems_of_canonical : ∀ {items : List Json}, CanonicalItems items →
    sortedItems items = items
  | [], _ => rfl
  | item :: rest, h => by
    rw [sortedItems, sorted_of_canonical h.1, sortedItems_of_canonical h.2]

theorem sortedFields_of_canonical : ∀ {fields : List Field}, CanonicalFields fields →
    sortedFields fields = fields
  | [], _ => rfl
  | (_, value) :: rest, h => by
    rw [sortedFields, sorted_of_canonical h.1, sortedFields_of_canonical h.2]

end

/-- A value is canonical if and only if sorting leaves it as it is. -/
theorem canonical_iff_sorted {j : Json} : j.Canonical ↔ j.sorted = j :=
  ⟨sorted_of_canonical, fun h => h ▸ canonical_sorted j⟩

instance (j : Json) : Decidable j.Canonical :=
  decidable_of_iff (j.sorted = j) canonical_iff_sorted.symm

/-- Every value that is read from a text is canonical. -/
theorem canonical_of_parse {text : String} {j : Json} (h : parse? text = some j) : Canonical j := by
  obtain ⟨entries, -, rfl⟩ := Option.map_eq_some_iff.1 h
  exact canonical_sorted entries

end UtxoCodec.Json
