import UtxoCodec.Proofs.Json.Record

/-!
# Readings that conclude

Reading hexadecimal text comes to no outcome for one kind of text only, a single character of
several bytes (`Hex.LoneWide`). A JSON value is tame if no text in it, at any depth, is of that
kind. A reader concludes if on tame values it fails with nothing but proper errors; records conclude
if the readers of their fields do (`Record.Concludes`), whichever way the fields come to them.
-/

namespace UtxoCodec

open Outcome

/-! ## Hexadecimal text -/

namespace Hex

/-- The text is one character of several bytes. -/
def LoneWide (text : String) : Prop := ∃ c, text.toList = [c] ∧ 1 < c.utf8Size

theorem length_ofChars_singleton (c : Char) : (Bytes.ofChars [c]).length = c.utf8Size := by
  simp [Bytes.ofChars]

/-- There is no second character to report in such a text, and in no other. -/
theorem stripPrefix_eq_abort {text : String} :
    stripPrefix text = .error .abort ↔ LoneWide text := by
  unfold stripPrefix LoneWide
  cases hcs : text.toList with
  | nil => simp [Bytes.ofChars]
  | cons c rest =>
    cases rest with
    | nil =>
      simp only [length_ofChars_singleton]
      by_cases hwide : c.utf8Size < 2
      · simp [hwide]
        omega
      · simp [hwide]
        omega
    | cons d rest =>
      have hlong : ¬ ∃ a, c :: d :: rest = [a] ∧ 1 < a.utf8Size := by simp
      refine iff_of_false (fun h => ?_) hlong
      split at h
      · cases h
      split at h <;> cases h

/-- What comes behind the prefix is read to an outcome, so the prefix alone decides. -/
theorem stripPrefix_bind_eq_abort {α : Type} {text : String} {f : List Char → Except Fault α}
    (hf : ∀ cs, FailsWith (· ≠ .abort) (f cs)) :
    (stripPrefix text >>= f) = .error .abort ↔ LoneWide text := by
  rw [← stripPrefix_eq_abort]
  cases stripPrefix text with
  | error fault => simp [bind, Except.bind]
  | ok cs =>
    refine iff_of_false (fun h => ?_) (fun h => ?_)
    · exact hf cs .abort h rfl
    · cases h

theorem readDigit_ne_abort (b : UInt8) (position : Nat) :
    FailsWith (· ≠ .abort) (readDigit b position) := by
  unfold readDigit
  split
  · exact .ok _
  · exact .error (by simp)

theorem readPairs_ne_abort (position : Nat) (bytes : Bytes) :
    FailsWith (· ≠ .abort) (readPairs position bytes) := by
  induction position, bytes using readPairs.induct with
  | case1 position high low rest ih =>
    rw [readPairs]
    exact .bind (readDigit_ne_abort _ _) fun _ _ => .bind (readDigit_ne_abort _ _) fun _ _ =>
      .bind ih fun _ _ => .ok _
  | case2 position bytes hshort =>
    rw [readPairs]
    · exact .ok _
    · exact hshort

theorem decodePlain_ne_abort (cs : List Char) : FailsWith (· ≠ .abort) (decodePlain cs) :=
  .ite (.error (by simp)) (readPairs_ne_abort 0 _)

/-- Reading bytes comes to no outcome on such texts, and on no others. -/
theorem decode_eq_abort {text : String} : decode text = .error .abort ↔ LoneWide text :=
  stripPrefix_bind_eq_abort decodePlain_ne_abort

theorem decode_ne_abort {text : String} (h : ¬ LoneWide text) :
    FailsWith (· ≠ .abort) (decode text) := by
  rintro fault hfault rfl
  exact h (decode_eq_abort.1 hfault)

/-- Reading a number comes to no outcome on the same texts. -/
theorem decodeNumber_eq_abort {text : String} :
    decodeNumber text = .error .abort ↔ LoneWide text := by
  refine stripPrefix_bind_eq_abort fun cs => .ite (.error (by simp)) (.ite (.error (by simp)) ?_)
  split
  · exact .ok _
  · split
    · exact .error (by simp)
    · exact .error (by simp)

theorem decodeNumber_ne_abort {text : String} (h : ¬ LoneWide text) :
    FailsWith (· ≠ .abort) (decodeNumber text) := by
  rintro fault hfault rfl
  exact h (decodeNumber_eq_abort.1 hfault)

end Hex

namespace Json

/-! ## Texts of a value -/

mutual

/-- The strings in a value, at every depth. Keys of objects are not among them. -/
def texts : Json → List String
  | .string s => [s]
  | .array items => itemTexts items
  | .object fields => fieldTexts fields
  | .null | .bool _ | .number _ => []

/-- The strings in items. -/
def itemTexts : List Json → List String
  | [] => []
  | item :: rest => texts item ++ itemTexts rest

/-- The strings in the values of fields. -/
def fieldTexts : List Field → List String
  | [] => []
  | (_, value) :: rest => texts value ++ fieldTexts rest

end

/-- No string in the value is a single character of several bytes. -/
def Tame (j : Json) : Prop := ∀ text ∈ j.texts, ¬ Hex.LoneWide text

theorem tame_string {text : String} : (string text).Tame ↔ ¬ Hex.LoneWide text := by
  simp [Tame, texts]

theorem tame_array {items : List Json} : (array items).Tame ↔ ∀ item ∈ items, item.Tame := by
  induction items with
  | nil => simp [Tame, texts, itemTexts]
  | cons item rest ih =>
    unfold Tame at ih ⊢
    simp only [texts, itemTexts, List.forall_mem_append] at ih ⊢
    rw [ih, List.forall_mem_cons]

theorem tame_object {fields : List Field} :
    (object fields).Tame ↔ ∀ field ∈ fields, field.2.Tame := by
  induction fields with
  | nil => simp [Tame, texts, fieldTexts]
  | cons field rest ih =>
    obtain ⟨key, value⟩ := field
    unfold Tame at ih ⊢
    simp only [texts, fieldTexts, List.forall_mem_append] at ih ⊢
    rw [ih, List.forall_mem_cons]

/-! ## Readers of values -/

variable {α β : Type}

/-- On tame values the reader fails with proper errors only. -/
def Concludes (read : Json → Except JsonError α) : Prop :=
  ∀ j, j.Tame → FailsWith (fun e => e.aborts = false) (read j)

namespace Concludes

theorem readString : Concludes readString := by
  intro j _
  cases j with
  | string s => exact .ok s
  | _ => exact .error rfl

theorem readNat (limit : Nat) : Concludes (readNat limit) := by
  intro j _
  unfold Json.readNat
  split
  · exact .ite (.ok _) (.error rfl)
  · exact .error rfl

theorem readArray {read : Json → Except JsonError α} (h : Concludes read) :
    Concludes (readArray read) := by
  intro j hj
  cases j with
  | array items => exact .mapM fun item hitem => h item (tame_array.1 hj item hitem)
  | _ => exact .error rfl

theorem readNullable {read : Json → Except JsonError α} (h : Concludes read) :
    Concludes (readNullable read) := by
  intro j hj
  unfold Json.readNullable
  split
  · exact .ok none
  · exact .map (h j hj) some

theorem map {read : Json → Except JsonError α} (h : Concludes read) (f : α → β) :
    Concludes fun j => (read j).map f :=
  fun j hj => .map (h j hj) f

/-- A reader of texts concludes if it does for texts that are tame. -/
theorem ofText {read : String → Except JsonError α}
    (h : ∀ text, ¬ Hex.LoneWide text → FailsWith (fun e => e.aborts = false) (read text)) :
    Concludes fun j => Json.readString j >>= read := by
  intro j hj
  cases j with
  | string text => exact h text (tame_string.1 hj)
  | _ => exact .error rfl

theorem readBytes : Concludes readBytes := by
  refine ofText fun text htext => .mapError (Hex.decode_ne_abort htext) fun fault hne => ?_
  cases fault with
  | abort => exact absurd rfl hne
  | _ => rfl

theorem readWord256 : Concludes readWord256 := by
  refine ofText fun text htext => .mapError (Hex.decodeNumber_ne_abort htext) fun fault hne => ?_
  cases fault with
  | abort => exact absurd rfl hne
  | _ => rfl

end Concludes

/-- A type whose JSON reader concludes. -/
class ConcludingWire (α : Type) [Wire α] : Prop where
  concludes : Concludes (Wire.ofJson : Json → Except JsonError α)

instance : ConcludingWire String := ⟨.readString⟩

instance : ConcludingWire UInt8 := ⟨.map (.readNat _) _⟩

instance : ConcludingWire UInt16 := ⟨.map (.readNat _) _⟩

instance : ConcludingWire UInt32 := ⟨.map (.readNat _) _⟩

instance : ConcludingWire UInt64 := ⟨.map (.readNat _) _⟩

instance [Wire α] [ConcludingWire α] : ConcludingWire (List α) :=
  ⟨.readArray ConcludingWire.concludes⟩

/-! ## Records -/

namespace Record

variable {γ : Type}

/-- The values that a source finds are tame, and absent fields are proper errors. -/
structure TameSource (source : Source) : Prop where
  tame_of_find? : ∀ {name position place j}, source.find? name position = some (place, j) → j.Tame
  absent : ∀ name position, (source.absent name position).2.aborts = false

theorem tame_objectSource {fields : List Field} (h : (object fields).Tame) :
    TameSource (objectSource fields) where
  tame_of_find? hfind := tame_object.1 h _ (mem_of_findFrom? hfind)
  absent _ _ := rfl

theorem tame_arraySource {items : List Json} (h : (array items).Tame) :
    TameSource (arraySource items) where
  tame_of_find? hfind := by
    obtain ⟨item, hitem, heq⟩ := Option.map_eq_some_iff.1 hfind
    cases heq
    exact tame_array.1 h _ (List.mem_of_getElem? hitem)
  absent _ _ := rfl

/-- On tame values the record reader fails with proper errors only. -/
structure Concludes (r : Record α) : Prop where
  fails : ∀ source position, TameSource source →
    FailsWith (fun e => e.2.aborts = false) (r.read source position)

/-- Of two faults one is reported. -/
theorem failsWith_both {P : Nat × JsonError → Prop} {f : α → β → γ} {p : Placed α} {q : Placed β}
    (hp : FailsWith P p) (hq : FailsWith P q) : FailsWith P (Placed.both f p q) := by
  cases p with
  | ok a =>
    cases q with
    | ok b => exact .ok _
    | error e => exact .error (hq e rfl)
  | error e =>
    cases q with
    | ok b => exact .error (hp e rfl)
    | error e' =>
      refine .error ?_
      split
      · exact hq e' rfl
      · exact hp e rfl

namespace Concludes

theorem map {r : Record α} (h : Concludes r) (f : α → β) : Concludes (f <$> r) where
  fails source position hs := .map (h.fails source position hs) f

theorem seq {r : Record (α → β)} {s : Record α} (hr : Concludes r) (hs : Concludes s) :
    Concludes (r <*> s) where
  fails source position hsource :=
    failsWith_both (hr.fails source position hsource) (hs.fails source _ hsource)

theorem pure {names : List String} (a : α) : Concludes ⟨names, fun _ _ => .ok a⟩ where
  fails _ _ _ := .ok a

theorem fieldOr {default? : Option α} {name : String} {read : Json → Except JsonError α}
    (h : Json.Concludes read) : Concludes (fieldOr default? name read) where
  fails source position hs := by
    simp only [Record.fieldOr]
    split
    · next place j hfind => exact .mapError (h j (hs.tame_of_find? hfind)) fun _ he => he
    · split
      · exact .ok _
      · exact .error (hs.absent name position)

theorem required [Wire α] [ConcludingWire α] {name : String} :
    Concludes (required name : Record α) :=
  fieldOr ConcludingWire.concludes

theorem withDefault [Wire α] [ConcludingWire α] {name : String} {default : α} :
    Concludes (withDefault name default) :=
  fieldOr ConcludingWire.concludes

theorem optional [Wire α] [ConcludingWire α] {name : String} :
    Concludes (optional name : Record (Option α)) :=
  fieldOr (.readNullable ConcludingWire.concludes)

/-! ### From records to readers -/

variable {r : Record α}

theorem unplaced {p : Placed α} (h : FailsWith (fun e => e.2.aborts = false) p) :
    FailsWith (fun e => e.aborts = false) (unplaced p) :=
  .mapError h fun _ he => he

theorem ofFields (h : Concludes r) {fields : List Field} (hfields : (object fields).Tame) :
    FailsWith (fun e => e.aborts = false) (r.ofFields fields) :=
  unplaced (h.fails _ 0 (tame_objectSource hfields))

theorem refuseUnknown_proper (names : List String) (place : Nat) (fields : List Field) :
    FailsWith (fun e => e.2.aborts = false) (refuseUnknown names place fields) := by
  induction fields generalizing place with
  | nil => exact .ok ()
  | cons field rest ih =>
    obtain ⟨key, value⟩ := field
    exact .ite (ih _) (.error rfl)

theorem ofFieldsOnly (h : Concludes r) {fields : List Field} (hfields : (object fields).Tame) :
    FailsWith (fun e => e.aborts = false) (r.ofFieldsOnly fields) :=
  unplaced (failsWith_both (h.fails _ 0 (tame_objectSource hfields)) (refuseUnknown_proper _ _ _))

theorem ofItems (h : Concludes r) {items : List Json} (hitems : (array items).Tame) :
    FailsWith (fun e => e.aborts = false) (r.ofItems items) :=
  .bind (unplaced (h.fails _ 0 (tame_arraySource hitems))) fun _ _ => .ite (.error rfl) (.ok _)

theorem ofObject (h : Concludes r) : Json.Concludes r.ofObject := by
  intro j hj
  cases j with
  | object fields => exact h.ofFields hj
  | _ => exact .error rfl

theorem ofObjectOrArray (h : Concludes r) : Json.Concludes r.ofObjectOrArray := by
  intro j hj
  cases j with
  | object fields => exact h.ofFields hj
  | array items => exact h.ofItems hj
  | _ => exact .error rfl

end Concludes

end Record

/-! ## Tagged objects -/

theorem Tagged.fields_of_ofJson {what : String} {fields : List Field} {t : Tagged}
    (h : Tagged.ofJson what (object fields) = .ok t) : t.fields = erase fields "type" := by
  unfold Tagged.ofJson at h
  dsimp only at h
  split at h
  · cases h
  · split at h
    · split at h
      · cases h
        rfl
      · cases h
    · cases h
  · cases h

theorem Tagged.concludes_ofJson (what : String) : Concludes (Tagged.ofJson what) := by
  intro j _
  cases j with
  | object fields =>
    unfold Tagged.ofJson
    dsimp only
    split
    · exact .error rfl
    · exact .ite (.ite (.ok _) (.error rfl)) (.error rfl)
    · exact .error rfl
  | _ => exact .error rfl

/-- The kind of a tagged object is read to an outcome, and the fields beside it are tame. -/
theorem Concludes.ofTagged {what : String} {read : Tagged → Except JsonError α}
    (h : ∀ t, (object t.fields).Tame → FailsWith (fun e => e.aborts = false) (read t)) :
    Concludes fun j => Tagged.ofJson what j >>= read := by
  intro j hj
  refine .bind (Tagged.concludes_ofJson what j hj) fun t ht => h t ?_
  cases j with
  | object fields =>
    rw [Tagged.fields_of_ofJson ht, tame_object]
    intro field hfield
    exact tame_object.1 hj field (List.mem_filter.1 hfield).1
  | _ => cases ht

end Json

end UtxoCodec
