/-!
# Outcomes

When a chain of steps succeeds: every step does. For steps that may fail without changing a state.
With which errors a chain fails (`FailsWith`): with those of its steps.
-/

namespace UtxoCodec.Outcome

variable {ε ε' α β : Type}

theorem bind_eq_ok {x : Except ε α} {f : α → Except ε β} {b : β} :
    (x >>= f) = .ok b ↔ ∃ a, x = .ok a ∧ f a = .ok b := by
  cases x with
  | error e => simp [bind, Except.bind]
  | ok a => simp [bind, Except.bind]

theorem map_eq_ok {x : Except ε α} {f : α → β} {b : β} :
    x.map f = .ok b ↔ ∃ a, x = .ok a ∧ f a = b := by
  cases x with
  | error e => simp [Except.map]
  | ok a => simp [Except.map]

theorem mapError_eq_ok {x : Except ε α} {f : ε → ε'} {a : α} :
    x.mapError f = .ok a ↔ x = .ok a := by
  cases x with
  | error e =>
    have hf : (Except.error e : Except ε α).mapError f = .error (f e) := rfl
    rw [hf]
    constructor <;> intro h <;> cases h
  | ok b =>
    have hf : (Except.ok b : Except ε α).mapError f = .ok b := rfl
    rw [hf]
    constructor <;> intro h <;> cases h <;> rfl

theorem toOption_eq_some {x : Except ε α} {a : α} : x.toOption = some a ↔ x = .ok a := by
  cases x <;> simp [Except.toOption]

/-- A branch that cannot give the result was not taken. -/
theorem else_of_ite_map {c : Prop} [Decidable c] {x : Except ε α} {f : α → β} {y : Except ε β}
    {b : β} (h : (if c then x.map f else y) = .ok b) (hf : ∀ a, f a ≠ b) : ¬ c ∧ y = .ok b := by
  by_cases hc : c
  · rw [if_pos hc] at h
    obtain ⟨a, -, ha⟩ := map_eq_ok.1 h
    exact absurd ha (hf a)
  · rw [if_neg hc] at h
    exact ⟨hc, h⟩

/-- The last step gives back what was checked before it. -/
theorem check_eq_ok {x : Except ε Unit} {a b : α} :
    (do x; return a) = .ok b ↔ x = .ok () ∧ a = b := by
  cases x with
  | error e => simp [bind, Except.bind]
  | ok _ => simp [bind, Except.bind, pure, Except.pure]

theorem mem_of_mapM {f : α → Except ε β} : ∀ {as : List α} {bs : List β},
    as.mapM f = .ok bs → ∀ b ∈ bs, ∃ a ∈ as, f a = .ok b
  | [], bs, h => by
    cases h
    exact fun b hb => absurd hb List.not_mem_nil
  | a :: as, bs, h => by
    rw [List.mapM_cons] at h
    obtain ⟨b, hb, h⟩ := bind_eq_ok.1 h
    obtain ⟨rest, hrest, h⟩ := bind_eq_ok.1 h
    cases h
    intro c hc
    rcases List.mem_cons.1 hc with rfl | hc
    · exact ⟨a, List.mem_cons_self, hb⟩
    · obtain ⟨a', hmem, ha'⟩ := mem_of_mapM hrest c hc
      exact ⟨a', List.mem_cons_of_mem a hmem, ha'⟩

theorem exists_of_mapM {f : α → Except ε β} : ∀ {as : List α} {bs : List β},
    as.mapM f = .ok bs → ∀ a ∈ as, ∃ b ∈ bs, f a = .ok b
  | [], _, _ => fun a ha => absurd ha List.not_mem_nil
  | a :: as, bs, h => by
    rw [List.mapM_cons] at h
    obtain ⟨b, hb, h⟩ := bind_eq_ok.1 h
    obtain ⟨rest, hrest, h⟩ := bind_eq_ok.1 h
    cases h
    intro a' ha'
    rcases List.mem_cons.1 ha' with rfl | ha'
    · exact ⟨b, List.mem_cons_self, hb⟩
    · obtain ⟨b', hmem, hb'⟩ := exists_of_mapM hrest a' ha'
      exact ⟨b', List.mem_cons_of_mem b hmem, hb'⟩

/-- Steps that undo others give the items back. -/
theorem mapM_map_eq_ok {f : α → Except ε β} {g : β → α} : ∀ {bs : List β},
    (∀ b ∈ bs, f (g b) = .ok b) → (bs.map g).mapM f = .ok bs
  | [], _ => rfl
  | b :: bs, h => by
    obtain ⟨hb, hbs⟩ := List.forall_mem_cons.1 h
    rw [List.map_cons, List.mapM_cons, hb, mapM_map_eq_ok hbs]
    rfl

/-! ## Errors of a chain -/

/-- If the steps fail, then with an error that has the property. -/
def FailsWith (P : ε → Prop) (x : Except ε α) : Prop := ∀ e, x = .error e → P e

namespace FailsWith

variable {P : ε → Prop} {Q : ε' → Prop} {x y : Except ε α}

theorem ok (a : α) : FailsWith P (.ok a : Except ε α) := by
  intro e h
  cases h

theorem error {e : ε} (h : P e) : FailsWith P (.error e : Except ε α) := by
  intro e' he
  cases he
  exact h

theorem bind {f : α → Except ε β} (hx : FailsWith P x)
    (hf : ∀ a, x = .ok a → FailsWith P (f a)) : FailsWith P (x >>= f) := by
  cases x with
  | error e => exact .error (hx e rfl)
  | ok a => exact hf a rfl

theorem map (hx : FailsWith P x) (f : α → β) : FailsWith P (x.map f) := by
  cases x with
  | error e => exact .error (hx e rfl)
  | ok a => exact .ok (f a)

theorem mapError {f : ε → ε'} (hx : FailsWith P x) (hf : ∀ e, P e → Q (f e)) :
    FailsWith Q (x.mapError f) := by
  cases x with
  | error e => exact .error (hf e (hx e rfl))
  | ok a => exact .ok a

/-- Whatever the error was, it is reported as one that has the property. -/
theorem reported {f : ε → ε'} (hf : ∀ e, Q (f e)) : FailsWith Q (x.mapError f) :=
  mapError (P := fun _ => True) (fun _ _ => trivial) fun e _ => hf e

theorem ite {c : Prop} [Decidable c] (hx : FailsWith P x) (hy : FailsWith P y) :
    FailsWith P (if c then x else y) := by
  split
  · exact hx
  · exact hy

theorem mapM {f : α → Except ε β} : ∀ {as : List α}, (∀ a ∈ as, FailsWith P (f a)) →
    FailsWith P (as.mapM f)
  | [], _ => .ok []
  | a :: as, h => by
    obtain ⟨ha, has⟩ := List.forall_mem_cons.1 h
    rw [List.mapM_cons]
    exact .bind ha fun _ _ => .bind (mapM has) fun _ _ => .ok _

end FailsWith

end UtxoCodec.Outcome
