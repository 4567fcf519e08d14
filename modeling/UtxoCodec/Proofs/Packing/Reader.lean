import UtxoCodec.Packing

/-!
# Laws of readers

What a reader of bytes does to inputs that are cut or extended (`Unpacker.Stable`), and how the
two ways of checking are related (`Unpacker.Cautious`). `Unpacker.Reads` says which bytes a value
is read from. All three go through binds, so that the reader of a record has them if the readers
of its fields do. The primitive readers are inverted exactly: a reading that succeeds consumed the
binary form of its value and nothing else.
-/

namespace UtxoCodec

/-! ## Checks -/

theorem ite_eq_ok {c : Prop} [Decidable c] {e : EncodingError} :
    (if c then .ok () else .error e : Except EncodingError Unit) = .ok () ↔ c := by
  by_cases h : c <;> simp [h]

theorem ite_error_eq_ok {c : Prop} [Decidable c] {e : EncodingError}
    {check : Except EncodingError Unit} :
    (if c then .error e else check) = .ok () ↔ ¬ c ∧ check = .ok () := by
  by_cases h : c <;> simp [h]

/-- One check after another passes if both do. -/
theorem andThen_eq_ok {first second : Except EncodingError Unit} :
    (do first; second) = .ok () ↔ first = .ok () ∧ second = .ok () := by
  cases first with
  | error e => simp [bind, Except.bind]
  | ok _ => simp [bind, Except.bind]

theorem verifyAll_eq_ok {α : Type} {check : α → Except EncodingError Unit} {items : List α} :
    verifyAll check items = .ok () ↔ ∀ a ∈ items, check a = .ok () := by
  induction items with
  | nil => simp [verifyAll]
  | cons a rest ih => rw [verifyAll, andThen_eq_ok, ih, List.forall_mem_cons]

namespace Unpacker

variable {α β : Type}

/-! ## Binds -/

theorem pure_eq_ok {a b : α} {input rest : Bytes} :
    (pure a : Unpacker α) input = .ok (b, rest) ↔ a = b ∧ input = rest := by
  constructor
  · intro h
    cases h
    exact ⟨rfl, rfl⟩
  · rintro ⟨rfl, rfl⟩
    rfl

/-- A reader behind one that succeeded goes on with the rest. -/
theorem bind_of_ok {r : Unpacker α} {f : α → Unpacker β} {input mid : Bytes} {a : α}
    (h : r input = .ok (a, mid)) : (r >>= f) input = f a mid := by
  show Except.bind (r input) (fun p => f p.1 p.2) = _
  rw [h]
  rfl

/-- A reader behind one that failed is not reached. -/
theorem bind_of_error {r : Unpacker α} {f : α → Unpacker β} {input : Bytes} {e : DecodingError}
    (h : r input = .error e) : (r >>= f) input = .error e := by
  show Except.bind (r input) (fun p => f p.1 p.2) = _
  rw [h]
  rfl

theorem bind_eq_ok {r : Unpacker α} {f : α → Unpacker β} {input rest : Bytes} {b : β} :
    (r >>= f) input = .ok (b, rest) ↔
      ∃ a mid, r input = .ok (a, mid) ∧ f a mid = .ok (b, rest) := by
  cases h : r input with
  | error e => simp [bind_of_error h]
  | ok p =>
    obtain ⟨a, mid⟩ := p
    rw [bind_of_ok h]
    constructor
    · intro hf
      exact ⟨a, mid, rfl, hf⟩
    · rintro ⟨_, _, heq, hf⟩
      cases heq
      exact hf

theorem map_eq_ok {r : Unpacker α} {f : α → β} {input rest : Bytes} {b : β} :
    (r >>= fun a => pure (f a)) input = .ok (b, rest) ↔ ∃ a, r input = .ok (a, rest) ∧ f a = b := by
  rw [bind_eq_ok]
  constructor
  · rintro ⟨a, mid, ha, h⟩
    obtain ⟨rfl, rfl⟩ := pure_eq_ok.1 h
    exact ⟨a, ha, rfl⟩
  · rintro ⟨a, ha, rfl⟩
    exact ⟨a, rest, ha, rfl⟩

/-! ## Reading given bytes -/

/-- The reader takes the value from the bytes, whatever comes behind them. -/
def Reads (r : Unpacker α) (bytes : Bytes) (a : α) : Prop :=
  ∀ rest, r (bytes ++ rest) = .ok (a, rest)

namespace Reads

theorem pure (a : α) : Reads (Pure.pure a : Unpacker α) [] a :=
  fun _ => rfl

theorem bind {r : Unpacker α} {f : α → Unpacker β} {first second : Bytes} {a : α} {b : β}
    (hr : Reads r first a) (hf : Reads (f a) second b) : Reads (r >>= f) (first ++ second) b := by
  intro rest
  rw [List.append_assoc, bind_of_ok (hr _)]
  exact hf rest

theorem congr {r : Unpacker α} {bytes bytes' : Bytes} {a : α} (hr : Reads r bytes a)
    (h : bytes = bytes') : Reads r bytes' a :=
  h ▸ hr

/-- The last step of a reader: what is read is put together. -/
theorem map {r : Unpacker α} {bytes : Bytes} {a : α} (hr : Reads r bytes a) (f : α → β) :
    Reads (r >>= fun a => Pure.pure (f a)) bytes (f a) := by
  intro rest
  rw [bind_of_ok (hr rest)]
  rfl

end Reads

/-! ## Cutting and extending the input -/

/-- A reading depends on the bytes that it consumes only. Bytes behind them are left over, and a
fault other than the end of the input is found in every longer input too. -/
structure Stable (r : Unpacker α) : Prop where
  extend : ∀ {input a rest}, r input = .ok (a, rest) →
    ∀ more, r (input ++ more) = .ok (a, rest ++ more)
  fault : ∀ {input e}, r input = .error e → e ≠ .unexpectedEnd →
    ∀ more, r (input ++ more) = .error e

namespace Stable

theorem pure (a : α) : Stable (Pure.pure a : Unpacker α) where
  extend h more := by
    obtain ⟨rfl, rfl⟩ := pure_eq_ok.1 h
    rfl
  fault h := by cases h

theorem throw (e : DecodingError) : Stable (MonadExcept.throw e : Unpacker α) where
  extend h := by cases h
  fault h _ _ := by cases h; rfl

theorem bind {r : Unpacker α} {f : α → Unpacker β} (hr : Stable r) (hf : ∀ a, Stable (f a)) :
    Stable (r >>= f) where
  extend h more := by
    obtain ⟨a, mid, ha, hb⟩ := bind_eq_ok.1 h
    rw [bind_of_ok (hr.extend ha more)]
    exact (hf a).extend hb more
  fault {input e} h he more := by
    cases hc : r input with
    | error e' =>
      rw [bind_of_error hc] at h
      cases h
      exact bind_of_error (hr.fault hc he more)
    | ok p =>
      obtain ⟨a, mid⟩ := p
      rw [bind_of_ok hc] at h
      rw [bind_of_ok (hr.extend hc more)]
      exact (hf a).fault h he more

theorem ite {c : Prop} [Decidable c] {r s : Unpacker α} (hr : Stable r) (hs : Stable s) :
    Stable (if c then r else s) := by
  split
  · exact hr
  · exact hs

/-- What a stable reader reads from an input that it spans, it does not read from less: it runs out
of input. -/
theorem end_of_cut {r : Unpacker α} (hr : Stable r) {input more : Bytes} {a : α}
    (h : r (input ++ more) = .ok (a, [])) (hmore : more ≠ []) :
    r input = .error .unexpectedEnd := by
  cases hc : r input with
  | ok p =>
    obtain ⟨b, rest⟩ := p
    rw [hr.extend hc more] at h
    simp only [Except.ok.injEq, Prod.mk.injEq, List.append_eq_nil_iff] at h
    exact absurd h.2.2 hmore
  | error e =>
    by_cases he : e = .unexpectedEnd
    · rw [he]
    · rw [hr.fault hc he more] at h
      cases h

/-- A fault of a reading is found in every cut of the input, unless the cut runs out of input. -/
theorem fault_of_cut {r : Unpacker α} (hr : Stable r) {input more : Bytes} {e : DecodingError}
    (h : r (input ++ more) = .error e) :
    r input = .error .unexpectedEnd ∨ r input = .error e := by
  cases hc : r input with
  | ok p =>
    rw [hr.extend hc more] at h
    cases h
  | error e' =>
    by_cases he : e' = .unexpectedEnd
    · exact .inl (by rw [he])
    · rw [hr.fault hc he more] at h
      exact .inr h

end Stable

/-! ## Strict and lenient readers -/

/-- The first reader does what the second does, or refuses a value on the way. -/
def Cautious (strict lenient : Unpacker α) : Prop :=
  ∀ input, strict input = lenient input ∨ ∃ e, strict input = .error (.invalid e)

namespace Cautious

theorem refl (r : Unpacker α) : Cautious r r :=
  fun _ => .inl rfl

theorem bind {r r' : Unpacker α} {f f' : α → Unpacker β} (hr : Cautious r r')
    (hf : ∀ a, Cautious (f a) (f' a)) : Cautious (r >>= f) (r' >>= f') := by
  intro input
  obtain heq | ⟨e, he⟩ := hr input
  · cases hc : r input with
    | error e =>
      rw [bind_of_error hc, bind_of_error (heq ▸ hc)]
      exact .inl rfl
    | ok p =>
      obtain ⟨a, mid⟩ := p
      rw [bind_of_ok hc, bind_of_ok (heq ▸ hc)]
      exact hf a mid
  · exact .inr ⟨e, bind_of_error he⟩

theorem ite {c : Prop} [Decidable c] {r r' s s' : Unpacker α} (hr : Cautious r r')
    (hs : Cautious s s') : Cautious (if c then r else s) (if c then r' else s') := by
  split
  · exact hr
  · exact hs

theorem require (result : Except EncodingError Unit) :
    Cautious (Checking.strict.require result) (Checking.lenient.require result) := by
  intro input
  cases result with
  | ok _ => exact .inl rfl
  | error e => exact .inr ⟨e, rfl⟩

end Cautious

/-! ## Primitive readers -/

theorem take_eq_ok {count : Nat} {input rest : Bytes} {b : { b : Bytes // b.length = count }} :
    take count input = .ok (b, rest) ↔ input = b.val ++ rest := by
  obtain ⟨b, hb⟩ := b
  unfold take
  constructor
  · intro h
    split at h
    · simp only [Except.ok.injEq, Prod.mk.injEq, Subtype.mk.injEq] at h
      show input = b ++ rest
      rw [← h.1, ← h.2, List.take_append_drop]
    · cases h
  · intro h
    subst h hb
    simp

theorem Stable.take (count : Nat) : Stable (Unpacker.take count) where
  extend h more := by
    rw [take_eq_ok] at h ⊢
    rw [h, List.append_assoc]
  fault {input e} h he more := by
    unfold Unpacker.take at h
    split at h
    · cases h
    · cases h
      exact absurd rfl he

theorem Reads.take (bytes : Bytes) : Reads (Unpacker.take bytes.length) bytes ⟨bytes, rfl⟩ :=
  fun _ => take_eq_ok.2 rfl

theorem number_eq_ok {width n : Nat} {input rest : Bytes} :
    number width input = .ok (n, rest) ↔
      n < Bytes.capacity width ∧ input = Bytes.littleEndian width n ++ rest := by
  unfold number
  rw [map_eq_ok]
  constructor
  · rintro ⟨⟨b, hb⟩, htake, rfl⟩
    rw [take_eq_ok.1 htake]
    subst hb
    exact ⟨Bytes.value_lt b, by rw [Bytes.littleEndian_value]⟩
  · rintro ⟨hn, rfl⟩
    refine ⟨⟨Bytes.littleEndian width n, Bytes.length_littleEndian ..⟩, take_eq_ok.2 rfl, ?_⟩
    show Bytes.value (Bytes.littleEndian width n) = n
    rw [Bytes.value_littleEndian, Nat.mod_eq_of_lt hn]

theorem Stable.number (width : Nat) : Stable (Unpacker.number width) :=
  .bind (.take width) fun _ => .pure _

theorem Reads.number {width n : Nat} (h : n < Bytes.capacity width) :
    Reads (Unpacker.number width) (Bytes.littleEndian width n) n :=
  fun _ => number_eq_ok.2 ⟨h, rfl⟩

theorem byte_eq_ok {input rest : Bytes} {b : UInt8} :
    byte input = .ok (b, rest) ↔ input = b :: rest := by
  unfold byte
  rw [map_eq_ok]
  constructor
  · rintro ⟨n, hn, rfl⟩
    obtain ⟨-, rfl⟩ := number_eq_ok.1 hn
    rfl
  · rintro rfl
    have hone : Bytes.littleEndian 1 b.toNat = [b] := by simp [Bytes.littleEndian]
    exact ⟨b.toNat, number_eq_ok.2 ⟨b.toNat_lt, by rw [hone]; rfl⟩, by simp⟩

theorem Stable.byte : Stable Unpacker.byte :=
  .bind (.number 1) fun _ => .pure _

theorem Reads.byte (b : UInt8) : Reads Unpacker.byte [b] b :=
  fun _ => byte_eq_ok.2 rfl

theorem word32_eq_ok {input rest : Bytes} {n : UInt32} :
    (number 4 >>= fun k => pure (UInt32.ofNat k) : Unpacker UInt32) input = .ok (n, rest) ↔
      input = Bytes.littleEndian 4 n.toNat ++ rest := by
  rw [map_eq_ok]
  constructor
  · rintro ⟨k, hk, rfl⟩
    obtain ⟨hlt, rfl⟩ := number_eq_ok.1 hk
    rw [UInt32.toNat_ofNat_of_lt' hlt]
  · rintro rfl
    exact ⟨n.toNat, number_eq_ok.2 ⟨n.toNat_lt, rfl⟩, by simp⟩

theorem Reads.word32 (n : UInt32) :
    Reads (Unpacker.number 4 >>= fun k => Pure.pure (UInt32.ofNat k))
      (Bytes.littleEndian 4 n.toNat) n :=
  fun _ => word32_eq_ok.2 rfl

theorem Stable.word32 :
    Stable (Unpacker.number 4 >>= fun k => Pure.pure (UInt32.ofNat k) : Unpacker UInt32) :=
  .bind (.number 4) fun _ => .pure _

/-- The numbers that fit 32 bytes are those of 256 bits. -/
theorem toNat_lt_capacity (n : BitVec 256) : n.toNat < Bytes.capacity 32 :=
  n.isLt

theorem toNat_ofNat_of_lt_capacity {k : Nat} (h : k < Bytes.capacity 32) :
    (BitVec.ofNat 256 k).toNat = k :=
  Nat.mod_eq_of_lt h

theorem word256_eq_ok {input rest : Bytes} {n : BitVec 256} :
    word256 input = .ok (n, rest) ↔ input = packWord256 n ++ rest := by
  unfold word256 packWord256
  rw [map_eq_ok]
  constructor
  · rintro ⟨k, hk, rfl⟩
    obtain ⟨hlt, rfl⟩ := number_eq_ok.1 hk
    rw [toNat_ofNat_of_lt_capacity hlt]
  · rintro rfl
    exact ⟨n.toNat, number_eq_ok.2 ⟨toNat_lt_capacity n, rfl⟩, by simp⟩

theorem Stable.word256 : Stable Unpacker.word256 :=
  .bind (.number 32) fun _ => .pure _

theorem Reads.word256 (n : BitVec 256) : Reads Unpacker.word256 (packWord256 n) n :=
  fun _ => word256_eq_ok.2 rfl

theorem require_lenient (result : Except EncodingError Unit) :
    Checking.lenient.require result = pure () := by
  cases result <;> rfl

theorem require_eq_ok {checking : Checking} {result : Except EncodingError Unit}
    {input rest : Bytes} {u : Unit} :
    checking.require result input = .ok (u, rest) ↔
      (checking = .strict → result = .ok ()) ∧ input = rest := by
  cases checking with
  | lenient => simp [require_lenient, pure_eq_ok]
  | strict =>
    cases result with
    | ok _ => simp [Checking.require, pure_eq_ok]
    | error e =>
      simp only [true_imp_iff, reduceCtorEq, false_and, iff_false]
      intro h
      cases h

theorem Reads.require {checking : Checking} {result : Except EncodingError Unit}
    (h : result = .ok ()) : Reads (checking.require result) [] () :=
  fun _ => require_eq_ok.2 ⟨fun _ => h, rfl⟩

/-- The last step of a reader that checks what is put together. -/
theorem Reads.checked {checking : Checking} {r : Unpacker α} {bytes : Bytes} {a : α}
    (hr : Reads r bytes a) {result : α → Except EncodingError Unit} (h : result a = .ok ())
    (f : α → β) :
    Reads (r >>= fun a => checking.require (result a) >>= fun _ => Pure.pure (f a)) bytes
      (f a) := by
  intro rest
  rw [bind_of_ok (hr rest)]
  exact Reads.map (.require h) (fun _ => f a) rest

theorem Stable.require (checking : Checking) (result : Except EncodingError Unit) :
    Stable (checking.require result) := by
  unfold Checking.require
  split
  · exact .throw _
  · exact .pure _

end Unpacker

end UtxoCodec
