import UtxoCodec.Proofs.Packing.Decode

/-!
# Cut and extended encodings

An encoding of an output of a known kind is not the beginning of another one. Cut, it runs out of
input; extended, the bytes behind it are counted. An opaque output takes what is put behind it into
its body, and a cut of it is an opaque output still, if it is an output at all. Main statement:
`output_framing`.
-/

namespace UtxoCodec.Output

/-- What is cut off a proper prefix. -/
theorem exists_cut_of_prefix {p b : Bytes} (h : p <+: b) (hne : p ≠ b) :
    ∃ more, p ++ more = b ∧ more ≠ [] := by
  obtain ⟨more, rfl⟩ := h
  refine ⟨more, rfl, ?_⟩
  rintro rfl
  exact hne (List.append_nil p).symm

/-- A cut in which the reader runs out of input is reported as such. -/
theorem decode_of_unexpectedEnd {input : Bytes} (h : unpack .strict input = .error .unexpectedEnd) :
    decode input = .error .unexpectedEnd := by
  have hmeets : ¬ MeetsUnknown input := by
    rintro ⟨what, kind, hu⟩
    rw [h] at hu
    cases hu
  rw [decode_of_not_meetsUnknown hmeets]
  exact LawfulUnpack.unpackExact_of_error (α := Output) h

/-! ## Outputs of known kinds -/

theorem unpack_of_encode {o : Output} {b : Bytes} (hknown : o.IsKnown) (h : o.encode = .ok b) :
    unpack .strict b = .ok (o, []) := by
  obtain ⟨hv, rfl⟩ := encode_eq_ok.1 h
  have hread := reads_unpack hknown hv []
  rwa [List.append_nil] at hread

theorem decode_cut {o : Output} {b p : Bytes} (hknown : o.IsKnown) (h : o.encode = .ok b)
    (hp : p <+: b) (hne : p ≠ b) : decode p = .error .unexpectedEnd := by
  obtain ⟨more, rfl, hmore⟩ := exists_cut_of_prefix hp hne
  have hread := unpack_of_encode hknown h
  exact decode_of_unexpectedEnd ((stable_unpack .strict).end_of_cut hread hmore)

theorem decode_extended {o : Output} {b s : Bytes} (hknown : o.IsKnown) (h : o.encode = .ok b)
    (hs : s ≠ []) : decode (b ++ s) = .error (.trailingBytes s.length) := by
  have hread := (stable_unpack .strict).extend (unpack_of_encode hknown h) s
  rw [List.nil_append] at hread
  have hmeets : ¬ MeetsUnknown (b ++ s) := by
    rintro ⟨what, kind, hu⟩
    rw [hread] at hu
    cases hu
  rw [decode_of_not_meetsUnknown hmeets]
  exact (LawfulUnpack.unpackExact_of_ok (α := Output) hread).trans (if_neg hs)

/-- The encoding of an output of a known kind neither begins nor continues another encoding. -/
theorem encode_prefix_free {o o' : Output} {b b' : Bytes} (hknown : o.IsKnown)
    (h : o.encode = .ok b) (h' : o'.encode = .ok b') (hp : b <+: b' ∨ b' <+: b) : b = b' := by
  obtain ⟨hv', rfl⟩ := encode_eq_ok.1 h'
  have hdecode : decode o'.pack = .ok o' := decode_eq_ok.2 ⟨hv', rfl⟩
  by_cases heq : b = o'.pack
  · exact heq
  obtain hp | hp := hp
  · obtain ⟨more, hmore, hne⟩ := exists_cut_of_prefix hp heq
    rw [← hmore, decode_extended hknown h hne] at hdecode
    cases hdecode
  · rw [decode_cut hknown h hp (Ne.symm heq)] at hdecode
    cases hdecode

/-! ## Opaque outputs -/

/-- An unknown kind that the reader meets is met in every longer input. -/
theorem MeetsUnknown.append {input : Bytes} (h : MeetsUnknown input) (more : Bytes) :
    MeetsUnknown (input ++ more) := by
  obtain ⟨what, kind, h⟩ := h
  exact ⟨what, kind, (stable_unpack .strict).fault h (by simp) more⟩

/-- A cut either runs out of input or meets the unknown kind that the whole does. -/
theorem MeetsUnknown.cut {input more : Bytes} (h : MeetsUnknown (input ++ more)) :
    unpack .strict input = .error .unexpectedEnd ∨ MeetsUnknown input := by
  obtain ⟨what, kind, h⟩ := h
  obtain hend | hfault := (stable_unpack .strict).fault_of_cut h
  · exact .inl hend
  · exact .inr ⟨what, kind, hfault⟩

theorem decode_opaque_extended {b s : Bytes} {kind : UInt8} {body : Bytes}
    (h : decode b = .ok (unknown ⟨kind, .packed body⟩)) :
    decode (b ++ s) = .ok (unknown ⟨kind, .packed (body ++ s)⟩) := by
  obtain ⟨_, hbody, rfl, hmeets⟩ := decode_eq_unknown.1 h
  cases hbody
  exact decode_of_meetsUnknown (hmeets.append s)

theorem decode_opaque_cut {b p : Bytes} {kind : UInt8} {body : Bytes}
    (h : decode b = .ok (unknown ⟨kind, .packed body⟩)) (hp : p <+: b) :
    decode p = .error .unexpectedEnd ∨
      ∃ cut, p = kind :: cut ∧ cut <+: body ∧ decode p = .ok (unknown ⟨kind, .packed cut⟩) := by
  obtain ⟨_, hbody, rfl, hmeets⟩ := decode_eq_unknown.1 h
  cases hbody
  obtain ⟨more, hmore⟩ := hp
  rw [← hmore] at hmeets
  obtain hend | hmeets := hmeets.cut
  · exact .inl (decode_of_unexpectedEnd hend)
  · cases p with
    | nil => exact absurd hmeets not_meetsUnknown_nil
    | cons first cut =>
      obtain ⟨rfl, hcut⟩ := List.cons.inj hmore
      exact .inr ⟨cut, rfl, ⟨more, hcut⟩, decode_of_meetsUnknown hmeets⟩

/-- Encodings of outputs of known kinds are prefix-free, and what is cut off or put behind an
encoding is reported as such or stays in an opaque body. -/
theorem output_framing :
    (∀ (o : Output) (b : Bytes), o.IsKnown → o.encode = .ok b →
      (∀ p, p <+: b → p ≠ b → decode p = .error .unexpectedEnd) ∧
      (∀ s, s ≠ [] → decode (b ++ s) = .error (.trailingBytes s.length)) ∧
      ∀ (o' : Output) (b' : Bytes), o'.encode = .ok b' → b <+: b' ∨ b' <+: b → b = b') ∧
    ∀ (b : Bytes) (kind : UInt8) (body : Bytes), decode b = .ok (unknown ⟨kind, .packed body⟩) →
      (∀ s, decode (b ++ s) = .ok (unknown ⟨kind, .packed (body ++ s)⟩)) ∧
      ∀ p, p <+: b → p ≠ b → decode p = .error .unexpectedEnd ∨
        ∃ cut, p = kind :: cut ∧ cut <+: body ∧
          decode p = .ok (unknown ⟨kind, .packed cut⟩) := by
  refine ⟨fun o b hknown h => ⟨?_, ?_, ?_⟩, fun b kind body h => ⟨?_, ?_⟩⟩
  · intro p hp hne
    exact decode_cut hknown h hp hne
  · intro s hs
    exact decode_extended hknown h hs
  · intro o' b' h' hp
    exact encode_prefix_free hknown h h' hp
  · intro s
    exact decode_opaque_extended h
  · intro p hp _
    exact decode_opaque_cut h hp

/-- An output is opaque for a condition of an unknown kind, a treasury output is not. -/
theorem output_framing_unknown_condition :
    decode [3, 1, 0, 0, 0, 0, 0, 0, 0, 0, 1, 9, 42] =
        .ok (unknown ⟨3, .packed [1, 0, 0, 0, 0, 0, 0, 0, 0, 1, 9, 42]⟩) ∧
      decode [2, 5, 0, 0] = .error .unexpectedEnd ∧
      decode [2, 5, 0, 0, 0, 0, 0, 0, 0, 42] = .error (.trailingBytes 1) := by
  have hdecoded : decode [3, 1, 0, 0, 0, 0, 0, 0, 0, 0, 1, 9] =
      .ok (unknown ⟨3, .packed [1, 0, 0, 0, 0, 0, 0, 0, 0, 1, 9]⟩) := by rfl
  have hencoded : (treasury ⟨⟨5⟩⟩).encode = .ok [2, 5, 0, 0, 0, 0, 0, 0, 0] := by rfl
  obtain ⟨hlonger, -⟩ := output_framing.2 _ _ _ hdecoded
  obtain ⟨hcut, hextended, -⟩ := output_framing.1 _ _ (fun _ h => by cases h) hencoded
  refine ⟨hlonger [42], hcut [2, 5, 0, 0] ⟨[0, 0, 0, 0, 0], rfl⟩ (by decide), ?_⟩
  exact hextended [42] (by decide)

end UtxoCodec.Output
