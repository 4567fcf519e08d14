import UtxoCodec.Address
import UtxoCodec.Proofs.Bech32.Text
import UtxoCodec.Proofs.Packing.Element

/-!
# Bech32 texts of addresses

A text stands for an address and a readable part, and no other text does but for the case of its
letters (`bech32_round_trip`). The case maps are those of ASCII. All texts here are ASCII, so the maps
of other alphabets would not change them any further.
-/

namespace UtxoCodec.Address

/-- Whether all characters are ASCII. -/
def Ascii (text : String) : Prop := ∀ c ∈ text.toList, c.toNat < 128

theorem toBech32_eq_ok {a : Address} {readable text : String} :
    a.toBech32 readable = .ok text ↔ Bech32.encode readable (pack a) = .ok text := by
  unfold toBech32
  exact Outcome.mapError_eq_ok

theorem ofBech32_eq_ok {text readable : String} {a : Address} :
    ofBech32 text = .ok (readable, a) ↔ Bech32.decode text = .ok (readable, pack a) := by
  unfold ofBech32
  rw [Outcome.bind_eq_ok]
  constructor
  · rintro ⟨⟨readable', bytes⟩, htext, h⟩
    obtain ⟨a', ha, h⟩ := Outcome.bind_eq_ok.1 h
    cases h
    rw [(LawfulPackable.unpackExact_eq_ok.1 ha).2]
    exact Outcome.mapError_eq_ok.1 htext
  · intro h
    refine ⟨(readable, pack a), Outcome.mapError_eq_ok.2 h, Outcome.bind_eq_ok.2 ⟨a, ?_, rfl⟩⟩
    exact LawfulPackable.unpackExact_eq_ok.2 ⟨rfl, rfl⟩

/-- The text of an address is read as the address, in lower and in upper case, whatever characters
the readable part has. The address that is read from a text has the text in lower case. -/
theorem bech32_round_trip :
    (∀ (a : Address) (readable text : String), a.toBech32 readable = .ok text →
      (Ascii readable ∧ Ascii text) ∧ ofBech32 text = .ok (readable.toLower, a) ∧
        ofBech32 text.toUpper = .ok (readable.toLower, a)) ∧
    ∀ (text readable : String) (a : Address), ofBech32 text = .ok (readable, a) →
      Ascii text ∧ a.toBech32 readable = .ok text.toLower := by
  constructor
  · intro a readable text h
    have hencode := toBech32_eq_ok.1 h
    refine ⟨Bech32.ascii_of_encode hencode, ofBech32_eq_ok.2 ?_, ofBech32_eq_ok.2 ?_⟩
    · have hlower := Bech32.decode_of_encode hencode (show Bech32.Case.lower ≠ .none by decide)
      rw [Bech32.Case.letter_lower, Bech32.toLower_of_encode hencode, String.ofList_toList] at hlower
      rwa [Bech32.toLower_eq_ofList]
    · have hupper := Bech32.decode_of_encode hencode (show Bech32.Case.upper ≠ .none by decide)
      rw [Bech32.Case.letter_upper] at hupper
      rwa [Bech32.toLower_eq_ofList, Bech32.toUpper_eq_ofList]
  · intro text readable a h
    have hdecode := ofBech32_eq_ok.1 h
    refine ⟨Bech32.ascii_of_decode hdecode, toBech32_eq_ok.2 ?_⟩
    rw [Bech32.toLower_eq_ofList]
    exact Bech32.encode_of_decode hdecode

/-- The readable part is in upper case and holds the separator. -/
theorem bech32_round_trip_separator_in_readable :
    let a : Address := .nft ⟨List.replicate 32 0, rfl⟩
    let text := "rm1s1zqqqqqqqqqqqqqqqqqqqqqqqqqqqqqqqqqqqqqqqqqqqqqqqqqqqqsrxmju"
    a.toBech32 "RM1S" = .ok text ∧ ofBech32 text = .ok ("rm1s", a) ∧
      ofBech32 text.toUpper = .ok ("rm1s", a) ∧ a.toBech32 "rm1s" = .ok text.toLower := by
  intro a text
  have hgroups : 2 :: List.replicate 52 0 = Bech32.toGroups (pack a) :=
    (Bech32.ofGroups_eq_ok_iff (by decide)).1
      (Bech32.ofGroups_eq_ok.2 ⟨1, by decide, by decide +kernel⟩)
  have hwritten : a.toBech32 "RM1S" = .ok text := by
    rw [toBech32_eq_ok, Bech32.encode_eq_ok]
    refine ⟨⟨.upper, rfl⟩, ?_⟩
    unfold Bech32.codeword
    rw [← hgroups]
    decide +kernel
  obtain ⟨hwrite, hread⟩ := bech32_round_trip
  obtain ⟨-, hlower, hupper⟩ := hwrite a "RM1S" text hwritten
  have hreadable : "RM1S".toLower = "rm1s" := (Bech32.toLower_eq_ofList "RM1S").trans (by decide)
  rw [hreadable] at hlower hupper
  exact ⟨hwritten, hlower, hupper, (hread text "rm1s" a hlower).2⟩

end UtxoCodec.Address
