/-
What the crates make of strings: their bytes, the text of a digest, and decimal numbers.
-/
import SovereignEdgeTee.Utf8

set_option autoImplicit false

namespace SovereignEdgeTee

/-- The bytes of a string. -/
def as_bytes (s : String) : List UInt8 := s.toUTF8.data.toList

/-- The digits of a digest, in lower-case hexadecimal. -/
def lower_hex (digest : Vector UInt8 32) : String :=
  String.ofList (digest.toList.flatMap fun byte =>
    [Nat.digitChar (byte.toNat / 16), Nat.digitChar (byte.toNat % 16)])

/-- `s.contains(tag)`. -/
def ContainsText (tag s : String) : Prop := tag.toList <:+: s.toList

instance (tag s : String) : Decidable (ContainsText tag s) :=
  inferInstanceAs (Decidable (tag.toList <:+: s.toList))

theorem containsText_iff {tag s : String} :
    ContainsText tag s ↔ ∃ before after : String, s = before ++ tag ++ after := by
  constructor
  · rintro ⟨before, after, h⟩
    refine ⟨String.ofList before, String.ofList after, ?_⟩
    rw [← String.toList_inj, String.toList_append, String.toList_append, String.toList_ofList,
      String.toList_ofList, h]
  · rintro ⟨before, after, rfl⟩
    exact ⟨before.toList, after.toList, by rw [String.toList_append, String.toList_append]⟩

theorem as_bytes_eq (s : String) : as_bytes s = s.toList.flatMap String.utf8EncodeChar := by
  rw [as_bytes, String.toUTF8_eq_toByteArray, ← String.utf8Encode_toList, List.utf8Encode,
    List.data_toByteArray]

/-- The bytes of a string are read back as that string. -/
theorem from_utf8_lossy_as_bytes (s : String) : Utf8.from_utf8_lossy (as_bytes s) = s := by
  rw [Utf8.from_utf8_lossy, as_bytes_eq, Utf8.lossyChars_flatMap_encode, String.ofList_toList]

theorem as_bytes_append (s t : String) : as_bytes (s ++ t) = as_bytes s ++ as_bytes t := by
  rw [as_bytes_eq, String.toList_append, List.flatMap_append, ← as_bytes_eq, ← as_bytes_eq]

theorem as_bytes_injective : Function.Injective as_bytes :=
  Function.LeftInverse.injective from_utf8_lossy_as_bytes

theorem length_lower_hex (digest : Vector UInt8 32) : (lower_hex digest).toList.length = 64 := by
  rw [lower_hex, String.toList_ofList, List.length_flatMap]
  have htwo : (digest.toList.map fun byte =>
      [Nat.digitChar (byte.toNat / 16), Nat.digitChar (byte.toNat % 16)].length)
      = List.replicate 32 2 := by
    rw [List.eq_replicate_iff]
    refine ⟨by simp, ?_⟩
    intro n hn
    obtain ⟨byte, -, rfl⟩ := List.mem_map.mp hn
    rfl
  rw [htwo]
  rfl

/-! ## Decimal numbers

The texts that the crates build hold numbers between tags. All the proofs about them need of a
decimal is that it has digits only, and that it can be read back. -/

theorem isDigit_of_mem_toString {n : ℕ} {c : Char} (h : c ∈ (toString n).toList) :
    c.isDigit = true := by
  rw [Nat.toString_eq_repr, Nat.toList_repr] at h
  exact Nat.isDigit_of_mem_toDigits (by decide) (by decide) h

/-- Two numbers of the same decimals are equal. -/
theorem toString_injective : Function.Injective (toString : ℕ → String) := by
  intro m n h
  rw [Nat.toString_eq_repr, Nat.toString_eq_repr] at h
  have hdigits : Nat.toDigits 10 m = Nat.toDigits 10 n := by
    rw [← Nat.toList_repr, ← Nat.toList_repr, h]
  rw [← Nat.ofDigitChars_ten_toDigits (n := m), hdigits, Nat.ofDigitChars_ten_toDigits]

theorem toString_uint64_injective : Function.Injective (toString : UInt64 → String) :=
  fun _ _ h => UInt64.toNat_inj.mp (toString_injective h)

end SovereignEdgeTee
