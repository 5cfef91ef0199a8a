import Deliveries.Text.Utf8.Lemmas

/-!
# ASCII in written text

A byte below 128 stands for nothing but its own character, so that an ASCII byte
occurs in the bytes of a text exactly when its character occurs in the text.
-/

namespace Deliveries
namespace Text
namespace Utf8

theorem ofNat_injective
    {left right : Nat} (leftSmall : left < 256) (rightSmall : right < 256)
    (equal : UInt8.ofNat left = UInt8.ofNat right) : left = right := by
  rw [← toNat_ofNat left leftSmall, equal, toNat_ofNat right rightSmall]

/-- The numbers of the bytes of a character are its own when it is ASCII, and
at least 128 when it is not. -/
theorem toNat_of_mem_encodeChar
    {character : Char} {byte : UInt8} (member : byte ∈ encodeChar character) :
    byte.toNat = character.toNat ∧ character.toNat < 0x80 ∨
      0x80 ≤ byte.toNat ∧ 0x80 ≤ character.toNat := by
  have bound := toNat_lt character
  by_cases one : character.toNat < 0x80
  · rw [encodeChar_of_one one, List.mem_singleton] at member
    subst member
    exact .inl ⟨toNat_ofNat _ (by omega), one⟩
  right
  refine ⟨?_, by omega⟩
  by_cases two : character.toNat < 0x800
  · rw [encodeChar_of_two (by omega) two] at member
    simp only [List.mem_cons, List.not_mem_nil, or_false] at member
    rcases member with rfl | rfl <;> rw [toNat_ofNat _ (by omega)] <;> omega
  by_cases three : character.toNat < 0x10000
  · rw [encodeChar_of_three (by omega) three] at member
    simp only [List.mem_cons, List.not_mem_nil, or_false] at member
    rcases member with rfl | rfl | rfl <;>
      rw [toNat_ofNat _ (by omega)] <;> omega
  · rw [encodeChar_of_four (by omega)] at member
    simp only [List.mem_cons, List.not_mem_nil, or_false] at member
    rcases member with rfl | rfl | rfl | rfl <;>
      rw [toNat_ofNat _ (by omega)] <;> omega

theorem ofNat_mem_encodeChar_iff
    {code : Nat} (ascii : code < 0x80) (character : Char) :
    UInt8.ofNat code ∈ encodeChar character ↔ character = Char.ofNat code := by
  have sameCode := toNat_ofNat code (by omega)
  constructor
  · intro member
    rcases toNat_of_mem_encodeChar member with ⟨equal, _⟩ | ⟨large, _⟩
    · rw [← sameCode, equal, Char.ofNat_toNat]
    · omega
  · rintro rfl
    have kept : (Char.ofNat code).toNat = code :=
      toNat_charOfNat (Or.inl (by omega))
    rw [encodeChar_of_one (by omega), kept]
    exact List.mem_singleton_self _

theorem ofNat_mem_encode_iff
    {code : Nat} (ascii : code < 0x80) (text : List Char) :
    UInt8.ofNat code ∈ encode text ↔ Char.ofNat code ∈ text := by
  simp only [encode, List.mem_flatMap, ofNat_mem_encodeChar_iff ascii,
    exists_eq_right]

end Utf8

/-- An ASCII byte occurs where its character does. -/
theorem ofNat_mem_bytesOf_iff
    {code : Nat} (ascii : code < 0x80) (text : String) :
    UInt8.ofNat code ∈ bytesOf text ↔ Char.ofNat code ∈ text.toList :=
  Utf8.ofNat_mem_encode_iff ascii text.toList

end Text
end Deliveries
