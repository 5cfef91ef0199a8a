import Deliveries.Proofs.Text.Ascii
import Deliveries.Proofs.Text.Decimal

/-!
# Order of texts

Texts are ordered by the first characters in which they differ.  Numbers that
are padded to one width are ordered as the numbers are, and the bytes of ASCII
texts as the texts are.
-/

namespace Deliveries
namespace Text

/-- Texts are ordered by their fronts when these differ and have one length. -/
theorem append_lt_append
    {left right : List Char} (width : left.length = right.length)
    (less : left < right) (rest other : List Char) :
    left ++ rest < right ++ other := by
  change List.Lex (· < ·) left right at less
  change List.Lex (· < ·) (left ++ rest) (right ++ other)
  induction less with
  | nil => cases width
  | rel first => exact .rel first
  | cons later ih => exact .cons (ih (Nat.succ.inj width))

/-! ## Numbers -/

namespace Decimal

theorem digit_le
    {character : Char} (digit : character.isDigit = true) :
    '0'.toNat ≤ character.toNat ∧ character.toNat ≤ '0'.toNat + 9 := by
  simp only [Char.isDigit, Bool.and_eq_true, decide_eq_true_eq] at digit
  exact ⟨digit.1, digit.2⟩

/-- Digits go on a number: of two numbers that go on with as many digits, the
one that was smaller stays so, and between equal ones the digits decide. -/
theorem ofDigitChars_lt_ofDigitChars
    {left right : List Char} (width : left.length = right.length)
    (digits : ∀ character ∈ left, character.isDigit = true)
    (otherDigits : ∀ character ∈ right, character.isDigit = true)
    {number other : Nat}
    (less : number < other ∨ number = other ∧ left < right) :
    Nat.ofDigitChars 10 left number < Nat.ofDigitChars 10 right other := by
  induction left generalizing right number other with
  | nil =>
    rw [List.eq_nil_of_length_eq_zero width.symm] at less ⊢
    rcases less with less | ⟨_, less⟩
    · exact less
    · cases less
  | cons digit rest ih =>
    cases right with
    | nil => cases width
    | cons otherDigit otherRest =>
      have bound := digit_le (digits digit List.mem_cons_self)
      have otherBound :=
        digit_le (otherDigits otherDigit List.mem_cons_self)
      rw [Nat.ofDigitChars_cons, Nat.ofDigitChars_cons]
      apply ih (Nat.succ.inj width)
      · exact fun character member =>
          digits character (List.mem_cons_of_mem digit member)
      · exact fun character member =>
          otherDigits character (List.mem_cons_of_mem otherDigit member)
      rcases less with less | ⟨rfl, less⟩
      · left
        omega
      rcases List.cons_lt_cons_iff.mp less with first | ⟨rfl, later⟩
      · have firstLess : digit.toNat < otherDigit.toNat := first
        left
        omega
      · exact .inr ⟨rfl, later⟩

/-- Numbers that are padded to one width are ordered as texts. -/
theorem padded_lt_padded
    {width left right : Nat}
    (short : (Nat.toDigits 10 left).length ≤ width)
    (otherShort : (Nat.toDigits 10 right).length ≤ width)
    (less : left < right) : padded width left < padded width right := by
  have sameWidth : (padded width right).length = (padded width left).length := by
    rw [length_padded short, length_padded otherShort]
  rcases Std.lt_trichotomy (padded width left) (padded width right) with
    ordered | equal | reversed
  · exact ordered
  · have same := value_padded width left
    rw [equal, value_padded] at same
    omega
  · have numbers := ofDigitChars_lt_ofDigitChars sameWidth
      (digits_padded width right).digital (digits_padded width left).digital
      (.inr ⟨rfl, reversed⟩ : 0 < 0 ∨ 0 = 0 ∧ _)
    have value := value_padded width left
    have otherValue := value_padded width right
    unfold Decimal.value at value otherValue
    omega

end Decimal

/-! ## Bytes -/

/-- The bytes of ASCII texts are ordered as the texts are. -/
theorem Utf8.encode_lt_encode
    {left right : List Char}
    (ascii : ∀ character ∈ left, character.toNat < 0x80)
    (otherAscii : ∀ character ∈ right, character.toNat < 0x80)
    (less : left < right) : encode left < encode right := by
  change List.Lex (· < ·) left right at less
  induction less with
  | @nil character rest =>
    have one := otherAscii character List.mem_cons_self
    rw [encode_nil, encode_cons, encodeChar_of_one one]
    exact .nil
  | @rel first _ other _ differ =>
    have one := ascii first List.mem_cons_self
    have otherOne := otherAscii other List.mem_cons_self
    rw [encode_cons, encode_cons, encodeChar_of_one one,
      encodeChar_of_one otherOne]
    apply List.Lex.rel
    rw [UInt8.lt_iff_toNat_lt, toNat_ofNat _ (by omega),
      toNat_ofNat _ (by omega)]
    exact differ
  | @cons first _ _ _ ih =>
    rw [encode_cons, encode_cons]
    apply List.append_left_lt
    apply ih
    · exact fun character member =>
        ascii character (List.mem_cons_of_mem first member)
    · exact fun character member =>
        otherAscii character (List.mem_cons_of_mem first member)

end Text
end Deliveries
