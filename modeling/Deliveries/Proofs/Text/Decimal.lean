import Deliveries.Text.Blank
import Deliveries.Text.Decimal

/-!
# Reading written numbers

A run of digits is read in full when the limit allows it and no other digit
follows; digits up to the limit are read whatever follows.  Nothing else is read
as a number.
-/

namespace Deliveries
namespace Text
namespace Decimal

/-- A run of one or more ASCII digits. -/
structure Digits (text : List Char) : Prop where
  nonempty : text ≠ []
  digital : ∀ character ∈ text, character.isDigit = true

/-- A text that does not go on with a digit ends the digits before it. -/
def EndsDigits (text : List Char) : Prop :=
  ∀ character ∈ text.head?, character.isDigit = false

theorem endsDigits_nil : EndsDigits [] := nofun

theorem endsDigits_cons
    {character : Char} (other : character.isDigit = false)
    (rest : List Char) : EndsDigits (character :: rest) := by
  rintro _ ⟨⟩
  exact other

/-- Digits do not end the digits before them. -/
theorem Digits.not_endsDigits
    {digits : List Char} (run : Digits digits) (rest : List Char) :
    ¬ EndsDigits (digits ++ rest) := by
  obtain ⟨digit, others, rfl⟩ := List.exists_cons_of_ne_nil run.nonempty
  intro ends
  have digital := run.digital digit List.mem_cons_self
  rw [ends digit rfl] at digital
  cases digital

/-- Digits begin with no other character. -/
theorem Digits.append_ne_cons
    {digits : List Char} (run : Digits digits) {character : Char}
    (other : character.isDigit = false) {rest after : List Char} :
    digits ++ rest ≠ character :: after := by
  intro equal
  apply run.not_endsDigits rest
  rw [equal]
  exact endsDigits_cons other after

/-! ## Runs of digits -/

/-- A run of digits that reaches the limit, or ends before something else, is
split off. -/
theorem splitDigits_digits_append
    {digits rest : List Char} {limit : Nat}
    (digital : ∀ character ∈ digits, character.isDigit = true)
    (le : digits.length ≤ limit)
    (stop : digits.length < limit → EndsDigits rest) :
    splitDigits limit (digits ++ rest) = (digits, rest) := by
  induction digits generalizing limit with
  | nil =>
    cases limit with
    | zero => rfl
    | succ limit =>
      cases rest with
      | nil => rfl
      | cons character tail =>
        have solid : character.isDigit = false :=
          stop (Nat.succ_pos limit) character rfl
        simp [splitDigits, solid]
  | cons digit digits ih =>
    cases limit with
    | zero => simp at le
    | succ limit =>
      have first : digit.isDigit = true := digital digit List.mem_cons_self
      have others : splitDigits limit (digits ++ rest) = (digits, rest) := by
        apply ih
        · exact fun other member =>
            digital other (List.mem_cons_of_mem digit member)
        · simpa using le
        · intro short
          exact stop (by simpa using short)
      simp [splitDigits, first, others]

/-- Short of the limit, the digits end before something else. -/
theorem endsDigits_of_splitDigits
    {limit : Nat} {text : List Char}
    (short : (splitDigits limit text).1.length < limit) :
    EndsDigits (splitDigits limit text).2 := by
  induction limit generalizing text with
  | zero => exact absurd short (Nat.not_lt_zero _)
  | succ limit ih =>
    cases text with
    | nil => exact endsDigits_nil
    | cons head rest =>
      by_cases digit : head.isDigit = true
      · simp only [splitDigits, digit, if_true, List.length_cons,
          Nat.succ_lt_succ_iff] at short ⊢
        exact ih short
      · rw [splitDigits, if_neg digit]
        exact endsDigits_cons (Bool.eq_false_iff.mpr digit) rest

theorem number?_digits_append
    {digits rest : List Char} {limit : Nat}
    (run : Digits digits) (le : digits.length ≤ limit)
    (stop : digits.length < limit → EndsDigits rest) :
    number? limit (digits ++ rest) = some (value digits, rest) := by
  have split := splitDigits_digits_append run.digital le stop
  obtain ⟨digit, others, rfl⟩ := List.exists_cons_of_ne_nil run.nonempty
  unfold number?
  rw [split]

/-- A number is what its digits denote.  They are as many as there are, up to
the limit. -/
theorem number?_eq_some_iff
    {limit number : Nat} {text rest : List Char} :
    number? limit text = some (number, rest) ↔
      ∃ digits, text = digits ++ rest ∧ Digits digits ∧
        digits.length ≤ limit ∧
        (digits.length < limit → EndsDigits rest) ∧
        value digits = number := by
  constructor
  · intro read
    have whole := splitDigits_append limit text
    have le := length_splitDigits_le limit text
    have digital : ∀ character ∈ (splitDigits limit text).1,
        character.isDigit = true := fun _ => isDigit_of_mem_splitDigits
    have stop : (splitDigits limit text).1.length < limit →
        EndsDigits (splitDigits limit text).2 := endsDigits_of_splitDigits
    unfold number? at read
    split at read
    · cases read
    · next digits after nonempty split =>
      cases read
      rw [split] at whole digital le stop
      exact ⟨digits, whole.symm, ⟨nonempty, digital⟩, le, stop, rfl⟩
  · rintro ⟨digits, rfl, run, le, stop, rfl⟩
    exact number?_digits_append run le stop

/-! ## Padded numbers -/

theorem digits_padded (width number : Nat) : Digits (padded width number) :=
  ⟨by simp [padded, List.leftpad], fun _ => isDigit_of_mem_padded⟩

theorem length_padded
    {width number : Nat} (short : (Nat.toDigits 10 number).length ≤ width) :
    (padded width number).length = width := by
  rw [padded, List.length_leftpad]
  omega

/-! ## Digits and blanks -/

theorem isBlank_of_isDigit
    {character : Char} (digit : character.isDigit = true) :
    isBlank character = false := by
  simp only [Char.isDigit, Bool.and_eq_true, decide_eq_true_eq] at digit
  have lower : 48 ≤ character.toNat := digit.1
  have upper : character.toNat ≤ 57 := digit.2
  simp [isBlank, inRanges, blankRanges]
  omega

/-- No blank stands before digits. -/
theorem Digits.skipBlanks_append
    {digits : List Char} (run : Digits digits) (rest : List Char) :
    skipBlanks (digits ++ rest) = digits ++ rest := by
  obtain ⟨digit, others, rfl⟩ := List.exists_cons_of_ne_nil run.nonempty
  have solid := isBlank_of_isDigit (run.digital digit List.mem_cons_self)
  rw [List.cons_append, skipBlanks_cons_of_not_blank solid]

end Decimal
end Text
end Deliveries
