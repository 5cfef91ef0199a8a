/-!
# Decimal numbers

Numbers are written in ASCII digits, filled up with zeros on the left where a
least width is asked for, and read back from a run of such digits.
-/

namespace Deliveries
namespace Text
namespace Decimal

/-- The digits of a number, with zeros before them up to a least width. -/
def padded (width number : Nat) : List Char :=
  (Nat.toDigits 10 number).leftpad width '0'

/-- The number that a run of digits denotes. -/
def value (digits : List Char) : Nat :=
  Nat.ofDigitChars 10 digits 0

/-- Splits off the digits at the start of a text, at most `limit` of them. -/
def splitDigits : Nat -> List Char -> List Char × List Char
  | 0, text => ([], text)
  | _ + 1, [] => ([], [])
  | limit + 1, character :: rest =>
    if character.isDigit then
      let (digits, after) := splitDigits limit rest
      (character :: digits, after)
    else
      ([], character :: rest)

/-- Reads a number of one to `limit` digits, as many as there are. -/
def number? (limit : Nat) (text : List Char) : Option (Nat × List Char) :=
  match splitDigits limit text with
  | ([], _) => none
  | (digits, rest) => some (value digits, rest)

/-- Padding with zeros does not change the number. -/
@[simp] theorem value_padded (width number : Nat) :
    value (padded width number) = number := by
  simp [value, padded, List.leftpad, Nat.ofDigitChars_append,
    Nat.ofDigitChars_replicate_zero, Nat.ofDigitChars_ten_toDigits]

theorem isDigit_of_mem_padded
    {width number : Nat} {character : Char}
    (member : character ∈ padded width number) :
    character.isDigit = true := by
  simp only [padded, List.leftpad, List.mem_append, List.mem_replicate]
    at member
  rcases member with ⟨_, rfl⟩ | member
  · rfl
  · exact Nat.isDigit_of_mem_toDigits (by decide) (by decide) member

/-- Splitting loses nothing. -/
theorem splitDigits_append (limit : Nat) (text : List Char) :
    (splitDigits limit text).1 ++ (splitDigits limit text).2 = text := by
  induction limit generalizing text with
  | zero => rfl
  | succ limit ih =>
    cases text with
    | nil => rfl
    | cons character rest =>
      by_cases digit : character.isDigit = true
      · simp [splitDigits, digit, ih rest]
      · simp [splitDigits, digit]

theorem isDigit_of_mem_splitDigits
    {limit : Nat} {text : List Char} {character : Char}
    (member : character ∈ (splitDigits limit text).1) :
    character.isDigit = true := by
  induction limit generalizing text with
  | zero => simp [splitDigits] at member
  | succ limit ih =>
    cases text with
    | nil => simp [splitDigits] at member
    | cons head rest =>
      by_cases digit : head.isDigit = true
      · simp only [splitDigits, digit, if_true, List.mem_cons] at member
        rcases member with rfl | member
        · exact digit
        · exact ih member
      · simp [splitDigits, digit] at member

theorem length_splitDigits_le (limit : Nat) (text : List Char) :
    (splitDigits limit text).1.length ≤ limit := by
  induction limit generalizing text with
  | zero => simp [splitDigits]
  | succ limit ih =>
    cases text with
    | nil => simp [splitDigits]
    | cons character rest =>
      by_cases digit : character.isDigit = true
      · simpa [splitDigits, digit] using ih rest
      · simp [splitDigits, digit]

end Decimal
end Text
end Deliveries
