import Deliveries.Proofs.Datetime.Canonical
import Deliveries.Proofs.Text.Ordering

/-!
# Order of canonical texts

Among the years that are written with four digits the bytes of canonical texts
are ordered as the datetimes are, leap seconds included: every component has its
own width, and the first one that differs decides on both sides.
-/

namespace Deliveries

open Text

/-- Padded numbers with the same mark behind them are ordered as the numbers
are, and as what follows the mark when the numbers are the same. -/
theorem Text.Decimal.padded_append_lt
    {width number other : Nat}
    (short : (Nat.toDigits 10 number).length ≤ width)
    (otherShort : (Nat.toDigits 10 other).length ≤ width)
    (mark : Char) {rest otherRest : List Char} {decides : Prop}
    (later : decides → rest < otherRest)
    (less : number < other ∨ number = other ∧ decides) :
    padded width number ++ mark :: rest <
      padded width other ++ mark :: otherRest := by
  rcases less with less | ⟨rfl, decided⟩
  · apply append_lt_append
    · rw [length_padded short, length_padded otherShort]
    · exact padded_lt_padded short otherShort less
  · exact List.append_left_lt (List.cons_lt_cons_self.mpr (later decided))

namespace Datetime

/-- Whether the year is written with four digits and without a sign. -/
def FourDigitYear (datetime : Datetime) : Prop :=
  0 ≤ datetime.year ∧ datetime.year ≤ 9999

instance (datetime : Datetime) : Decidable datetime.FourDigitYear :=
  inferInstanceAs (Decidable (_ ∧ _))

/-- Datetimes are ordered by the first component in which they differ. -/
theorem lt_iff_parts (left right : Datetime) :
    left < right ↔
      left.year < right.year ∨ left.year = right.year ∧
      (left.month < right.month ∨ left.month = right.month ∧
      (left.day < right.day ∨ left.day = right.day ∧
      (left.hour < right.hour ∨ left.hour = right.hour ∧
      (left.minute < right.minute ∨ left.minute = right.minute ∧
        left.second < right.second)))) := by
  have days := Calendar.daysIn_le left.year left.month
  have otherDays := Calendar.daysIn_le right.year right.month
  obtain ⟨_, _, _, _, _, _, _, _, _, _, _, _⟩ := left
  obtain ⟨_, _, _, _, _, _, _, _, _, _, _, _⟩ := right
  simp only [lt_def, rank] at *
  omega

theorem yearText_of_four
    {datetime : Datetime} (four : datetime.FourDigitYear) :
    yearText datetime.year = Decimal.padded 4 datetime.year.natAbs := by
  obtain ⟨nonnegative, small⟩ := four
  rw [yearText, if_neg (by omega), if_neg (by omega)]

theorem textWith_lt_textWith
    {left right : Datetime} (four : left.FourDigitYear)
    (otherFour : right.FourDigitYear) (separator : Char)
    (less : left < right) :
    left.textWith separator < right.textWith separator := by
  have two : ∀ number : Nat, number < 100 →
      (Nat.toDigits 10 number).length ≤ 2 := fun _ small =>
    (Nat.length_toDigits_le_iff (by decide) (by decide)).mpr small
  have fourDigits : ∀ number : Nat, number < 10000 →
      (Nat.toDigits 10 number).length ≤ 4 := fun _ small =>
    (Nat.length_toDigits_le_iff (by decide) (by decide)).mpr small
  have day := left.day_mem
  have days := Calendar.daysIn_le left.year left.month
  have otherDay := right.day_mem
  have otherDays := Calendar.daysIn_le right.year right.month
  have month := left.month_mem
  have otherMonth := right.month_mem
  have hour := left.hour_lt
  have otherHour := right.hour_lt
  have minute := left.minute_lt
  have otherMinute := right.minute_lt
  have second := left.second_le
  have otherSecond := right.second_le
  simp only [textWith, yearText_of_four four, yearText_of_four otherFour,
    List.append_assoc, List.cons_append]
  obtain ⟨nonnegative, small⟩ := four
  obtain ⟨otherNonnegative, otherSmall⟩ := otherFour
  have years : left.year.natAbs < right.year.natAbs ∨
      left.year.natAbs = right.year.natAbs ∧ _ :=
    ((lt_iff_parts left right).mp less).imp
      (fun before => by omega) (And.imp_left fun same => by rw [same])
  refine Decimal.padded_append_lt (fourDigits _ (by omega))
    (fourDigits _ (by omega)) '-' ?_ years
  refine Decimal.padded_append_lt (two _ (by omega)) (two _ (by omega)) '-' ?_
  refine Decimal.padded_append_lt (two _ (by omega)) (two _ (by omega))
    separator ?_
  refine Decimal.padded_append_lt (two _ (by omega)) (two _ (by omega)) ':' ?_
  refine Decimal.padded_append_lt (two _ (by omega)) (two _ (by omega)) ':' ?_
  exact Decimal.padded_lt_padded (two _ (by omega)) (two _ (by omega))

/-! ## Bytes -/

theorem ascii_textWith
    {separator : Char} (ascii : separator.toNat < 0x80) (datetime : Datetime) :
    ∀ character ∈ datetime.textWith separator, character.toNat < 0x80 := by
  intro character member
  rcases mem_textWith member with digit | rfl | rfl | rfl | rfl
  · have bound := (Decimal.digit_le digit).2
    have nine : '0'.toNat + 9 = 57 := rfl
    omega
  · decide
  · decide
  · decide
  · exact ascii

theorem bytesOf_text_lt_bytesOf_text
    {left right : Datetime} (four : left.FourDigitYear)
    (otherFour : right.FourDigitYear) (less : left < right) :
    bytesOf left.text < bytesOf right.text := by
  have ascii := ascii_textWith (by decide : ' '.toNat < 0x80)
  rw [bytesOf, bytesOf, toList_text, toList_text]
  exact Utf8.encode_lt_encode (ascii left) (ascii right)
    (textWith_lt_textWith four otherFour ' ' less)

/-- The bytes of canonical texts are ordered as the datetimes are. -/
theorem bytesOf_text_lt_iff
    {left right : Datetime} (four : left.FourDigitYear)
    (otherFour : right.FourDigitYear) :
    bytesOf left.text < bytesOf right.text ↔ left < right := by
  constructor
  · intro ordered
    apply Decidable.byContradiction
    intro notLess
    by_cases reversed : right < left
    · have back := bytesOf_text_lt_bytesOf_text otherFour four reversed
      exact List.lt_asymm ordered back
    · have same : left = right := by
        rw [lt_def] at notLess reversed
        exact rank_injective (by omega)
      rw [same] at ordered
      exact List.lt_irrefl _ ordered
  · exact bytesOf_text_lt_bytesOf_text four otherFour

theorem bytesOf_text_le_iff
    {left right : Datetime} (four : left.FourDigitYear)
    (otherFour : right.FourDigitYear) :
    bytesOf left.text ≤ bytesOf right.text ↔ left ≤ right := by
  rw [← List.not_lt, bytesOf_text_lt_iff otherFour four, lt_def, le_def,
    Int.not_lt]

end Datetime
end Deliveries
