import Deliveries.Dataset.Writing
import Deliveries.Proofs.Datetime.Spelling

/-!
# Reading canonical texts

The canonical text of a datetime is read as that datetime, whatever its year.
So canonical texts stay as they are when they are written again.
-/

namespace Deliveries
namespace Datetime

open Text

theorem spellsYear_yearText (year : Int) : SpellsYear (yearText year) year := by
  have run := Decimal.digits_padded 4 year.natAbs
  have value := Decimal.value_padded 4 year.natAbs
  unfold yearText
  split
  · next negative =>
    have spelled := SpellsYear.negative run
    rwa [value, Int.ofNat_natAbs_of_nonpos (Int.le_of_lt negative),
      Int.neg_neg] at spelled
  split
  · next large =>
    have spelled := SpellsYear.positive run
    rwa [value, Int.natAbs_of_nonneg (by omega)] at spelled
  · next nonnegative small =>
    have digits : (Nat.toDigits 10 year.natAbs).length ≤ 4 :=
      (Nat.length_toDigits_le_iff (by decide) (by decide)).mpr (by omega)
    have spelled := SpellsYear.unsigned run (Decimal.length_padded digits).le
    rwa [value, Int.natAbs_of_nonneg (by omega)] at spelled

theorem spellsNumber_padded {number : Nat} (small : number < 100) :
    SpellsNumber (Decimal.padded 2 number) number := by
  have digits : (Nat.toDigits 10 number).length ≤ 2 :=
    (Nat.length_toDigits_le_iff (by decide) (by decide)).mpr small
  have spelled := SpellsNumber.digits (Decimal.digits_padded 2 number)
    (Decimal.length_padded digits).le
  rwa [Decimal.value_padded] at spelled

/-- The canonical text spells the numbers of the datetime. -/
theorem spells_textWith_blank (datetime : Datetime) :
    Spells (datetime.textWith ' ') datetime.parts := by
  have month := datetime.month_mem
  have day := datetime.day_mem
  have days := Calendar.daysIn_le datetime.year datetime.month
  have hour := datetime.hour_lt
  have minute := datetime.minute_lt
  have second := datetime.second_le
  have tight : Blanks [] := nofun
  have blank : Blanks [' '] := List.forall_mem_singleton.mpr (by decide)
  refine ⟨_, _, ?_,
    .pieces tight (spellsYear_yearText datetime.year)
      tight (spellsNumber_padded (by omega : datetime.month < 100))
      tight (spellsNumber_padded (by omega : datetime.day < 100))
      blank (spellsNumber_padded (by omega : datetime.hour < 100))
      tight (spellsNumber_padded (by omega : datetime.minute < 100))
      fun _ => List.cons_ne_nil _ _,
    .present tight (spellsNumber_padded (by omega : datetime.second < 100))⟩
  simp only [textWith, List.append_assoc, List.cons_append, List.nil_append]

/-- The canonical text of a datetime is read as that datetime. -/
theorem parse?_text (datetime : Datetime) :
    parse? datetime.text = some datetime := by
  rw [parse?_eq_some_iff, toList_text]
  exact spells_textWith_blank datetime

/-! ## Normal texts -/

theorem normalize_of_parse?
    {text : String} {datetime : Datetime}
    (read : parse? text = some datetime) : normalize text = datetime.text := by
  rw [normalize, read]

theorem normalize_of_parse?_none
    {text : String} (unread : parse? text = none) : normalize text = text := by
  rw [normalize, unread]

/-- A normal text denotes what the text denoted. -/
@[simp] theorem parse?_normalize (text : String) :
    parse? (normalize text) = parse? text := by
  cases read : parse? text with
  | none => rw [normalize_of_parse?_none read, read]
  | some datetime => rw [normalize_of_parse? read, parse?_text]

@[simp] theorem normalize_normalize (text : String) :
    normalize (normalize text) = normalize text := by
  cases read : parse? text with
  | none => rw [normalize_of_parse?_none read, normalize_of_parse?_none read]
  | some datetime =>
    rw [normalize_of_parse? read, normalize_of_parse? (parse?_text datetime)]

end Datetime
end Deliveries
