import Deliveries.Proofs.Csv.Text
import Deliveries.Proofs.Datetime.RoundTrip

/-!
# Canonical texts

A canonical text denotes its datetime, whatever the year and also in a leap
second.  So two texts that denote datetimes become the same normal text exactly
when the datetimes are the same.  A canonical text has no character that needs
quotes in a table.
-/

namespace Deliveries
namespace Datetime

open Text Csv

/-- Datetimes with the same canonical text are the same. -/
theorem text_injective
    {left right : Datetime} (equal : left.text = right.text) :
    left = right := by
  have read := parse?_text left
  rw [equal, parse?_text] at read
  exact (Option.some.inj read).symm

theorem normalize_eq_normalize_iff
    {left right : String} {first second : Datetime}
    (readLeft : parse? left = some first)
    (readRight : parse? right = some second) :
    normalize left = normalize right ↔ first = second := by
  rw [normalize_of_parse? readLeft, normalize_of_parse? readRight]
  constructor
  · exact text_injective
  · rintro rfl
    rfl

/-! ## Characters of canonical texts -/

theorem mem_yearText
    {year : Int} {character : Char} (member : character ∈ yearText year) :
    character.isDigit = true ∨ character = '-' ∨ character = '+' := by
  unfold yearText at member
  split at member
  · rcases List.mem_cons.mp member with sign | digit
    · exact .inr (.inl sign)
    · exact .inl (Decimal.isDigit_of_mem_padded digit)
  split at member
  · rcases List.mem_cons.mp member with sign | digit
    · exact .inr (.inr sign)
    · exact .inl (Decimal.isDigit_of_mem_padded digit)
  · exact .inl (Decimal.isDigit_of_mem_padded member)

/-- A written datetime consists of digits, signs, colons and the separator. -/
theorem mem_textWith
    {separator : Char} {datetime : Datetime} {character : Char}
    (member : character ∈ datetime.textWith separator) :
    character.isDigit = true ∨ character = '-' ∨ character = '+' ∨
      character = ':' ∨ character = separator := by
  have digit : ∀ number, character ∈ Decimal.padded 2 number →
      character.isDigit = true := fun _ => Decimal.isDigit_of_mem_padded
  have year := @mem_yearText datetime.year character
  simp only [textWith, List.mem_append, List.mem_cons] at member
  grind

/-- A canonical text stands bare in a table. -/
theorem plainText_text (datetime : Datetime) : PlainText datetime.text := by
  intro character member
  rw [toList_text] at member
  rcases mem_textWith member with digit | rfl | rfl | rfl | rfl
  · refine ⟨?_, ?_, ?_, ?_⟩ <;> rintro rfl <;> cases digit
  all_goals decide

/-- A normal text needs quotes only if it is no datetime and needed them
before. -/
theorem needsQuotes_normalize (text : String) :
    needsQuotes (bytesOf (normalize text)) =
      ((parse? text).isNone && needsQuotes (bytesOf text)) := by
  cases read : parse? text with
  | none =>
    rw [normalize_of_parse?_none read, Option.isNone_none, Bool.true_and]
  | some datetime =>
    rw [normalize_of_parse? read]
    exact (plain_iff_needsQuotes_eq_false _).mp
      ((plain_bytesOf_iff _).mpr (plainText_text datetime))

/-- A canonical text denotes its datetime.  Hence normal texts stay as they are
and denote what the texts denoted, they are equal for two texts that denote
datetimes exactly when these are the same, and none of them needs quotes unless
it is a text that denotes nothing and needed them before. -/
theorem canonical_text_denotes :
    (∀ datetime : Datetime, parse? datetime.text = some datetime) ∧
    (∀ text, normalize (normalize text) = normalize text ∧
      parse? (normalize text) = parse? text ∧
      needsQuotes (bytesOf (normalize text)) =
        ((parse? text).isNone && needsQuotes (bytesOf text))) ∧
    ∀ left right first second, parse? left = some first →
      parse? right = some second →
      (normalize left = normalize right ↔ first = second) := by
  refine ⟨parse?_text, fun text => ?_, ?_⟩
  · exact ⟨normalize_normalize text, parse?_normalize text,
      needsQuotes_normalize text⟩
  · intro left right first second readLeft readRight
    exact normalize_eq_normalize_iff readLeft readRight

/-- The leap second at the end of the year before 0. -/
def lastLeapSecond : Datetime where
  year := -1
  month := 12
  day := 31
  hour := 23
  minute := 59
  second := 60
  year_mem := by decide
  month_mem := by decide
  day_mem := by decide
  hour_lt := by decide
  minute_lt := by decide
  second_le := by decide

/-- Two texts of that second, one of which needs quotes. -/
theorem canonical_text_denotes_lastLeapSecond :
    parse? "-1-12-31 23:59:60" = some lastLeapSecond ∧
      parse? "-00001-12-31\n23:59:60" = some lastLeapSecond ∧
      normalize "-1-12-31 23:59:60" = normalize "-00001-12-31\n23:59:60" ∧
      needsQuotes (bytesOf "-00001-12-31\n23:59:60") = true ∧
      needsQuotes (bytesOf (normalize "-00001-12-31\n23:59:60")) = false := by
  have short : parse? "-1-12-31 23:59:60" = some lastLeapSecond := by
    decide +kernel
  have long : parse? "-00001-12-31\n23:59:60" = some lastLeapSecond := by
    decide +kernel
  obtain ⟨_, normal, same⟩ := canonical_text_denotes
  obtain ⟨_, _, quotes⟩ := normal "-00001-12-31\n23:59:60"
  rw [long] at quotes
  exact ⟨short, long, (same _ _ _ _ short long).mpr rfl, by decide +kernel,
    quotes⟩

end Datetime
end Deliveries
