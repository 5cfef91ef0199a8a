import Deliveries.Proofs.Criteria.Candidates
import Deliveries.Proofs.Dataset.Extract
import Deliveries.Proofs.Datetime.Ordering

/-!
# Extracts between bounds

The records of an extract are the rows that its criteria wants.  When a bound is
given, all of them have been read as datetimes between the bounds, so that all
of them are written in canonical text; and where years have four digits, that
text lies between the texts of the bounds as well.
-/

namespace Deliveries

open Text Csv

namespace Row

/-- A row that is read as a datetime is written with its canonical text. -/
theorem getElem?_normalized
    {columns : Columns} {row : Row} {datetime : Datetime}
    (read : row.instant? columns = some datetime) :
    (row.normalized columns)[columns.datetime]? = some datetime.text := by
  have empty : Datetime.parse? "" = none := rfl
  unfold instant? datetimeText datetime? at read
  rw [normalized, List.getElem?_modify_eq]
  cases present : row.fields[columns.datetime]? with
  | none =>
    rw [present, Option.getD_none, empty] at read
    cases read
  | some text =>
    rw [present, Option.getD_some] at read
    exact congrArg some (Datetime.normalize_of_parse? read)

end Row

namespace Criteria

/-- Where years have four digits, canonical texts stand to those of the bounds
as the datetimes do. -/
theorem Between.texts
    {criteria : Criteria} {datetime : Datetime}
    (between : criteria.Between datetime) {bound : Datetime}
    (four : datetime.FourDigitYear) (boundFour : bound.FourDigitYear) :
    (bytesOf datetime.text < bytesOf bound.text ↔ datetime < bound) ∧
    (bytesOf bound.text < bytesOf datetime.text ↔ bound < datetime) ∧
    (criteria.earliest = some bound →
      bytesOf bound.text ≤ bytesOf datetime.text) ∧
    (criteria.latest = some bound →
      bytesOf datetime.text ≤ bytesOf bound.text) := by
  refine ⟨Datetime.bytesOf_text_lt_iff four boundFour,
    Datetime.bytesOf_text_lt_iff boundFour four, ?_, ?_⟩
  · intro earliest
    exact (Datetime.bytesOf_text_le_iff boundFour four).mpr
      (between.1 bound earliest)
  · intro latest
    exact (Datetime.bytesOf_text_le_iff four boundFour).mpr
      (between.2 bound latest)

end Criteria

namespace Dataset

/-- The records of an extract are the header, without a mark at its start, and
the rows wanted with their datetimes in normal text. -/
theorem records_of_extract
    {criteria : Criteria} {bytes output : List UInt8}
    (extracted : extract criteria bytes = .ok output) :
    ∃ dataset, (read (.ofBytes bytes)).result = .ok dataset ∧
      (Source.ofBytes output).records.map (·.fields) =
        fieldsOf (dataset.header.modifyHead withoutMark ::
          (dataset.rows.filter (criteria.Wanted dataset.columns ·)).map
            (·.normalized dataset.columns)) := by
  obtain ⟨dataset, kept, reading, filtered, wellFormed, rfl⟩ :=
    exists_of_extract extracted
  obtain ⟨_, rfl⟩ := filter_eq_ok_iff.mp filtered
  have admitted : criteria.admits dataset.columns =
      fun row => decide (criteria.Wanted dataset.columns row) := by
    funext row
    exact criteria.admits_eq_decide dataset.columns row
  refine ⟨dataset, reading, ?_⟩
  rw [Source.records_of_layout (layout_rendering wellFormed.rectangular)]
  simp only [writtenRows, admitted]

/-- A criteria with a bound extracts, in their order, the rows that it wants.
Each of them stands there with the canonical text of a datetime between the
bounds, and where years have four digits the bytes of that text are ordered
against those of the bounds as the datetimes are. -/
theorem extract_between
    (criteria : Criteria) (bounded : criteria.hasRange = true)
    (bytes output : List UInt8)
    (extracted : extract criteria bytes = .ok output) :
    ∃ dataset table,
      (read (.ofBytes bytes)).result = .ok dataset ∧
      (Source.ofBytes output).records.map (·.fields) =
        fieldsOf (dataset.header.modifyHead withoutMark :: table) ∧
      table = (dataset.rows.filter (criteria.Wanted dataset.columns ·)).map
        (·.normalized dataset.columns) ∧
      ∀ texts ∈ table, ∃ datetime : Datetime,
        texts[dataset.columns.datetime]? = some datetime.text ∧
        Datetime.parse? datetime.text = some datetime ∧
        criteria.Between datetime ∧
        ∀ bound : Datetime, datetime.FourDigitYear → bound.FourDigitYear →
          (bytesOf datetime.text < bytesOf bound.text ↔ datetime < bound) ∧
          (bytesOf bound.text < bytesOf datetime.text ↔ bound < datetime) ∧
          (criteria.earliest = some bound →
            bytesOf bound.text ≤ bytesOf datetime.text) ∧
          (criteria.latest = some bound →
            bytesOf datetime.text ≤ bytesOf bound.text) := by
  obtain ⟨dataset, reading, records⟩ := records_of_extract extracted
  refine ⟨dataset, _, reading, records, rfl, ?_⟩
  intro texts member
  obtain ⟨row, kept, rfl⟩ := List.mem_map.mp member
  have wanted := of_decide_eq_true (List.mem_filter.mp kept).2
  obtain ⟨datetime, read, between⟩ := wanted.2 bounded
  exact ⟨datetime, Row.getElem?_normalized read, Datetime.parse?_text datetime,
    between, fun _ four boundFour => between.texts four boundFour⟩

/-- A table with datetimes before, in and after a leap second. -/
def aroundLeapSecond : List UInt8 :=
  bytesOf ("Id,District,Datetime,Weight\n1,A,2016-12-31 23:59,5\n" ++
    "2,B,+2016-12-31 23:59:60,6\n3,C,2017-1-1 0:00,7\n")

/-- Asks for the end of that minute. -/
def endOfMinute : Criteria where
  district := none
  earliest := Datetime.parse? "2016-12-31 23:59:59"
  latest := Datetime.parse? "2016-12-31 23:59:60"

/-- What is extracted is the row of the leap second. -/
def leapSecondAlone : List UInt8 :=
  bytesOf "Id,District,Datetime,Weight\n2,B,2016-12-31 23:59:60,6\n"

theorem extract_between_endOfMinute :
    endOfMinute.hasRange = true ∧
      extract endOfMinute aroundLeapSecond = .ok leapSecondAlone ∧
      ∃ dataset table,
        (read (.ofBytes aroundLeapSecond)).result = .ok dataset ∧
        (Source.ofBytes leapSecondAlone).records.map (·.fields) =
          fieldsOf (dataset.header.modifyHead withoutMark :: table) ∧
        ∀ texts ∈ table, ∃ datetime : Datetime,
          texts[dataset.columns.datetime]? = some datetime.text ∧
          endOfMinute.Between datetime ∧
          ∀ bound : Datetime, datetime.FourDigitYear → bound.FourDigitYear →
            endOfMinute.latest = some bound →
            bytesOf datetime.text ≤ bytesOf bound.text := by
  have bounded : endOfMinute.hasRange = true := by decide +kernel
  have extracted : extract endOfMinute aroundLeapSecond =
      .ok leapSecondAlone := by decide +kernel
  obtain ⟨dataset, table, reading, records, _, rows⟩ :=
    extract_between endOfMinute bounded _ _ extracted
  refine ⟨bounded, extracted, dataset, table, reading, records, ?_⟩
  intro texts member
  obtain ⟨datetime, text, _, between, ordered⟩ := rows texts member
  refine ⟨datetime, text, between, ?_⟩
  intro bound four boundFour latest
  exact (ordered bound four boundFour).2.2.2 latest

end Dataset
end Deliveries
