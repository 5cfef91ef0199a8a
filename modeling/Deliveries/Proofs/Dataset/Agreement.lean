import Deliveries.Dataset.Extract
import Deliveries.Proofs.Datetime.RoundTrip
import Deliveries.Proofs.Dataset.WellFormed

/-!
# Agreement up to lines and normal datetimes

What a criteria makes of a row depends neither on its line nor on how its
datetime is written.  Datasets that differ in nothing else agree: filtered and
written they give the same bytes, or both end at the same datetime that cannot
be read, though perhaps on another line.
-/

namespace Deliveries

open Text Csv

/-! ## Canonical rows -/

namespace Row

/-- The row as it is read back when it was written, on an unknown line. -/
def canonical (columns : Columns) (row : Row) : Row :=
  ⟨0, row.normalized columns⟩

@[simp] theorem fields_canonical (columns : Columns) (row : Row) :
    (row.canonical columns).fields = row.normalized columns := rfl

/-- Canonical rows depend on nothing but fields. -/
theorem map_canonical (columns : Columns) (rows : List Row) :
    rows.map (·.canonical columns) =
      (rows.map (·.fields)).map
        fun fields => canonical columns ⟨0, fields⟩ := by
  rw [List.map_map]
  rfl

/-- What was written is canonical already. -/
theorem canonical_normalized (columns : Columns) (row : Row) :
    canonical columns ⟨0, row.normalized columns⟩ = row.canonical columns := by
  have twice : Datetime.normalize ∘ Datetime.normalize =
      Datetime.normalize := by
    funext text
    exact Datetime.normalize_normalize text
  rw [canonical, canonical, normalized, normalized, List.modify_modify_eq,
    twice]

theorem map_canonical_of_written
    {columns : Columns} {rows written : List Row}
    (fields : written.map (·.fields) = rows.map (·.normalized columns)) :
    written.map (·.canonical columns) = rows.map (·.canonical columns) := by
  rw [map_canonical, fields, List.map_map]
  apply List.map_congr_left
  intro row _
  exact canonical_normalized columns row

theorem district?_canonical
    {columns : Columns} (distinct : columns.district ≠ columns.datetime)
    (row : Row) :
    (row.canonical columns).district? columns = row.district? columns := by
  rw [district?, fields_canonical, normalized,
    List.getElem?_modify_ne _ _ distinct.symm, district?]

theorem datetimeText_canonical (columns : Columns) (row : Row) :
    (row.canonical columns).datetimeText columns =
      Datetime.normalize (row.datetimeText columns) := by
  have empty : Datetime.normalize "" = "" := rfl
  rw [datetimeText, datetime?, fields_canonical, normalized,
    List.getElem?_modify_eq, datetimeText, datetime?]
  cases row.fields[columns.datetime]? with
  | none => exact empty.symm
  | some text => rfl

end Row

namespace Criteria

theorem refuses_canonical
    (criteria : Criteria) {columns : Columns}
    (distinct : columns.district ≠ columns.datetime) (row : Row) :
    criteria.refuses columns (row.canonical columns) =
      criteria.refuses columns row := by
  rw [refuses, Row.district?_canonical distinct, Row.datetimeText_canonical,
    Datetime.parse?_normalize, refuses]

theorem admits_canonical
    (criteria : Criteria) {columns : Columns}
    (distinct : columns.district ≠ columns.datetime) (row : Row) :
    criteria.admits columns (row.canonical columns) =
      criteria.admits columns row := by
  rw [admits, Row.district?_canonical distinct, Row.datetimeText_canonical,
    Datetime.parse?_normalize, admits]

/-- A refused datetime is written as it stands. -/
theorem datetimeText_canonical_of_refuses
    {criteria : Criteria} {columns : Columns} {row : Row}
    (refused : criteria.refuses columns row = true) :
    (row.canonical columns).datetimeText columns =
      row.datetimeText columns := by
  have unread : Datetime.parse? (row.datetimeText columns) = none := by
    simp only [refuses, Bool.and_eq_true, Option.isNone_iff_eq_none] at refused
    exact refused.2.2
  rw [Row.datetimeText_canonical, Datetime.normalize_of_parse?_none unread]

/-- Refused rows with one canonical row have one datetime text. -/
theorem datetimeText_eq_of_refuses
    {criteria : Criteria} {columns : Columns} {row other : Row}
    (refused : criteria.refuses columns row = true)
    (otherRefused : criteria.refuses columns other = true)
    (same : row.canonical columns = other.canonical columns) :
    row.datetimeText columns = other.datetimeText columns := by
  rw [← datetimeText_canonical_of_refuses refused, same,
    datetimeText_canonical_of_refuses otherRefused]

end Criteria

/-! ## Agreement -/

/-- Two results agree when both are the same bytes, or both are the fault of a
datetime that cannot be read, with one text but perhaps on different lines. -/
inductive Agree :
    Except Fault (List UInt8) -> Except Fault (List UInt8) -> Prop
  | extracted (bytes : List UInt8) : Agree (.ok bytes) (.ok bytes)
  | refused (line otherLine : Nat) (value : String) :
      Agree (.error (.badDatetime line value))
        (.error (.badDatetime otherLine value))

theorem Agree.eq_ok
    {result : Except Fault (List UInt8)} {bytes : List UInt8}
    (agree : Agree result (.ok bytes)) : result = .ok bytes := by
  cases agree with
  | extracted => rfl

theorem Agree.symm
    {left right : Except Fault (List UInt8)} (agree : Agree left right) :
    Agree right left := by
  cases agree with
  | extracted bytes => exact .extracted bytes
  | refused line otherLine value => exact .refused otherLine line value

namespace Dataset

/-- Filters a dataset and writes what is kept. -/
def deliver (criteria : Criteria) (dataset : Dataset) :
    Except Fault (List UInt8) := do
  let kept ← dataset.filter criteria
  kept.write none

theorem extract_eq (criteria : Criteria) (bytes : List UInt8) :
    extract criteria bytes =
      (read (.ofBytes bytes)).result >>= (·.deliver criteria) := rfl

/-- A well-formed dataset is delivered unless a datetime that cannot be read
stands in the way. -/
theorem deliver_eq
    {dataset : Dataset} (wellFormed : dataset.WellFormed)
    (criteria : Criteria) :
    dataset.deliver criteria =
      match dataset.rows.find? (criteria.refuses dataset.columns) with
      | some row =>
        .error (.badDatetime row.line (row.datetimeText dataset.columns))
      | none =>
        .ok (rendering { dataset with
          rows := dataset.rows.filter
            (criteria.admits dataset.columns) }) := by
  have filtered := filter_eq criteria dataset
  rw [deliver]
  cases found : dataset.rows.find? (criteria.refuses dataset.columns) with
  | some row =>
    rw [found] at filtered
    rw [filtered]
    rfl
  | none =>
    rw [found] at filtered
    rw [filtered]
    exact write_unlimited (wellFormed.filter filtered).rectangular

/-- The first refused row is found among the canonical rows as well. -/
theorem find?_canonical
    (criteria : Criteria) {columns : Columns}
    (distinct : columns.district ≠ columns.datetime) (rows : List Row) :
    (rows.map (·.canonical columns)).find? (criteria.refuses columns) =
      (rows.find? (criteria.refuses columns)).map (·.canonical columns) := by
  rw [List.find?_map]
  congr 2
  funext row
  exact Criteria.refuses_canonical criteria distinct row

/-- The rows that are kept are the same among the canonical rows. -/
theorem filter_canonical
    (criteria : Criteria) {columns : Columns}
    (distinct : columns.district ≠ columns.datetime) (rows : List Row) :
    (rows.map (·.canonical columns)).filter (criteria.admits columns) =
      (rows.filter (criteria.admits columns)).map (·.canonical columns) := by
  rw [List.filter_map]
  congr 2
  funext row
  exact Criteria.admits_canonical criteria distinct row

/-- Only the canonical rows are written. -/
theorem rendering_of_canonical
    {header : List String} {columns : Columns} {rows otherRows : List Row}
    (same : rows.map (·.canonical columns) =
      otherRows.map (·.canonical columns)) :
    rendering ⟨header, columns, rows⟩ =
      rendering ⟨header, columns, otherRows⟩ := by
  have written : rows.map (·.normalized columns) =
      otherRows.map (·.normalized columns) := by
    have fields := congrArg (List.map (·.fields)) same
    rwa [List.map_map, List.map_map] at fields
  simp only [rendering, writtenRows, written]

/-- Datasets with the same header and the same canonical rows agree. -/
theorem agree_of_canonical
    {header : List String} {columns : Columns} {rows otherRows : List Row}
    (wellFormed : WellFormed ⟨header, columns, rows⟩)
    (otherWellFormed : WellFormed ⟨header, columns, otherRows⟩)
    (same : rows.map (·.canonical columns) =
      otherRows.map (·.canonical columns))
    (criteria : Criteria) :
    Agree (deliver criteria ⟨header, columns, rows⟩)
      (deliver criteria ⟨header, columns, otherRows⟩) := by
  have distinct : columns.district ≠ columns.datetime :=
    Columns.district_ne_datetime wellFormed.located
  have found : (rows.find? (criteria.refuses columns)).map
        (·.canonical columns) =
      (otherRows.find? (criteria.refuses columns)).map
        (·.canonical columns) := by
    rw [← find?_canonical criteria distinct, same,
      find?_canonical criteria distinct]
  have kept : (rows.filter (criteria.admits columns)).map
        (·.canonical columns) =
      (otherRows.filter (criteria.admits columns)).map
        (·.canonical columns) := by
    rw [← filter_canonical criteria distinct, same,
      filter_canonical criteria distinct]
  rw [deliver_eq wellFormed, deliver_eq otherWellFormed]
  cases refused : rows.find? (criteria.refuses columns) with
  | some row =>
    cases otherRefused : otherRows.find? (criteria.refuses columns) with
    | some other =>
      rw [refused, otherRefused] at found
      have text : row.datetimeText columns = other.datetimeText columns :=
        Criteria.datetimeText_eq_of_refuses (List.find?_some refused)
          (List.find?_some otherRefused) (Option.some.inj found)
      simp only [text]
      exact .refused row.line other.line _
    | none =>
      rw [refused, otherRefused] at found
      cases found
  | none =>
    cases otherRefused : otherRows.find? (criteria.refuses columns) with
    | some other =>
      rw [refused, otherRefused] at found
      cases found
    | none =>
      simp only [rendering_of_canonical kept]
      exact .extracted _

/-- Datasets with the same header and the same fields agree. -/
theorem agree_of_fields
    {header : List String} {columns : Columns} {rows otherRows : List Row}
    (wellFormed : WellFormed ⟨header, columns, rows⟩)
    (otherWellFormed : WellFormed ⟨header, columns, otherRows⟩)
    (same : rows.map (·.fields) = otherRows.map (·.fields))
    (criteria : Criteria) :
    Agree (deliver criteria ⟨header, columns, rows⟩)
      (deliver criteria ⟨header, columns, otherRows⟩) := by
  have canonical : rows.map (·.canonical columns) =
      otherRows.map (·.canonical columns) := by
    rw [Row.map_canonical, same, ← Row.map_canonical]
  exact agree_of_canonical wellFormed otherWellFormed canonical criteria

end Dataset
end Deliveries
