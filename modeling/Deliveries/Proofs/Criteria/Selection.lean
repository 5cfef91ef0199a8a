import Deliveries.Criteria

/-!
# Selections

A criteria refuses a row whose datetime it needs and cannot read, and admits
some of the others.  A selection ends at the first refused row, and consists of
the admitted ones when there is none.  Selecting twice is selecting once by what
both criteria ask for.
-/

namespace Deliveries

/-- The datetime text of a row, which is empty when the row lacks the
column. -/
def Row.datetimeText (columns : Columns) (row : Row) : String :=
  (row.datetime? columns).getD ""

namespace Criteria

/-! ## Single rows -/

/-- Whether a row has the district asked for and a datetime that is needed and
cannot be read. -/
def refuses (criteria : Criteria) (columns : Columns) (row : Row) : Bool :=
  criteria.admitsDistrict (row.district? columns) &&
    (criteria.hasRange &&
      (Datetime.parse? (row.datetimeText columns)).isNone)

/-- Whether what was read as a datetime lies between the bounds.  Without a
bound nothing needs to be read. -/
def admitsReading (criteria : Criteria) (reading : Option Datetime) : Bool :=
  !criteria.hasRange || reading.any criteria.admitsDatetime

/-- Whether a row has the district asked for and a datetime between the bounds,
if a bound is given. -/
def admits (criteria : Criteria) (columns : Columns) (row : Row) : Bool :=
  criteria.admitsDistrict (row.district? columns) &&
    criteria.admitsReading (Datetime.parse? (row.datetimeText columns))

theorem keeps_eq (criteria : Criteria) (columns : Columns) (row : Row) :
    criteria.keeps columns row =
      if criteria.refuses columns row then
        .error (.badDatetime row.line (row.datetimeText columns))
      else
        .ok (criteria.admits columns row) := by
  unfold keeps refuses admits admitsReading
  cases criteria.admitsDistrict (row.district? columns) with
  | false => rfl
  | true =>
    cases criteria.hasRange with
    | false => rfl
    | true =>
      have text : (row.datetime? columns).getD "" =
          row.datetimeText columns := rfl
      simp only [if_true, text]
      cases Datetime.parse? (row.datetimeText columns) with
      | none => rfl
      | some datetime => simp

/-! ## Selections -/

/-- A selection ends with the first refused row; without one it consists of the
admitted rows. -/
theorem select_eq (criteria : Criteria) (columns : Columns) (rows : List Row) :
    criteria.select columns rows =
      match rows.find? (criteria.refuses columns) with
      | some row => .error (.badDatetime row.line (row.datetimeText columns))
      | none => .ok (rows.filter (criteria.admits columns)) := by
  induction rows with
  | nil => rfl
  | cons row rest ih =>
    rw [select, keeps_eq, ih]
    cases refused : criteria.refuses columns row with
    | true =>
      rw [List.find?_cons_of_pos refused]
      rfl
    | false =>
      rw [List.find?_cons_of_neg (by simp [refused])]
      cases rest.find? (criteria.refuses columns) with
      | some other => rfl
      | none =>
        cases admitted : criteria.admits columns row with
        | true =>
          rw [List.filter_cons_of_pos admitted]
          rfl
        | false =>
          rw [List.filter_cons_of_neg (by simp [admitted])]
          rfl

theorem refuses_of_not_hasRange
    {criteria : Criteria} (unbounded : criteria.hasRange = false)
    (columns : Columns) (row : Row) :
    criteria.refuses columns row = false := by
  simp [refuses, unbounded]

theorem isEmpty_eq_true_iff (criteria : Criteria) :
    criteria.isEmpty = true ↔
      criteria.district = none ∧ criteria.hasRange = false := by
  simp [isEmpty]

theorem admits_of_isEmpty
    {criteria : Criteria} (empty : criteria.isEmpty = true)
    (columns : Columns) (row : Row) :
    criteria.admits columns row = true := by
  obtain ⟨anywhere, unbounded⟩ := (isEmpty_eq_true_iff criteria).mp empty
  simp [admits, admitsReading, admitsDistrict, anywhere, unbounded]

end Criteria

/-- A dataset is filtered as its rows are selected, also by a criteria that asks
for nothing. -/
theorem Dataset.filter_eq (criteria : Criteria) (dataset : Dataset) :
    dataset.filter criteria =
      match dataset.rows.find? (criteria.refuses dataset.columns) with
      | some row =>
        .error (.badDatetime row.line (row.datetimeText dataset.columns))
      | none =>
        .ok { dataset with
          rows := dataset.rows.filter (criteria.admits dataset.columns) } := by
  unfold filter
  split
  · next empty =>
    have unbounded := ((Criteria.isEmpty_eq_true_iff criteria).mp empty).2
    have unrefused : dataset.rows.find? (criteria.refuses dataset.columns) =
        none := by
      simp [Criteria.refuses_of_not_hasRange unbounded]
    have all : dataset.rows.filter (criteria.admits dataset.columns) =
        dataset.rows :=
      List.filter_eq_self.mpr fun row _ =>
        Criteria.admits_of_isEmpty empty dataset.columns row
    rw [unrefused, all]
  · rw [Criteria.select_eq]
    cases dataset.rows.find? (criteria.refuses dataset.columns) with
    | some row => rfl
    | none => rfl

/-- A filter fails only at the first row that its criteria refuses, and tells
the line of that row. -/
theorem Dataset.filter_eq_error_iff
    {criteria : Criteria} {dataset : Dataset} {fault : Fault} :
    dataset.filter criteria = .error fault ↔
      ∃ row, dataset.rows.find? (criteria.refuses dataset.columns) =
          some row ∧
        fault = .badDatetime row.line (row.datetimeText dataset.columns) := by
  rw [filter_eq]
  cases dataset.rows.find? (criteria.refuses dataset.columns) with
  | none => simp
  | some row => simp [eq_comm]

end Deliveries
