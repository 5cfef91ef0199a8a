import Mathlib.Data.List.Basic
import Deliveries.Proofs.Criteria.Selection

/-!
# What a filter looks at

A filter looks at the district and the datetime of every row and at nothing
else.  Datasets whose rows agree in these, each under columns of its own, are
filtered alike: the rows at the same positions are kept, or the same datetime
at the same position ends both filters.
-/

namespace Deliveries

/-- Two rows are alike, each under its own columns, when both hold the same
district or lack it, and both hold the same datetime text or lack it. -/
structure Row.Alike (leftColumns rightColumns : Columns) (left right : Row) :
    Prop where
  district_eq : left.district? leftColumns = right.district? rightColumns
  datetime_eq : left.datetime? leftColumns = right.datetime? rightColumns

/-- Two datasets are alike when they have as many rows and the rows at the same
position are alike.  Headers, columns and other fields may differ. -/
structure Dataset.Alike (left right : Dataset) : Prop where
  length_eq : left.rows.length = right.rows.length
  rows_alike : ∀ (position : Nat) (leftRow rightRow : Row),
    left.rows[position]? = some leftRow ->
    right.rows[position]? = some rightRow ->
    Row.Alike left.columns right.columns leftRow rightRow

namespace Criteria

/-! ## Alike rows -/

section Rows

variable {leftColumns rightColumns : Columns} {left right : Row}

theorem datetimeText_eq_of_alike
    (alike : Row.Alike leftColumns rightColumns left right) :
    left.datetimeText leftColumns = right.datetimeText rightColumns := by
  rw [Row.datetimeText, Row.datetimeText, alike.datetime_eq]

theorem refuses_eq_of_alike
    (alike : Row.Alike leftColumns rightColumns left right)
    (criteria : Criteria) :
    criteria.refuses leftColumns left =
      criteria.refuses rightColumns right := by
  rw [refuses, refuses, alike.district_eq, datetimeText_eq_of_alike alike]

theorem admits_eq_of_alike
    (alike : Row.Alike leftColumns rightColumns left right)
    (criteria : Criteria) :
    criteria.admits leftColumns left = criteria.admits rightColumns right := by
  rw [admits, admits, alike.district_eq, datetimeText_eq_of_alike alike]

end Rows

/-! ## Positions -/

/-- A filter keeps exactly the rows at the given positions, in their order. -/
structure KeepsAt (criteria : Criteria) (dataset : Dataset)
    (positions : List Nat) : Prop where
  ascending : positions.Pairwise (· < ·)
  filter_eq : ∃ rows,
    rows.map some = positions.map (dataset.rows[·]?) ∧
      dataset.filter criteria = .ok { dataset with rows }

/-- A filter fails for the row at the given position, with the line of that row
and the given value, and for no row before. -/
structure FailsAt (criteria : Criteria) (dataset : Dataset) (position : Nat)
    (row : Row) (value : String) : Prop where
  row_eq : dataset.rows[position]? = some row
  keeps_eq : criteria.keeps dataset.columns row =
    .error (.badDatetime row.line value)
  before : ∀ earlier ∈ dataset.rows.take position,
    ∃ kept, criteria.keeps dataset.columns earlier = .ok kept
  filter_eq : dataset.filter criteria = .error (.badDatetime row.line value)

/-- The rows that satisfy a test are those at the positions where it holds. -/
theorem map_some_filter (test : Row -> Bool) (rows : List Row) :
    (rows.filter test).map some = (rows.findIdxs test).map (rows[·]?) := by
  apply List.ext_getElem
  · simp [List.countP_eq_length_filter]
  · intro index inLeft inRight
    rw [List.length_map] at inLeft
    rw [List.getElem_map, List.getElem_map,
      List.getElem_filter_eq_getElem_getElem_findIdxs inLeft]
    exact (List.getElem?_eq_getElem _).symm

theorem keepsAt_of_findIdx?_eq_none
    {criteria : Criteria} {dataset : Dataset}
    (unrefused : dataset.rows.findIdx? (criteria.refuses dataset.columns) =
      none) :
    criteria.KeepsAt dataset
      (dataset.rows.findIdxs (criteria.admits dataset.columns)) := by
  have none_refused : dataset.rows.find? (criteria.refuses dataset.columns) =
      none := by
    simpa [List.findIdx?_eq_none_iff] using unrefused
  refine ⟨List.pairwise_findIdxs, _, map_some_filter _ dataset.rows, ?_⟩
  rw [Dataset.filter_eq, none_refused]

theorem failsAt_of_findIdx?_eq_some
    {criteria : Criteria} {dataset : Dataset} {position : Nat}
    (refused : dataset.rows.findIdx? (criteria.refuses dataset.columns) =
      some position) :
    ∃ row, criteria.FailsAt dataset position row
      (row.datetimeText dataset.columns) := by
  obtain ⟨inside, refuses, before⟩ :=
    List.findIdx?_eq_some_iff_getElem.mp refused
  refine ⟨dataset.rows[position], List.getElem?_eq_getElem inside, ?_, ?_, ?_⟩
  · rw [Criteria.keeps_eq, if_pos refuses]
  · intro earlier member
    obtain ⟨index, within, rfl⟩ := List.mem_take_iff_getElem.mp member
    have less : index < position := by omega
    rw [Criteria.keeps_eq, if_neg (before index less)]
    exact ⟨_, rfl⟩
  · have found : dataset.rows.find? (criteria.refuses dataset.columns) =
        some dataset.rows[position] := by
      refine List.find?_eq_some_iff_getElem.mpr
        ⟨refuses, position, inside, rfl, ?_⟩
      intro index less
      simpa using before index less
    rw [Dataset.filter_eq, found]

end Criteria

namespace Dataset

/-! ## Alike datasets -/

/-- A test that cannot tell alike rows apart gives the same answers on alike
datasets. -/
theorem Alike.map_eq
    {left right : Dataset} (alike : left.Alike right)
    (test : Columns -> Row -> Bool)
    (respects : ∀ leftRow rightRow,
      Row.Alike left.columns right.columns leftRow rightRow ->
      test left.columns leftRow = test right.columns rightRow) :
    left.rows.map (test left.columns) = right.rows.map (test right.columns) := by
  apply List.ext_getElem
  · rw [List.length_map, List.length_map, alike.length_eq]
  · intro position inLeft inRight
    rw [List.getElem_map, List.getElem_map]
    exact respects _ _ (alike.rows_alike position _ _
      (List.getElem?_eq_getElem _) (List.getElem?_eq_getElem _))

/-- Alike datasets are filtered alike, by every criteria: both filters keep the
rows at the same positions, or both fail at the same position with the same
value, each with the line of its own row. -/
theorem filter_of_alike
    {left right : Dataset} (alike : left.Alike right) (criteria : Criteria) :
    (∃ positions, criteria.KeepsAt left positions ∧
      criteria.KeepsAt right positions) ∨
    ∃ position leftRow rightRow value,
      criteria.FailsAt left position leftRow value ∧
      criteria.FailsAt right position rightRow value ∧
      (leftRow.line = rightRow.line ->
        left.filter criteria = right.filter criteria) := by
  have refused : left.rows.findIdx? (criteria.refuses left.columns) =
      right.rows.findIdx? (criteria.refuses right.columns) := by
    have same := congrArg (List.findIdx? id) (alike.map_eq criteria.refuses
      fun _ _ rows => Criteria.refuses_eq_of_alike rows criteria)
    rwa [List.findIdx?_map, List.findIdx?_map] at same
  have admitted : left.rows.findIdxs (criteria.admits left.columns) =
      right.rows.findIdxs (criteria.admits right.columns) := by
    have same := congrArg (List.findIdxs id) (alike.map_eq criteria.admits
      fun _ _ rows => Criteria.admits_eq_of_alike rows criteria)
    rwa [List.findIdxs_map, List.findIdxs_map] at same
  cases found : left.rows.findIdx? (criteria.refuses left.columns) with
  | none =>
    refine .inl ⟨_, Criteria.keepsAt_of_findIdx?_eq_none found, ?_⟩
    rw [admitted]
    exact Criteria.keepsAt_of_findIdx?_eq_none (refused ▸ found)
  | some position =>
    obtain ⟨leftRow, failsLeft⟩ := Criteria.failsAt_of_findIdx?_eq_some found
    obtain ⟨rightRow, failsRight⟩ :=
      Criteria.failsAt_of_findIdx?_eq_some (refused ▸ found)
    have rows := alike.rows_alike position leftRow rightRow failsLeft.row_eq
      failsRight.row_eq
    rw [← Criteria.datetimeText_eq_of_alike rows] at failsRight
    refine .inr ⟨position, leftRow, rightRow, _, failsLeft, failsRight, ?_⟩
    intro sameLine
    rw [failsLeft.filter_eq, failsRight.filter_eq, sameLine]

/-- Rows of which the last one lacks both columns, and the one before it the
datetime. -/
def narrow : Dataset where
  header := ["Id", "District", "Datetime", "Weight"]
  columns := ⟨1, 2⟩
  rows :=
    [⟨2, ["1", "A", "2024-1-2 3:04", "5"]⟩, ⟨3, ["2", "B", "soon"]⟩,
      ⟨4, ["3", "A"]⟩, ⟨5, ["4"]⟩]

/-- The same districts and datetimes under other columns and with other
fields. -/
def turned : Dataset where
  header := ["Datetime", "Note", "Weight", "Id", "District"]
  columns := ⟨0, 3⟩
  rows :=
    [⟨2, ["A", "", "", "2024-1-2 3:04"]⟩, ⟨7, ["B", "x", "y", "soon", "z"]⟩,
      ⟨4, ["A", "9", "9"]⟩, ⟨9, []⟩]

theorem narrow_alike_turned : narrow.Alike turned := by
  refine ⟨rfl, ?_⟩
  intro position leftRow rightRow atLeft atRight
  match position with
  | 0 | 1 | 2 | 3 =>
    cases atLeft
    cases atRight
    exact ⟨rfl, rfl⟩
  | _ + 4 => cases atLeft

/-- Asks for a district. -/
def districtOnly : Criteria := ⟨some "A", none, none⟩

/-- Asks for that district up to a datetime. -/
def districtUntil : Criteria :=
  ⟨some "A", none, Datetime.parse? "2024-01-02 23:59"⟩

/-- Asking for the district keeps rows at the same positions of both datasets;
with a bound both fail at the row that has the district but no datetime. -/
theorem filter_of_alike_turned :
    narrow.Alike turned ∧
      (∃ positions, districtOnly.KeepsAt narrow positions ∧
        districtOnly.KeepsAt turned positions) ∧
      ∃ position leftRow rightRow value,
        districtUntil.FailsAt narrow position leftRow value ∧
        districtUntil.FailsAt turned position rightRow value := by
  refine ⟨narrow_alike_turned, ?_, ?_⟩
  · rcases filter_of_alike narrow_alike_turned districtOnly with
      keeps | ⟨position, row, _, value, fails, _⟩
    · exact keeps
    · have kept : (narrow.filter districtOnly).isOk = true := by
        decide +kernel
      rw [fails.filter_eq] at kept
      cases kept
  · rcases filter_of_alike narrow_alike_turned districtUntil with
      ⟨positions, keeps, _⟩ | ⟨position, row, other, value, fails, failsToo, _⟩
    · have failed : (narrow.filter districtUntil).isOk = false := by
        decide +kernel
      obtain ⟨rows, _, kept⟩ := keeps.filter_eq
      rw [kept] at failed
      cases failed
    · exact ⟨position, row, other, value, fails, failsToo⟩

end Dataset
end Deliveries
