import Mathlib.Data.List.Find
import Deliveries.Proofs.Criteria.Selection

/-!
# Meeting criteria

Two criteria whose districts do not contradict each other meet in the criteria
that asks for what both ask for.  Filtering by one and then by the other is
filtering by their meet, as long as the first filtering succeeds; the datetime
that ends the second filtering then also ends the one by the meet.
-/

namespace Deliveries

namespace Datetime

theorem later_le_iff (left right bound : Datetime) :
    later left right ≤ bound ↔ left ≤ bound ∧ right ≤ bound := by
  unfold later
  split
  · next le =>
    simp only [le_def] at *
    omega
  · next notLe =>
    simp only [le_def] at *
    omega

theorem le_earlier_iff (left right bound : Datetime) :
    bound ≤ earlier left right ↔ bound ≤ left ∧ bound ≤ right := by
  unfold earlier
  split
  · next le =>
    simp only [le_def] at *
    omega
  · next notLe =>
    simp only [le_def] at *
    omega

theorem all_merge_later (left right : Option Datetime) (bound : Datetime) :
    (Option.merge later left right).all (fun one => decide (one ≤ bound)) =
      (left.all (fun one => decide (one ≤ bound)) &&
        right.all fun one => decide (one ≤ bound)) := by
  apply Option.all_merge
  intro one other
  simp [later_le_iff]

theorem all_merge_earlier (left right : Option Datetime)
    (bound : Datetime) :
    (Option.merge earlier left right).all (fun one => decide (bound ≤ one)) =
      (left.all (fun one => decide (bound ≤ one)) &&
        right.all fun one => decide (bound ≤ one)) := by
  apply Option.all_merge
  intro one other
  simp [le_earlier_iff]

@[simp] theorem later_self (datetime : Datetime) :
    later datetime datetime = datetime := by
  simp [later]

@[simp] theorem earlier_self (datetime : Datetime) :
    earlier datetime datetime = datetime := by
  simp [earlier]

end Datetime

namespace Criteria

/-- Two criteria ask for the same district, or one of them for none. -/
def Compatible (left right : Criteria) : Prop :=
  left.district = right.district ∨ left.district = none ∨
    right.district = none

/-! ## The parts of a meet -/

theorem hasRange_meet (left right : Criteria) :
    (left.meet right).hasRange = (left.hasRange || right.hasRange) := by
  simp only [hasRange, meet, Option.isSome_merge]
  cases left.earliest.isSome <;> cases left.latest.isSome <;> simp

theorem admitsDatetime_meet (left right : Criteria) (datetime : Datetime) :
    (left.meet right).admitsDatetime datetime =
      (left.admitsDatetime datetime && right.admitsDatetime datetime) := by
  simp only [admitsDatetime, meet, Datetime.all_merge_later,
    Datetime.all_merge_earlier]
  simp only [Bool.and_assoc, Bool.and_left_comm]

theorem admitsDistrict_meet
    {left right : Criteria} (compatible : left.Compatible right)
    (district : Option String) :
    (left.meet right).admitsDistrict district =
      (left.admitsDistrict district && right.admitsDistrict district) := by
  simp only [admitsDistrict, meet]
  rcases compatible with same | anywhere | anywhere
  · rw [same]
    cases right.district with
    | none => rfl
    | some wanted => simp
  · rw [anywhere]
    simp
  · rw [anywhere]
    cases left.district with
    | none => rfl
    | some wanted => simp

theorem admitsDatetime_of_not_hasRange
    {criteria : Criteria} (unbounded : criteria.hasRange = false)
    (datetime : Datetime) : criteria.admitsDatetime datetime = true := by
  simp only [hasRange, Bool.or_eq_false_iff, Option.isSome_eq_false_iff,
    Option.isNone_iff_eq_none] at unbounded
  simp [admitsDatetime, unbounded.1, unbounded.2]

/-- What was read lies between the bounds, if it could be read. -/
theorem admitsReading_some (criteria : Criteria) (datetime : Datetime) :
    criteria.admitsReading (some datetime) =
      criteria.admitsDatetime datetime := by
  cases range : criteria.hasRange with
  | false =>
    rw [admitsDatetime_of_not_hasRange range, admitsReading, range]
    rfl
  | true =>
    rw [admitsReading, range]
    rfl

theorem admitsReading_meet (left right : Criteria)
    (reading : Option Datetime) :
    (left.meet right).admitsReading reading =
      (left.admitsReading reading && right.admitsReading reading) := by
  cases reading with
  | none => simp [admitsReading, hasRange_meet]
  | some datetime => simp only [admitsReading_some, admitsDatetime_meet]

/-! ## Particular meets -/

theorem compatible_self (criteria : Criteria) :
    criteria.Compatible criteria := .inl rfl

theorem compatible_any (criteria : Criteria) : criteria.Compatible any :=
  .inr (.inr rfl)

theorem any_compatible (criteria : Criteria) : any.Compatible criteria :=
  .inr (.inl rfl)

@[simp] theorem meet_self (criteria : Criteria) :
    criteria.meet criteria = criteria := by
  obtain ⟨district, earliest, latest⟩ := criteria
  cases district <;> cases earliest <;> cases latest <;> simp [meet]

@[simp] theorem meet_any (criteria : Criteria) :
    criteria.meet any = criteria := by
  obtain ⟨district, earliest, latest⟩ := criteria
  simp [meet, any]

@[simp] theorem any_meet (criteria : Criteria) :
    any.meet criteria = criteria := by
  obtain ⟨district, earliest, latest⟩ := criteria
  simp [meet, any]

/-! ## Rows under a meet -/

/-- A meet admits the rows that both criteria admit. -/
theorem admits_meet
    {left right : Criteria} (compatible : left.Compatible right)
    (columns : Columns) (row : Row) :
    (left.meet right).admits columns row =
      (left.admits columns row && right.admits columns row) := by
  simp only [admits, admitsDistrict_meet compatible, admitsReading_meet]
  simp only [Bool.and_assoc, Bool.and_left_comm]

/-- Where the first of two criteria refuses no row, their meet refuses the rows
that the first admits and the second refuses. -/
theorem refuses_meet
    {left right : Criteria} (compatible : left.Compatible right)
    {columns : Columns} {row : Row}
    (unrefused : left.refuses columns row = false) :
    (left.meet right).refuses columns row =
      (left.admits columns row && right.refuses columns row) := by
  simp only [refuses, admits, admitsReading, admitsDistrict_meet compatible,
    hasRange_meet] at *
  cases reading : Datetime.parse? (row.datetimeText columns) with
  | some datetime => simp
  | none =>
    cases leftRange : left.hasRange with
    | false => simp [Bool.and_assoc]
    | true =>
      have elsewhere :
          left.admitsDistrict (row.district? columns) = false := by
        simpa [leftRange, reading] using unrefused
      rw [elsewhere]
      rfl

end Criteria

/-! ## Filtering twice -/

namespace Dataset

theorem filter_eq_ok_iff
    {criteria : Criteria} {dataset kept : Dataset} :
    dataset.filter criteria = .ok kept ↔
      (∀ row ∈ dataset.rows,
        criteria.refuses dataset.columns row = false) ∧
      kept = { dataset with
        rows := dataset.rows.filter (criteria.admits dataset.columns) } := by
  rw [filter_eq]
  cases found : dataset.rows.find? (criteria.refuses dataset.columns) with
  | some row =>
    have refused := List.find?_some found
    have member := List.mem_of_find?_eq_some found
    constructor
    · exact nofun
    · rintro ⟨unrefused, _⟩
      rw [unrefused row member] at refused
      cases refused
  | none =>
    simp only [Except.ok.injEq]
    constructor
    · intro equal
      exact ⟨by simpa using found, equal.symm⟩
    · rintro ⟨_, equal⟩
      exact equal.symm

/-- Filtering what another criteria has kept is filtering by the meet. -/
theorem filter_filter
    {first second : Criteria} (compatible : first.Compatible second)
    {dataset kept : Dataset} (filtered : dataset.filter first = .ok kept) :
    kept.filter second = dataset.filter (first.meet second) := by
  obtain ⟨unrefused, rfl⟩ := filter_eq_ok_iff.mp filtered
  have refused : ∀ row ∈ dataset.rows,
      (first.meet second).refuses dataset.columns row =
        (first.admits dataset.columns row &&
          second.refuses dataset.columns row) :=
    fun row member => Criteria.refuses_meet compatible (unrefused row member)
  have found : (dataset.rows.filter (first.admits dataset.columns)).find?
        (second.refuses dataset.columns) =
      dataset.rows.find? ((first.meet second).refuses dataset.columns) := by
    rw [List.find?_filter, List.find?_congr refused]
    simp
  have admitted : (dataset.rows.filter (first.admits dataset.columns)).filter
        (second.admits dataset.columns) =
      dataset.rows.filter ((first.meet second).admits dataset.columns) := by
    rw [List.filter_filter]
    congr 1
    funext row
    rw [Criteria.admits_meet compatible, Bool.and_comm]
  rw [filter_eq, filter_eq]
  simp only [found, admitted]

end Dataset
end Deliveries
