import Deliveries.Proofs.Criteria.Meet

/-!
# Filtering in steps

A filter that fails has met a row with the district asked for and without a
readable datetime.  The meet with a criteria that asks for no other district
refuses the same row first, so that filtering in two steps is filtering by the
meet also when it fails.  A district that is asked for only later may exclude
that row.
-/

namespace Deliveries

namespace Criteria

/-- A criteria asks for no district, or for the one that another asks for. -/
def AddsNoDistrict (second first : Criteria) : Prop :=
  second.district = none ∨ second.district = first.district

theorem AddsNoDistrict.compatible
    {first second : Criteria} (addsNone : second.AddsNoDistrict first) :
    first.Compatible second := by
  rcases addsNone with anywhere | same
  · exact .inr (.inr anywhere)
  · exact .inl same.symm

/-- The meet asks for the district of the first criteria. -/
theorem AddsNoDistrict.district_meet
    {first second : Criteria} (addsNone : second.AddsNoDistrict first) :
    (first.meet second).district = first.district := by
  unfold meet
  rcases addsNone with anywhere | same
  · simp [anywhere]
  · simp [same]

/-- A meet with a criteria that adds no district refuses what the first one
refuses, once that has a bound. -/
theorem refuses_meet_of_hasRange
    {first second : Criteria} (addsNone : second.AddsNoDistrict first)
    (range : first.hasRange = true) (columns : Columns) :
    (first.meet second).refuses columns = first.refuses columns := by
  funext row
  have district : (first.meet second).admitsDistrict (row.district? columns) =
      first.admitsDistrict (row.district? columns) := by
    unfold admitsDistrict
    rw [addsNone.district_meet]
  rw [refuses, refuses, district, hasRange_meet, range, Bool.true_or]

/-! ## Criteria in parts -/

theorem district_meet_bounds
    (district : Option String) (earliest latest : Option Datetime) :
    meet ⟨district, none, none⟩ ⟨none, earliest, latest⟩ =
      ⟨district, earliest, latest⟩ := by
  simp [meet]

theorem earliest_meet_latest
    (district : Option String) (earliest latest : Option Datetime) :
    meet ⟨district, earliest, none⟩ ⟨none, none, latest⟩ =
      ⟨district, earliest, latest⟩ := by
  simp [meet]

theorem latest_meet_earliest
    (district : Option String) (earliest latest : Option Datetime) :
    meet ⟨district, none, latest⟩ ⟨none, earliest, none⟩ =
      ⟨district, earliest, latest⟩ := by
  simp [meet]

end Criteria

namespace Dataset

/-- A filter that fails still fails, with the same fault, when no district is
added to what it asks for. -/
theorem filter_meet_of_error
    {first second : Criteria} (addsNone : second.AddsNoDistrict first)
    {dataset : Dataset} {fault : Fault}
    (failed : dataset.filter first = .error fault) :
    dataset.filter (first.meet second) = .error fault := by
  obtain ⟨row, found, rfl⟩ := filter_eq_error_iff.mp failed
  have refused := List.find?_some found
  have range : first.hasRange = true := by
    simp only [Criteria.refuses, Bool.and_eq_true] at refused
    exact refused.2.1
  apply filter_eq_error_iff.mpr
  refine ⟨row, ?_, rfl⟩
  rw [Criteria.refuses_meet_of_hasRange addsNone range, found]

/-- Filtering in two steps is filtering by the meet, also when it fails, if the
second step adds no district. -/
theorem filter_bind_filter
    {first second : Criteria} (addsNone : second.AddsNoDistrict first)
    (dataset : Dataset) :
    (dataset.filter first >>= filter second) =
      dataset.filter (first.meet second) := by
  cases filtered : dataset.filter first with
  | error fault => exact (filter_meet_of_error addsNone filtered).symm
  | ok kept => exact filter_filter addsNone.compatible filtered

/-- What two steps keep is what both criteria admit. -/
theorem eq_of_filter_bind_filter
    {first second : Criteria} {dataset kept : Dataset}
    (filtered : (dataset.filter first >>= filter second) = .ok kept) :
    kept = { dataset with
      rows := dataset.rows.filter fun row =>
        first.admits dataset.columns row &&
          second.admits dataset.columns row } := by
  cases firstStep : dataset.filter first with
  | error fault =>
    rw [firstStep] at filtered
    cases filtered
  | ok middle =>
    rw [firstStep] at filtered
    obtain ⟨_, rfl⟩ := filter_eq_ok_iff.mp firstStep
    obtain ⟨_, rfl⟩ := filter_eq_ok_iff.mp filtered
    simp only [List.filter_filter, Bool.and_comm]

/-- Filtering what a criteria keeps by another one is filtering by their meet.
A criteria that fails does so with the same fault when it meets one that adds no
district.  Hence a criteria can be taken in parts, district first, and its
bounds in either order; a second filtering by it changes nothing; and two orders
of filtering that both succeed keep the same rows. -/
theorem filter_stepwise (dataset : Dataset) :
    (∀ first second : Criteria, first.Compatible second →
      (∀ kept, dataset.filter first = .ok kept →
        kept.filter second = dataset.filter (first.meet second)) ∧
      ∀ fault, dataset.filter first = .error fault →
        second.district = none ∨ second.district = first.district →
        dataset.filter (first.meet second) = .error fault) ∧
    (∀ district earliest latest,
      (dataset.filter ⟨district, none, none⟩ >>=
        filter ⟨none, earliest, latest⟩) =
          dataset.filter ⟨district, earliest, latest⟩ ∧
      (dataset.filter ⟨district, earliest, none⟩ >>=
        filter ⟨none, none, latest⟩) =
          dataset.filter ⟨district, earliest, latest⟩ ∧
      (dataset.filter ⟨district, none, latest⟩ >>=
        filter ⟨none, earliest, none⟩) =
          dataset.filter ⟨district, earliest, latest⟩) ∧
    (∀ criteria, (dataset.filter criteria >>= filter criteria) =
      dataset.filter criteria) ∧
    ∀ first second left right,
      (dataset.filter first >>= filter second) = .ok left →
      (dataset.filter second >>= filter first) = .ok right →
      left = right := by
  refine ⟨?_, ?_, ?_, ?_⟩
  · intro first second compatible
    constructor
    · intro kept filtered
      exact filter_filter compatible filtered
    · intro fault failed addsNone
      exact filter_meet_of_error addsNone failed
  · intro district earliest latest
    refine ⟨?_, ?_, ?_⟩
    · rw [filter_bind_filter (.inl rfl), Criteria.district_meet_bounds]
    · rw [filter_bind_filter (.inl rfl), Criteria.earliest_meet_latest]
    · rw [filter_bind_filter (.inl rfl), Criteria.latest_meet_earliest]
  · intro criteria
    rw [filter_bind_filter (.inr rfl), Criteria.meet_self]
  · intro first second left right oneOrder otherOrder
    rw [eq_of_filter_bind_filter oneOrder, eq_of_filter_bind_filter otherOrder]
    simp only [Bool.and_comm]

/-- A dataset of two districts; in the second one a datetime cannot be read. -/
def mixed : Dataset where
  header := ["Id", "District", "Datetime", "Weight"]
  columns := ⟨1, 2⟩
  rows :=
    [⟨2, ["1", "A", "2024-1-2 3:04", "5"]⟩,
      ⟨3, ["3", "A", "2024-2-1 0:00", "7"]⟩, ⟨4, ["2", "B", "soon", "6"]⟩]

/-- The rows of the first of these districts. -/
def firstDistrict : Dataset := { mixed with rows := mixed.rows.take 2 }

/-- Asks for that district. -/
def inFirst : Criteria := ⟨some "A", none, none⟩

/-- Asks for datetimes from the beginning of a month on. -/
def fromMonth : Criteria := ⟨none, Datetime.parse? "2024-01-01 00:00", none⟩

/-- Asks for datetimes up to the end of that month. -/
def toMonth : Criteria := ⟨none, none, Datetime.parse? "2024-01-31 23:59:60"⟩

theorem filter_stepwise_mixed :
    inFirst.Compatible toMonth ∧
      mixed.filter inFirst = .ok firstDistrict ∧
      firstDistrict.filter toMonth = mixed.filter (inFirst.meet toMonth) ∧
      fromMonth.Compatible toMonth ∧
      mixed.filter fromMonth = .error (.badDatetime 4 "soon") ∧
      mixed.filter (fromMonth.meet toMonth) =
        .error (.badDatetime 4 "soon") := by
  have kept : mixed.filter inFirst = .ok firstDistrict := by decide +kernel
  have failed : mixed.filter fromMonth = .error (.badDatetime 4 "soon") := by
    decide +kernel
  have district : inFirst.Compatible toMonth := .inr (.inr rfl)
  have bounds : fromMonth.Compatible toMonth := .inr (.inr rfl)
  obtain ⟨steps, _⟩ := filter_stepwise mixed
  exact ⟨district, kept, (steps _ _ district).1 _ kept,
    bounds, failed, (steps _ _ bounds).2 _ failed (.inl rfl)⟩

/-- A district that is added later comes too late to exclude a datetime that
cannot be read. -/
example :
    (mixed.filter fromMonth >>= filter inFirst) =
        .error (.badDatetime 4 "soon") ∧
      mixed.filter (fromMonth.meet inFirst) =
        .ok firstDistrict := by
  decide +kernel

end Dataset
end Deliveries
