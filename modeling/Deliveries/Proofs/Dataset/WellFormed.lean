import Deliveries.Proofs.Criteria.Meet
import Deliveries.Proofs.Dataset.RoundTrip

/-!
# Well-formed datasets

A dataset is well formed when its columns are those of its header and all its
rows have the length of the header.  Every dataset that was read is well formed,
filtering keeps it so, and a well-formed dataset can be written and read back.
-/

namespace Deliveries

open Text Csv

namespace Columns

/-- A position is the first one at which a name stands in a header. -/
def IsFirst (name : String) (header : List String) (position : Nat) : Prop :=
  header[position]? = some name ∧
    ∀ before < position, header[before]? ≠ some name

theorem isFirst_idxOf
    {name : String} {header : List String} (present : name ∈ header) :
    IsFirst name header (header.idxOf name) := by
  have inside := List.idxOf_lt_length_of_mem present
  constructor
  · rw [List.getElem?_eq_getElem inside, List.getElem_idxOf]
  · intro before less found
    have different := List.not_of_lt_findIdx less
    rw [List.getElem?_eq_getElem (by omega), Option.some.injEq] at found
    rw [found, beq_self_eq_true] at different
    cases different

theorem IsFirst.lt_length
    {name : String} {header : List String} {position : Nat}
    (first : IsFirst name header position) : position < header.length :=
  (List.getElem?_eq_some_iff.mp first.1).1

/-- Different names stand at different positions. -/
theorem IsFirst.ne
    {name other : String} {header : List String} {position otherPosition : Nat}
    (first : IsFirst name header position)
    (otherFirst : IsFirst other header otherPosition)
    (different : name ≠ other) : position ≠ otherPosition := by
  rintro rfl
  apply different
  rw [← Option.some.injEq, ← first.1, otherFirst.1]

theorem complete_of_located
    {header : List String} {columns : Columns}
    (located : locate header = .ok columns) :
    ∀ name ∈ required, name ∈ header :=
  ((locate_eq_ok_iff header columns).mp located).1

theorem isFirst_of_located
    {header : List String} {columns : Columns}
    (located : locate header = .ok columns) :
    IsFirst "District" header columns.district ∧
      IsFirst "Datetime" header columns.datetime := by
  obtain ⟨complete, rfl⟩ := (locate_eq_ok_iff header columns).mp located
  exact ⟨isFirst_idxOf (complete "District" (by decide)),
    isFirst_idxOf (complete "Datetime" (by decide))⟩

theorem district_ne_datetime
    {header : List String} {columns : Columns}
    (located : locate header = .ok columns) :
    columns.district ≠ columns.datetime := by
  obtain ⟨district, datetime⟩ := isFirst_of_located located
  exact district.ne datetime (by decide)

end Columns

namespace Dataset

/-- The columns are those of the header, and every row has the header's
length. -/
structure WellFormed (dataset : Dataset) : Prop where
  located : Columns.locate dataset.header = .ok dataset.columns
  uniform : ∀ row ∈ dataset.rows,
    row.fields.length = dataset.header.length

theorem WellFormed.rectangular
    {dataset : Dataset} (wellFormed : dataset.WellFormed) :
    dataset.Rectangular :=
  ⟨Columns.complete_of_located wellFormed.located, wellFormed.uniform⟩

/-! ## Reading -/

/-- What is read is well formed, whatever the source. -/
theorem wellFormed_of_read
    {source : Source} {dataset : Dataset}
    (read : (Dataset.read source).result = .ok dataset) :
    dataset.WellFormed := by
  obtain ⟨_, entries, _, located, rows, _⟩ := exists_entries_of_read read
  refine ⟨located, ?_⟩
  intro row member
  rw [rows] at member
  obtain ⟨entry, kept, rfl⟩ := List.mem_map.mp member
  exact beq_iff_eq.mp (List.mem_filter.mp kept).2

/-! ## Filtering -/

theorem WellFormed.filter
    {criteria : Criteria} {dataset kept : Dataset}
    (wellFormed : dataset.WellFormed)
    (filtered : dataset.filter criteria = .ok kept) : kept.WellFormed := by
  obtain ⟨_, rfl⟩ := filter_eq_ok_iff.mp filtered
  refine ⟨wellFormed.located, ?_⟩
  intro row member
  exact wellFormed.uniform row (List.mem_filter.mp member).1

end Dataset
end Deliveries
