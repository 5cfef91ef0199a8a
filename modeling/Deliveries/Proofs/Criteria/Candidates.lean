import Deliveries.Proofs.Criteria.Selection

/-!
# Candidates

What a filter gives, told without the order in which it looks at things.  The
candidates of a criteria are the rows with the district asked for.  Bounds make
their datetimes matter: those must be readable, and the rows wanted are the
candidates between the bounds.  If one of them is not readable, the first such
candidate is what the filter fails with.
-/

namespace Deliveries

/-- What is read as the datetime of a row. -/
def Row.instant? (columns : Columns) (row : Row) : Option Datetime :=
  Datetime.parse? (row.datetimeText columns)

namespace Criteria

/-- A candidate has the district that is asked for, if one is. -/
def Candidate (criteria : Criteria) (columns : Columns) (row : Row) : Prop :=
  ∀ wanted, criteria.district = some wanted →
    row.district? columns = some wanted

/-- A datetime is not before the earliest and not after the latest, as far as
they are given. -/
def Between (criteria : Criteria) (datetime : Datetime) : Prop :=
  (∀ earliest, criteria.earliest = some earliest → earliest ≤ datetime) ∧
    ∀ latest, criteria.latest = some latest → datetime ≤ latest

/-- A row is wanted when it is a candidate and, if a bound is given, its
datetime lies between the bounds. -/
def Wanted (criteria : Criteria) (columns : Columns) (row : Row) : Prop :=
  criteria.Candidate columns row ∧
    (criteria.hasRange = true → ∃ datetime,
      row.instant? columns = some datetime ∧ criteria.Between datetime)

/-- The datetimes of all candidates can be read, or no bound makes them
matter. -/
def Readable (criteria : Criteria) (dataset : Dataset) : Prop :=
  criteria.hasRange = false ∨ ∀ row ∈ dataset.rows,
    criteria.Candidate dataset.columns row →
      ∃ datetime, row.instant? dataset.columns = some datetime

/-! ## Single rows -/

theorem admitsDistrict_eq_true_iff
    (criteria : Criteria) (columns : Columns) (row : Row) :
    criteria.admitsDistrict (row.district? columns) = true ↔
      criteria.Candidate columns row := by
  unfold admitsDistrict Candidate
  cases criteria.district with
  | none => exact ⟨nofun, fun _ => rfl⟩
  | some wanted => simp

theorem admitsDatetime_eq_true_iff
    (criteria : Criteria) (datetime : Datetime) :
    criteria.admitsDatetime datetime = true ↔ criteria.Between datetime := by
  simp [admitsDatetime, Between, Option.all_eq_true]

theorem refuses_eq_true_iff
    (criteria : Criteria) (columns : Columns) (row : Row) :
    criteria.refuses columns row = true ↔
      criteria.Candidate columns row ∧ criteria.hasRange = true ∧
        row.instant? columns = none := by
  rw [refuses, Bool.and_eq_true, Bool.and_eq_true, admitsDistrict_eq_true_iff,
    Option.isNone_iff_eq_none, Row.instant?]

theorem admits_eq_true_iff
    (criteria : Criteria) (columns : Columns) (row : Row) :
    criteria.admits columns row = true ↔ criteria.Wanted columns row := by
  rw [admits, Bool.and_eq_true, admitsDistrict_eq_true_iff, admitsReading,
    Wanted, Row.instant?]
  cases criteria.hasRange with
  | false => simp
  | true => simp [Option.any_eq_true, admitsDatetime_eq_true_iff]

instance (criteria : Criteria) (columns : Columns) (row : Row) :
    Decidable (criteria.Candidate columns row) :=
  decidable_of_iff _ (admitsDistrict_eq_true_iff criteria columns row)

instance (criteria : Criteria) (columns : Columns) (row : Row) :
    Decidable (criteria.Wanted columns row) :=
  decidable_of_iff _ (admits_eq_true_iff criteria columns row)

theorem admits_eq_decide
    (criteria : Criteria) (columns : Columns) (row : Row) :
    criteria.admits columns row = decide (criteria.Wanted columns row) := by
  apply Bool.eq_iff_iff.mpr
  rw [admits_eq_true_iff, decide_eq_true_eq]

/-- Without a bound the rows wanted are the candidates. -/
theorem wanted_iff_candidate
    {criteria : Criteria} (unbounded : criteria.hasRange = false)
    (columns : Columns) (row : Row) :
    criteria.Wanted columns row ↔ criteria.Candidate columns row := by
  simp [Wanted, unbounded]

/-- Between bounds in the wrong order there is nothing. -/
theorem not_wanted_of_lt
    {criteria : Criteria} {earliest latest : Datetime}
    (atEarliest : criteria.earliest = some earliest)
    (atLatest : criteria.latest = some latest) (empty : latest < earliest)
    (columns : Columns) (row : Row) : ¬ criteria.Wanted columns row := by
  rintro ⟨_, wanted⟩
  have range : criteria.hasRange = true := by simp [hasRange, atEarliest]
  obtain ⟨datetime, _, above, below⟩ := wanted range
  have lower := above earliest atEarliest
  have upper := below latest atLatest
  rw [Datetime.le_def] at lower upper
  rw [Datetime.lt_def] at empty
  omega

/-! ## Rows of a dataset -/

theorem readable_iff (criteria : Criteria) (dataset : Dataset) :
    criteria.Readable dataset ↔
      dataset.rows.find? (criteria.refuses dataset.columns) = none := by
  simp only [List.find?_eq_none, refuses_eq_true_iff, Readable]
  cases criteria.hasRange with
  | false => simp
  | true => simp [Option.ne_none_iff_exists']

instance (criteria : Criteria) (dataset : Dataset) :
    Decidable (criteria.Readable dataset) :=
  decidable_of_iff _ (readable_iff criteria dataset).symm

/-- If not all candidates can be read, there is a first that cannot. -/
theorem exists_first_of_not_readable
    {criteria : Criteria} {dataset : Dataset}
    (unreadable : ¬ criteria.Readable dataset) :
    ∃ front row back, dataset.rows = front ++ row :: back ∧
      (∀ earlier ∈ front, criteria.Candidate dataset.columns earlier →
        ∃ datetime, earlier.instant? dataset.columns = some datetime) ∧
      criteria.Candidate dataset.columns row ∧
      row.instant? dataset.columns = none ∧
      dataset.rows.find? (criteria.refuses dataset.columns) = some row := by
  rw [readable_iff] at unreadable
  obtain ⟨row, found⟩ := Option.ne_none_iff_exists'.mp unreadable
  obtain ⟨refused, front, back, rows, unrefused⟩ :=
    List.find?_eq_some_iff_append.mp found
  obtain ⟨candidate, range, unread⟩ :=
    (refuses_eq_true_iff _ _ _).mp refused
  refine ⟨front, row, back, rows, ?_, candidate, unread, found⟩
  intro earlier member itself
  apply Option.ne_none_iff_exists'.mp
  intro unreadToo
  have refusedToo := (refuses_eq_true_iff criteria dataset.columns earlier).mpr
    ⟨itself, range, unreadToo⟩
  simpa [refusedToo] using unrefused earlier member

end Criteria

namespace Dataset

/-- A criteria that asks for nothing is no exception to the selection row by
row. -/
theorem filter_eq_select (criteria : Criteria) (dataset : Dataset) :
    dataset.filter criteria =
      (criteria.select dataset.columns dataset.rows).map
        fun rows => { dataset with rows := rows } := by
  rw [filter_eq, Criteria.select_eq]
  cases dataset.rows.find? (criteria.refuses dataset.columns) with
  | some row => rfl
  | none => rfl

theorem filter_of_readable
    {criteria : Criteria} {dataset : Dataset}
    (readable : criteria.Readable dataset) :
    dataset.filter criteria = .ok { dataset with
      rows := dataset.rows.filter (criteria.Wanted dataset.columns ·) } := by
  have admitted : criteria.admits dataset.columns =
      fun row => decide (criteria.Wanted dataset.columns row) := by
    funext row
    exact criteria.admits_eq_decide dataset.columns row
  rw [filter_eq, (criteria.readable_iff dataset).mp readable, admitted]

/-- A filter gives exactly the rows wanted, in their order, when the datetimes
that matter can be read, and fails otherwise with the first candidate whose
datetime cannot.  Without a bound it gives all candidates, and between bounds in
the wrong order no row.  The criteria that asks for nothing is no exception to
the selection row by row. -/
theorem filter_selects (criteria : Criteria) (dataset : Dataset) :
    (criteria.Readable dataset →
      dataset.filter criteria = .ok { dataset with
        rows := dataset.rows.filter (criteria.Wanted dataset.columns ·) }) ∧
    (¬ criteria.Readable dataset →
      ∃ front row back, dataset.rows = front ++ row :: back ∧
        (∀ earlier ∈ front, criteria.Candidate dataset.columns earlier →
          ∃ datetime, earlier.instant? dataset.columns = some datetime) ∧
        criteria.Candidate dataset.columns row ∧
        row.instant? dataset.columns = none ∧
        dataset.filter criteria = .error
          (.badDatetime row.line (row.datetimeText dataset.columns))) ∧
    (criteria.hasRange = false →
      dataset.filter criteria = .ok { dataset with
        rows := dataset.rows.filter (criteria.Candidate dataset.columns ·) }) ∧
    (∀ earliest latest, criteria.earliest = some earliest →
      criteria.latest = some latest → latest < earliest →
      criteria.Readable dataset →
      dataset.filter criteria = .ok { dataset with rows := [] }) ∧
    dataset.filter criteria =
      (criteria.select dataset.columns dataset.rows).map
        fun rows => { dataset with rows := rows } := by
  refine ⟨filter_of_readable, ?_, ?_, ?_, filter_eq_select criteria dataset⟩
  · intro unreadable
    obtain ⟨front, row, back, rows, readFront, candidate, unread, found⟩ :=
      Criteria.exists_first_of_not_readable unreadable
    refine ⟨front, row, back, rows, readFront, candidate, unread, ?_⟩
    rw [filter_eq, found]
  · intro unbounded
    rw [filter_of_readable (.inl unbounded)]
    simp only [Criteria.wanted_iff_candidate unbounded]
  · intro earliest latest atEarliest atLatest empty readable
    have noRow : dataset.rows.filter (criteria.Wanted dataset.columns ·) =
        [] := by
      apply List.filter_eq_nil_iff.mpr
      intro row _
      rw [decide_eq_true_eq]
      exact Criteria.not_wanted_of_lt atEarliest atLatest empty _ row
    rw [filter_of_readable readable, noRow]

/-- Rows of several lengths, of which two have a district in common. -/
def ragged : Dataset where
  header := ["Id", "District", "Datetime", "Weight"]
  columns := ⟨1, 2⟩
  rows :=
    [⟨2, ["1", "A", "2024-1-2 3:04"]⟩, ⟨3, ["2", "B", "soon"]⟩,
      ⟨4, ["3", "A"]⟩, ⟨5, ["4"]⟩]

/-- Asks for that district and for the first two days of a year. -/
def firstDays : Criteria :=
  ⟨some "A", none, Datetime.parse? "2024-01-02 23:59:60"⟩

/-- What cannot be read in another district does no harm, but a candidate
without a datetime does. -/
theorem filter_selects_ragged :
    firstDays.Readable { ragged with rows := ragged.rows.take 2 } ∧
      filter firstDays { ragged with rows := ragged.rows.take 2 } =
        .ok { ragged with rows := ragged.rows.take 1 } ∧
      ¬ firstDays.Readable ragged ∧
      ∃ row ∈ ragged.rows, row.instant? ragged.columns = none ∧
        ragged.filter firstDays = .error
          (.badDatetime row.line (row.datetimeText ragged.columns)) := by
  have readable :
      firstDays.Readable { ragged with rows := ragged.rows.take 2 } := by
    decide +kernel
  have unreadable : ¬ firstDays.Readable ragged := by decide +kernel
  have first : (ragged.rows.take 2).filter (firstDays.Wanted ragged.columns ·) =
      ragged.rows.take 1 := by decide +kernel
  refine ⟨readable, ?_, unreadable, ?_⟩
  · rw [(filter_selects _ _).1 readable]
    simp only [first]
  · obtain ⟨front, row, back, rows, _, _, unread, failed⟩ :=
      (filter_selects firstDays ragged).2.1 unreadable
    have member : row ∈ ragged.rows := by
      rw [rows]
      exact List.mem_append_right front List.mem_cons_self
    exact ⟨row, member, unread, failed⟩

end Dataset
end Deliveries
