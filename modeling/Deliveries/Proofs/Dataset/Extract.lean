import Deliveries.Proofs.Dataset.Agreement

/-!
# Extracts of extracts

Extracting from an extract is extracting from the table by the meet of both
criteria, provided that the first extract does not look as if it began with a
byte order mark.  An extract is thus its own extract.
-/

namespace Deliveries

open Text Csv

namespace Dataset

/-- What succeeds in two parts succeeds in each of them. -/
theorem exists_of_bind_eq_ok
    {α β : Type} {result : Except Fault α} {next : α -> Except Fault β}
    {value : β} (bound : result >>= next = .ok value) :
    ∃ middle, result = .ok middle ∧ next middle = .ok value := by
  cases result with
  | error fault => cases bound
  | ok middle => exact ⟨middle, rfl, bound⟩

/-- An extract is the rendering of the rows kept. -/
theorem exists_of_extract
    {criteria : Criteria} {bytes output : List UInt8}
    (extracted : extract criteria bytes = .ok output) :
    ∃ dataset kept, (read (.ofBytes bytes)).result = .ok dataset ∧
      dataset.filter criteria = .ok kept ∧ kept.WellFormed ∧
      kept.rendering = output := by
  obtain ⟨dataset, reading, delivered⟩ := exists_of_bind_eq_ok extracted
  obtain ⟨kept, filtered, written⟩ := exists_of_bind_eq_ok delivered
  have wellFormed := (wellFormed_of_read reading).filter filtered
  rw [write_unlimited wellFormed.rectangular] at written
  exact ⟨dataset, kept, reading, filtered, wellFormed,
    Except.ok.inj written⟩

/-- Extracting from a rendering agrees with delivering what was rendered. -/
theorem agree_extract_rendering
    {dataset : Dataset} (wellFormed : dataset.WellFormed)
    (unmarked : ¬ mark <+: dataset.rendering) (criteria : Criteria) :
    Agree (extract criteria dataset.rendering) (dataset.deliver criteria) := by
  obtain ⟨rows, fields, reading⟩ := read_rendering_of_unmarked
    wellFormed.rectangular wellFormed.located unmarked
  have result : (read (.ofBytes dataset.rendering)).result =
      .ok ⟨dataset.header, dataset.columns, rows⟩ := by rw [reading]
  have reread : extract criteria dataset.rendering =
      deliver criteria ⟨dataset.header, dataset.columns, rows⟩ := by
    rw [extract_eq, result]
    rfl
  rw [reread]
  exact agree_of_canonical (wellFormed_of_read result) wellFormed
    (Row.map_canonical_of_written fields) criteria

/-- Extracting from an extract agrees with extracting by the meet. -/
theorem agree_extract_meet
    {first second : Criteria} (compatible : first.Compatible second)
    {bytes output : List UInt8}
    (extracted : extract first bytes = .ok output)
    (unmarked : ¬ mark <+: output) :
    Agree (extract second output) (extract (first.meet second) bytes) := by
  obtain ⟨dataset, kept, reading, filtered, wellFormed, rfl⟩ :=
    exists_of_extract extracted
  have direct : extract (first.meet second) bytes = kept.deliver second := by
    rw [deliver, filter_filter compatible filtered, extract, reading]
    rfl
  rw [direct]
  exact agree_extract_rendering wellFormed unmarked second

/-- Extracting twice agrees with extracting once by the meet.  An extract is the
extract of itself by the same criteria and by none, and extracting everything
first makes no difference. -/
theorem extract_extract
    (first : Criteria) (bytes output : List UInt8)
    (extracted : extract first bytes = .ok output)
    (unmarked : ¬ mark <+: output) :
    (∀ second, first.Compatible second →
      Agree (extract second output) (extract (first.meet second) bytes)) ∧
    extract first output = .ok output ∧
    extract .any output = .ok output ∧
    (first = .any → ∀ second,
      Agree (extract second output) (extract second bytes)) := by
  have meets : ∀ second, first.Compatible second →
      Agree (extract second output) (extract (first.meet second) bytes) := by
    intro second compatible
    exact agree_extract_meet compatible extracted unmarked
  refine ⟨meets, ?_, ?_, ?_⟩
  · have same := meets first first.compatible_self
    rw [Criteria.meet_self, extracted] at same
    exact same.eq_ok
  · have same := meets .any first.compatible_any
    rw [Criteria.meet_any, extracted] at same
    exact same.eq_ok
  · rintro rfl second
    have same := meets second second.any_compatible
    rwa [Criteria.any_meet] at same

/-- A table with two districts, one of them with a datetime that cannot be
read. -/
def twoDistricts : List UInt8 :=
  bytesOf
    "Id,District,Datetime,Weight\n1,\"A, B\",2024-10-1 8:00,2\n2,C,soon,3\n"

/-- The rows of one district of that table. -/
def oneDistrict : List UInt8 :=
  bytesOf
    "Id,District,Datetime,Weight\n1,\"A, B\",2024-10-01 08:00:00,2\n"

theorem extract_extract_oneDistrict :
    extract ⟨some "A, B", none, none⟩ twoDistricts = .ok oneDistrict ∧
      ¬ mark <+: oneDistrict ∧
      Agree
        (extract ⟨none, Datetime.parse? "2024-10-01 08:00", none⟩ oneDistrict)
        (extract ⟨some "A, B", Datetime.parse? "2024-10-01 08:00", none⟩
          twoDistricts) ∧
      extract ⟨some "A, B", none, none⟩ oneDistrict = .ok oneDistrict := by
  have extracted : extract ⟨some "A, B", none, none⟩ twoDistricts =
      .ok oneDistrict := by decide +kernel
  have unmarked : ¬ mark <+: oneDistrict := by decide
  obtain ⟨meets, same, _⟩ := extract_extract _ _ _ extracted unmarked
  exact ⟨extracted, unmarked, meets _ (.inr (.inr rfl)), same⟩

end Dataset
end Deliveries
