import Deliveries.Session
import Deliveries.Proofs.Dataset.WellFormed

/-!
# Reachable sessions

A session that starts from a dataset that was read has well-formed datasets
after any steps.  Its dataset can then always be written and read back, so that
nothing but a datetime that cannot be read makes a step fail.
-/

namespace Deliveries

open Text Csv

/-! ## Writing and reading back -/

namespace Dataset

/-- A well-formed dataset is not written only for lack of room. -/
theorem WellFormed.fault_of_write
    {dataset : Dataset} (wellFormed : dataset.WellFormed)
    {room : Option Nat} {fault : Fault}
    (failed : dataset.write room = .error fault) :
    fault = .output (.writing .noRoom) := by
  rw [write_of_even wellFormed.uniform] at failed
  split at failed
  · cases failed
  · exact (Except.error.inj failed).symm

/-- A well-formed dataset is read back without a skip, and what is read is well
formed again. -/
theorem WellFormed.reread
    {dataset : Dataset} (wellFormed : dataset.WellFormed) :
    ∃ again, Session.reread dataset = ⟨[], .ok again⟩ ∧
      again.WellFormed := by
  have complete := Columns.complete_modifyHead_withoutMark
    wellFormed.rectangular.complete
  obtain ⟨columns, located⟩ := locate_of_complete complete
  obtain ⟨rows, _, reading⟩ := read_rendering wellFormed.rectangular located
  refine ⟨⟨dataset.header.modifyHead withoutMark, columns, rows⟩, ?_, ?_⟩
  · rw [Session.reread, write_unlimited wellFormed.rectangular]
    exact reading
  · apply wellFormed_of_read
    rw [reading]

/-- A dataset is not filtered only for a datetime that a bound asks to read. -/
theorem fault_of_filter
    {criteria : Criteria} {dataset : Dataset} {fault : Fault}
    (failed : dataset.filter criteria = .error fault) :
    criteria.hasRange = true ∧
      ∃ line value, fault = .badDatetime line value := by
  rw [filter_eq] at failed
  split at failed
  · next row found =>
    have refused := List.find?_some found
    rw [Criteria.refuses, Bool.and_eq_true, Bool.and_eq_true] at refused
    exact ⟨refused.2.1, row.line, row.datetimeText dataset.columns,
      (Except.error.inj failed).symm⟩
  · cases failed

end Dataset

namespace Session

/-- Both datasets of the session are well formed. -/
structure WellFormed (session : Session) : Prop where
  first : session.first.WellFormed
  current : session.current.WellFormed

/-- A step that fails leaves the session as it was. -/
theorem step_of_failed
    {session : Session} {step : Step} {fault : Fault}
    (failed : (session.step step).2 = .failed fault) :
    (session.step step).1 = session := by
  cases step with
  | filter criteria =>
    rw [Session.step] at *
    split at failed
    · rfl
    · cases failed
  | write room =>
    rw [Session.step] at *
    split at failed
    · rfl
    · cases failed
  | reread =>
    simp only [Session.step] at *
    split at failed
    · rfl
    · cases failed
  | compare => rfl
  | reset => cases failed

/-- Every step leads from a well-formed session to a well-formed one. -/
theorem WellFormed.step
    {session : Session} (wellFormed : session.WellFormed) (step : Step) :
    (session.step step).1.WellFormed := by
  cases step with
  | filter criteria =>
    rw [Session.step]
    split
    · exact wellFormed
    · next kept filtered =>
      exact ⟨wellFormed.first, wellFormed.current.filter filtered⟩
  | write room =>
    rw [Session.step]
    split
    · exact wellFormed
    · exact wellFormed
  | reread =>
    obtain ⟨again, reading, wellFormedAgain⟩ := wellFormed.current.reread
    rw [Session.step, reading]
    exact ⟨wellFormed.first, wellFormedAgain⟩
  | compare => exact wellFormed
  | reset => exact ⟨wellFormed.first, wellFormed.first⟩

theorem WellFormed.run
    {session : Session} (wellFormed : session.WellFormed)
    (steps : List Step) : (session.run steps).1.WellFormed := by
  induction steps generalizing session with
  | nil => exact wellFormed
  | cons step rest ih => exact ih (wellFormed.step step)

/-- With room for everything a step of a well-formed session fails only in
filtering by a bound, for a datetime that cannot be read. -/
theorem WellFormed.fault_of_step
    {session : Session} (wellFormed : session.WellFormed)
    {step : Step} (roomy : ∀ room, step ≠ .write (some room))
    {fault : Fault} (failed : (session.step step).2 = .failed fault) :
    ∃ criteria line value, step = .filter criteria ∧
      criteria.hasRange = true ∧ fault = .badDatetime line value := by
  cases step with
  | filter criteria =>
    rw [Session.step] at failed
    split at failed
    · next cause refused =>
      cases failed
      obtain ⟨range, line, value, rfl⟩ := Dataset.fault_of_filter refused
      exact ⟨criteria, line, value, rfl, range, rfl⟩
    · cases failed
  | write room =>
    cases room with
    | some room => exact absurd rfl (roomy room)
    | none =>
      have written := Dataset.write_unlimited wellFormed.current.rectangular
      rw [Session.step, written] at failed
      cases failed
  | reread =>
    obtain ⟨again, reading, _⟩ := wellFormed.current.reread
    rw [Session.step, reading] at failed
    cases failed
  | compare => cases failed
  | reset => cases failed

/-- After any steps from a dataset that was read, the columns are the first ones
of their names in a complete header and every row has the header's length.  The
dataset is written unless room is lacking, and read back without a skip.  With
room for everything only a datetime that a bound asks to read makes a step
fail. -/
theorem run_ofDataset
    (source : Source) (dataset : Dataset)
    (read : (Dataset.read source).result = .ok dataset)
    (steps : List Step) (session : Session)
    (reached : ((ofDataset dataset).run steps).1 = session) :
    ((∀ name ∈ Columns.required, name ∈ session.current.header) ∧
      Columns.locate session.current.header = .ok session.current.columns ∧
      Columns.IsFirst "District" session.current.header
        session.current.columns.district ∧
      Columns.IsFirst "Datetime" session.current.header
        session.current.columns.datetime ∧
      session.current.columns.district ≠ session.current.columns.datetime ∧
      session.current.columns.district < session.current.header.length ∧
      session.current.columns.datetime < session.current.header.length ∧
      ∀ row ∈ session.current.rows,
        row.fields.length = session.current.header.length) ∧
    (∃ bytes, session.current.write none = .ok bytes) ∧
    (∀ room fault, session.current.write room = .error fault →
      fault = .output (.writing .noRoom)) ∧
    (∃ again, reread session.current = ⟨[], .ok again⟩) ∧
    ∀ step fault, (session.step step).2 = .failed fault →
      (session.step step).1 = session ∧
      ((∀ room, step ≠ .write (some room)) →
        ∃ criteria line value, step = .filter criteria ∧
          criteria.hasRange = true ∧ fault = .badDatetime line value) := by
  have initial : dataset.WellFormed := Dataset.wellFormed_of_read read
  have wellFormed : session.WellFormed := by
    rw [← reached]
    exact WellFormed.run ⟨initial, initial⟩ steps
  have located := wellFormed.current.located
  obtain ⟨district, datetime⟩ := Columns.isFirst_of_located located
  obtain ⟨again, reading, _⟩ := wellFormed.current.reread
  refine ⟨?_, ?_, ?_, ⟨again, reading⟩, ?_⟩
  · exact ⟨Columns.complete_of_located located, located, district, datetime,
      Columns.district_ne_datetime located, district.lt_length,
      datetime.lt_length, wellFormed.current.uniform⟩
  · exact ⟨_, Dataset.write_unlimited wellFormed.current.rectangular⟩
  · intro room fault failed
    exact wellFormed.current.fault_of_write failed
  · intro step fault failed
    exact ⟨step_of_failed failed,
      fun roomy => wellFormed.fault_of_step roomy failed⟩

/-- A table whose first column is named `District` once two marks are lost. -/
def twiceMarked : List UInt8 :=
  mark ++ mark ++ bytesOf
    "District,Id,District,Datetime,Weight\nA,1,B,2024-1-2 3:04,5\n"

/-- What is read of that table. -/
def onceMarked : Dataset where
  header := ["\uFEFFDistrict", "Id", "District", "Datetime", "Weight"]
  columns := ⟨2, 3⟩
  rows := [⟨2, ["A", "1", "B", "2024-1-2 3:04", "5"]⟩]

/-- What is read back when that is written. -/
def unmarked : Dataset where
  header := ["District", "Id", "District", "Datetime", "Weight"]
  columns := ⟨0, 3⟩
  rows := [⟨2, ["A", "1", "B", "2024-01-02 03:04:00", "5"]⟩]

theorem run_ofDataset_onceMarked :
    (Dataset.read (.ofBytes twiceMarked)).result = .ok onceMarked ∧
      ((ofDataset onceMarked).run [.reread]).1 = ⟨onceMarked, unmarked⟩ ∧
      Columns.IsFirst "District" unmarked.header 0 ∧
      (∃ bytes, unmarked.write none = .ok bytes) ∧
      (∃ again, reread unmarked = ⟨[], .ok again⟩) := by
  have read : (Dataset.read (.ofBytes twiceMarked)).result =
      .ok onceMarked := by decide +kernel
  have reached : ((ofDataset onceMarked).run [.reread]).1 =
      ⟨onceMarked, unmarked⟩ := by decide +kernel
  obtain ⟨⟨_, _, district, _⟩, written, _, again, _⟩ :=
    run_ofDataset _ onceMarked read [.reread] _ reached
  exact ⟨read, reached, district, written, again⟩

end Session
end Deliveries
