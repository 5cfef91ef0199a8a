import Deliveries.Proofs.Dataset.RoundTrip

/-!
# What can be written

A dataset can be written when its rows have the length of its header and the
sink has room for all of its rendering, wherever the buffer is handed over on
the way.  Otherwise it is the first row of another length, or the room, that
writing fails for.
-/

namespace Deliveries

open Text Csv

namespace Dataset

/-- If not all rows have the header's length, there is a first that has not. -/
theorem exists_first_of_uneven
    {dataset : Dataset}
    (uneven : ¬ ∀ row ∈ dataset.rows,
      row.fields.length = dataset.header.length) :
    ∃ front row back, dataset.rows = front ++ row :: back ∧
      (∀ earlier ∈ front, earlier.fields.length = dataset.header.length) ∧
      row.fields.length ≠ dataset.header.length := by
  cases found : dataset.rows.find?
      fun row => decide (row.fields.length ≠ dataset.header.length) with
  | none =>
    refine absurd ?_ uneven
    simpa using found
  | some row =>
    obtain ⟨other, front, back, rows, fitting⟩ :=
      List.find?_eq_some_iff_append.mp found
    refine ⟨front, row, back, rows, ?_, of_decide_eq_true other⟩
    intro earlier member
    simpa using fitting earlier member

/-- A dataset is refused at its first row of another length than the header,
if there is room up to there. -/
theorem write_of_uneven
    {dataset : Dataset} {front back : List Row} {row : Row}
    (rows : dataset.rows = front ++ row :: back)
    (even : ∀ earlier ∈ front,
      earlier.fields.length = dataset.header.length)
    (other : row.fields.length ≠ dataset.header.length)
    (room : Option Nat) :
    dataset.write room =
        .error (.output (.writing
          (.fieldCount row.fields.length dataset.header.length))) ∨
      room ≠ none ∧
        dataset.write room = .error (.output (.writing .noRoom)) := by
  have written : dataset.writtenRows.map (·.map bytesOf) =
      front.map (fun earlier =>
          (earlier.normalized dataset.columns).map bytesOf) ++
        (row.normalized dataset.columns).map bytesOf ::
          back.map fun later =>
            (later.normalized dataset.columns).map bytesOf := by
    simp [writtenRows, rows, Function.comp_def]
  have fitting : ∀ fields ∈ front.map (fun earlier =>
        (earlier.normalized dataset.columns).map bytesOf),
      fields.length = (dataset.header.map bytesOf).length := by
    intro fields member
    obtain ⟨earlier, present, rfl⟩ := List.mem_map.mp member
    simpa using even earlier present
  have misfit : ((row.normalized dataset.columns).map bytesOf).length ≠
      (dataset.header.map bytesOf).length := by
    simpa using other
  have refused := write_of_misfit fitting misfit
    (back.map fun later => (later.normalized dataset.columns).map bytesOf) room
  rw [write, written]
  rw [List.length_map, List.length_map, Row.length_normalized] at refused
  rcases refused with counted | ⟨limited, full⟩
  · rw [counted]
    exact .inl rfl
  · rw [full]
    exact .inr ⟨limited, rfl⟩

/-- Writing fails on the output's side and nowhere else. -/
theorem exists_cause_of_write
    {room : Option Nat} {dataset : Dataset} {fault : Fault}
    (failed : dataset.write room = .error fault) :
    ∃ cause, fault = .output (.writing cause) := by
  unfold write at failed
  cases written : Csv.write room (dataset.header.map bytesOf)
      (dataset.writtenRows.map (·.map bytesOf)) with
  | ok bytes =>
    rw [written] at failed
    cases failed
  | error cause =>
    rw [written] at failed
    cases failed
    exact ⟨cause, rfl⟩

/-- What is written into a sink of limited room has rows of one length, fits,
and is the rendering. -/
theorem write_some_eq_ok_iff
    {dataset : Dataset} {room : Nat} {bytes : List UInt8} :
    dataset.write (some room) = .ok bytes ↔
      (∀ row ∈ dataset.rows, row.fields.length = dataset.header.length) ∧
        dataset.rendering.length ≤ room ∧ bytes = dataset.rendering := by
  have limit : (Sink.ofRoom (some room)).admits dataset.rendering.length =
      decide (dataset.rendering.length ≤ room) := rfl
  by_cases even : ∀ row ∈ dataset.rows,
      row.fields.length = dataset.header.length
  · rw [write_of_even even, limit]
    by_cases fits : dataset.rendering.length ≤ room
    · rw [if_pos (decide_eq_true fits), Except.ok.injEq]
      exact ⟨fun same => ⟨even, fits, same.symm⟩,
        fun written => written.2.2.symm⟩
    · rw [if_neg (by simpa using fits)]
      exact ⟨nofun, fun written => absurd written.2.1 fits⟩
  · obtain ⟨front, row, back, rows, fitting, other⟩ :=
      exists_first_of_uneven even
    refine ⟨?_, fun written => absurd written.1 even⟩
    rcases write_of_uneven rows fitting other (some room) with
      refused | ⟨_, refused⟩
    · rw [refused]
      exact nofun
    · rw [refused]
      exact nofun

/-- A dataset is written into a sink of limited room exactly when its rows have
the header's length and there is room for its whole rendering, and the sink then
holds what an unlimited one would hold.  Otherwise writing fails on the output's
side: for want of room when the rows have one length, and into an unlimited sink
for the first row of another length than the header. -/
theorem write_limited (dataset : Dataset) (room : Nat) :
    ((∃ bytes, dataset.write (some room) = .ok bytes) ↔
      (∀ row ∈ dataset.rows,
        row.fields.length = dataset.header.length) ∧
      dataset.rendering.length ≤ room) ∧
    (∀ bytes, dataset.write (some room) = .ok bytes ->
      bytes = dataset.rendering ∧ dataset.write none = .ok bytes) ∧
    (∀ fault, dataset.write (some room) = .error fault ->
      ∃ cause, fault = .output (.writing cause)) ∧
    ((∀ row ∈ dataset.rows,
        row.fields.length = dataset.header.length) ->
      room < dataset.rendering.length ->
      dataset.write (some room) = .error (.output (.writing .noRoom))) ∧
    ((¬ ∀ row ∈ dataset.rows,
        row.fields.length = dataset.header.length) ->
      ∃ front row back, dataset.rows = front ++ row :: back ∧
        (∀ earlier ∈ front,
          earlier.fields.length = dataset.header.length) ∧
        row.fields.length ≠ dataset.header.length ∧
        dataset.write none = .error (.output (.writing
          (.fieldCount row.fields.length dataset.header.length)))) := by
  refine ⟨⟨?_, ?_⟩, ?_, fun fault => exists_cause_of_write, ?_, ?_⟩
  · rintro ⟨bytes, written⟩
    obtain ⟨even, fits, _⟩ := write_some_eq_ok_iff.mp written
    exact ⟨even, fits⟩
  · rintro ⟨even, fits⟩
    exact ⟨dataset.rendering, write_some_eq_ok_iff.mpr ⟨even, fits, rfl⟩⟩
  · intro bytes written
    obtain ⟨even, _, rfl⟩ := write_some_eq_ok_iff.mp written
    refine ⟨rfl, ?_⟩
    rw [write_of_even even]
    exact if_pos rfl
  · intro even small
    have full : (Sink.ofRoom (some room)).admits dataset.rendering.length =
        false := decide_eq_false (Nat.not_le.mpr small)
    rw [write_of_even even, full]
    rfl
  · intro uneven
    obtain ⟨front, row, back, rows, fitting, other⟩ :=
      exists_first_of_uneven uneven
    refine ⟨front, row, back, rows, fitting, other, ?_⟩
    rcases write_of_uneven rows fitting other none with
      refused | ⟨limited, _⟩
    · exact refused
    · exact absurd rfl limited

/-- A dataset whose second row is too long. -/
def overlong : Dataset where
  header := ["Id", "District", "Datetime", "Weight"]
  columns := ⟨1, 9⟩
  rows :=
    [⟨2, ["1", "A", "2024-1-2 3:04", "5"]⟩,
      ⟨3, ["2", "B", "soon", "6", "7"]⟩, ⟨4, []⟩]

/-- The annotated dataset is written where there is room for its last byte, and
the other one is refused for its second row. -/
theorem write_limited_annotated_overlong :
    (∃ bytes, annotated.write (some 93) = .ok bytes) ∧
      annotated.write (some 92) = .error (.output (.writing .noRoom)) ∧
      ¬ (∃ bytes, overlong.write (some 8192) = .ok bytes) ∧
      ∃ row ∈ overlong.rows,
        row.fields.length ≠ overlong.header.length ∧
        overlong.write none = .error (.output (.writing
          (.fieldCount row.fields.length overlong.header.length))) := by
  have even : ∀ row ∈ annotated.rows,
      row.fields.length = annotated.header.length := by decide
  have uneven : ¬ ∀ row ∈ overlong.rows,
      row.fields.length = overlong.header.length := by decide
  have size : annotated.rendering.length = 93 := by decide +kernel
  refine ⟨?_, ?_, ?_, ?_⟩
  · exact (write_limited annotated 93).1.mpr ⟨even, Nat.le_of_eq size⟩
  · have small : 92 < annotated.rendering.length := by
      rw [size]
      decide
    exact (write_limited annotated 92).2.2.2.1 even small
  · intro written
    exact uneven ((write_limited overlong 8192).1.mp written).1
  · obtain ⟨front, row, back, rows, _, other, refused⟩ :=
      (write_limited overlong 0).2.2.2.2 uneven
    have member : row ∈ overlong.rows := by
      rw [rows]
      exact List.mem_append_right front List.mem_cons_self
    exact ⟨row, member, other, refused⟩

end Dataset
end Deliveries
