import Deliveries.Proofs.Csv.Places

/-!
# Positions of records

Along a source the positions of the records never go back, and they number the
records one after the other.  Both hold because a search begins where the record
before has ended, and nothing but the end of a record counts as one.
-/

namespace Deliveries
namespace Csv

namespace Cursor

/-- The search for the open record began no later than where the cursor stands,
and no record has ended since. -/
structure Forward (cursor : Cursor) : Prop where
  line_le : cursor.start.line ≤ cursor.here.line
  record_eq : cursor.start.record = cursor.here.record

variable {cursor : Cursor}

theorem forward_ofPosition (position : Position) :
    (ofPosition position).Forward :=
  ⟨Nat.le_refl _, rfl⟩

theorem le_line_past (position : Position) (byte : UInt8) :
    position.line ≤ (position.past byte).line := by
  change position.line ≤
    if byte = lineFeed then position.line + 1 else position.line
  split
  · exact Nat.le_succ position.line
  · exact Nat.le_refl position.line

theorem Forward.next (forward : cursor.Forward) (byte : UInt8) :
    (cursor.next byte).Forward := by
  unfold Cursor.next
  split
  · exact ⟨Nat.le_trans forward.line_le (le_line_past _ _), forward.record_eq⟩
  · exact forward_ofPosition _

/-- A byte that ends a record begins the search for the next one, and any other
byte leaves the search where it began. -/
theorem Forward.start_next (forward : cursor.Forward) (byte : UInt8) :
    cursor.found? byte = none ∧ (cursor.next byte).start = cursor.start ∨
      ∃ fields, cursor.found? byte = some ⟨cursor.start, fields⟩ ∧
        cursor.start.line ≤ (cursor.next byte).start.line ∧
        (cursor.next byte).start.record = cursor.start.record + 1 := by
  unfold Cursor.next found?
  split
  · exact .inl ⟨rfl, rfl⟩
  · next fields _ =>
    refine .inr
      ⟨fields, rfl, Nat.le_trans forward.line_le (le_line_past _ _), ?_⟩
    rw [forward.record_eq]
    rfl

theorem records_nil (ending : Ending) (cursor : Cursor) :
    cursor.records ending [] = [] ∨
      ∃ fields, cursor.records ending [] = [⟨cursor.start, fields⟩] := by
  unfold records scanFrom
  split
  · next fields _ => exact .inr ⟨fields, rfl⟩
  · exact .inl rfl

/-- From a cursor on, the lines of the records never go back, and not behind
where the search for the first one began. -/
theorem Forward.lines_records
    (forward : cursor.Forward) (ending : Ending) (bytes : List UInt8) :
    (∀ record ∈ cursor.records ending bytes,
      cursor.start.line ≤ record.start.line) ∧
    ((cursor.records ending bytes).map (·.start.line)).Pairwise (· ≤ ·) := by
  induction bytes generalizing cursor with
  | nil =>
    rcases records_nil ending cursor with none | ⟨fields, one⟩
    · simp [none]
    · simp [one]
  | cons byte rest ih =>
    obtain ⟨later, ordered⟩ := ih (forward.next byte)
    rw [records_cons]
    rcases forward.start_next byte with ⟨none, same⟩ | ⟨fields, one, le, _⟩
    · rw [none, Option.toList_none, List.nil_append, ← same]
      exact ⟨later, ordered⟩
    · have all : ∀ record ∈ (cursor.next byte).records ending rest,
          cursor.start.line ≤ record.start.line := fun record member =>
        Nat.le_trans le (later record member)
      rw [one, Option.toList_some, List.singleton_append]
      refine ⟨List.forall_mem_cons.mpr ⟨Nat.le_refl _, all⟩, ?_⟩
      rw [List.map_cons, List.pairwise_cons]
      exact ⟨List.forall_mem_map.mpr all, ordered⟩

/-- From a cursor on, positions number the records one after the other. -/
theorem Forward.numbers_records
    (forward : cursor.Forward) (ending : Ending) (bytes : List UInt8) :
    (cursor.records ending bytes).map (·.start.record) =
      List.range' cursor.start.record
        (cursor.records ending bytes).length := by
  induction bytes generalizing cursor with
  | nil =>
    rcases records_nil ending cursor with none | ⟨fields, one⟩
    · rw [none]
      rfl
    · rw [one]
      rfl
  | cons byte rest ih =>
    have numbers := ih (forward.next byte)
    rw [records_cons]
    rcases forward.start_next byte with ⟨none, same⟩ | ⟨fields, one, _, next⟩
    · rw [none, Option.toList_none, List.nil_append, numbers, same]
    · rw [one, Option.toList_some, List.singleton_append, List.map_cons,
        List.length_cons, List.range'_succ, numbers, next]

end Cursor

namespace Source

theorem forward_cursor (source : Source) : source.cursor.Forward := by
  unfold cursor bodyStart
  split
  · exact ⟨Nat.le_refl _, rfl⟩
  · exact ⟨Nat.le_refl _, rfl⟩

/-- The lines of the records of a source never go back. -/
theorem pairwise_line_records (source : Source) :
    (source.records.map (·.start.line)).Pairwise (· ≤ ·) :=
  (source.forward_cursor.lines_records source.ending source.body).2

/-- The records of a source are numbered from 0. -/
theorem numbers_records (source : Source) :
    source.records.map (·.start.record) =
      List.range source.records.length := by
  rw [List.range_eq_range']
  exact source.forward_cursor.numbers_records source.ending source.body

end Source
end Csv
end Deliveries
