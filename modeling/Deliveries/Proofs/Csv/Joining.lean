import Deliveries.Proofs.Csv.Layout

/-!
# Joined sources

Bytes that end with a line break outside quotes leave nothing open: whatever is
appended to them is scanned as if it stood alone, but for a byte order mark,
which means nothing there.  So the records of both parts are the records of the
whole, apart from their positions.
-/

namespace Deliveries
namespace Csv

/-! ## Scans between records -/

namespace Scan

/-- Between records nothing is held. -/
def Settled (scan : Scan) : Prop :=
  scan.mode = .atRecord -> scan = .start

theorem settled_start : start.Settled := fun _ => rfl

/-- A byte that completes no record leaves the scan between records only if it
was there before. -/
theorem Settled.step
    {scan next : Scan} (settled : scan.Settled)
    {byte : UInt8} (more : scan.step byte = .more next) : next.Settled := by
  intro between
  unfold Scan.step at more
  split at more
  · cases more
    unfold takeQuote at between
    split at between <;> cases between
  split at more
  · cases more
    cases between
  split at more
  · cases more
    cases between
  split at more
  · split at more
    · next unbegun =>
      cases more
      exact settled unbegun
    · cases more
  · cases more
    cases between

end Scan

namespace Cursor

theorem settled_next
    {cursor : Cursor} (settled : cursor.scan.Settled) (byte : UInt8) :
    (cursor.next byte).scan.Settled := by
  unfold next
  split
  · next more => exact settled.step more
  · exact Scan.settled_start

theorem settled_after
    {cursor : Cursor} (settled : cursor.scan.Settled) (bytes : List UInt8) :
    (cursor.after bytes).scan.Settled := by
  induction bytes generalizing cursor with
  | nil => exact settled
  | cons byte rest ih => exact ih (settled_next settled byte)

/-- After a line break outside quotes no record is open. -/
theorem scan_next_of_break
    {cursor : Cursor} (settled : cursor.scan.Settled)
    {byte : UInt8} (ends : byte = lineFeed ∨ byte = carriageReturn)
    (unquoted : cursor.scan.mode ≠ .quoted) :
    (cursor.next byte).scan = .start := by
  by_cases between : cursor.scan.mode = .atRecord
  · have more : cursor.scan.step byte = .more .start := by
      rw [settled between]
      rcases ends with rfl | rfl <;> rfl
    simp only [next, more]
  · have complete := Scan.step_of_break ends unquoted between
    simp only [next, complete]
    rfl

theorem after_append (cursor : Cursor) (front back : List UInt8) :
    cursor.after (front ++ back) = (cursor.after front).after back :=
  List.foldl_append

/-- Where no record is completed at the end, all are found among the bytes. -/
theorem records_eq_found
    {cursor : Cursor} {ending : Ending} {bytes : List UInt8}
    (nothing : (cursor.after bytes).records ending [] = []) :
    cursor.records ending bytes = cursor.found bytes := by
  have split := records_append ending cursor bytes []
  rwa [nothing, List.append_nil, List.append_nil] at split

theorem records_eq_found_of_start
    {cursor : Cursor} {bytes : List UInt8}
    (closed : (cursor.after bytes).scan = .start) (ending : Ending) :
    cursor.records ending bytes = cursor.found bytes := by
  apply records_eq_found
  rw [records, closed]
  cases ending <;> rfl

/-- The fields of the records depend on the scan, but not on positions. -/
theorem fields_records_congr
    {left right : Cursor} (same : left.scan = right.scan)
    (ending : Ending) (bytes : List UInt8) :
    (left.records ending bytes).map (·.fields) =
      (right.records ending bytes).map (·.fields) := by
  induction bytes generalizing left right with
  | nil =>
    simp only [records, scanFrom, same]
    cases ending with
    | broken => rfl
    | complete => cases right.scan.finish? <;> rfl
  | cons byte rest ih =>
    have sameNext : (left.next byte).scan = (right.next byte).scan := by
      simp only [next, same]
      cases right.scan.step byte <;> rfl
    rw [records_cons, records_cons, List.map_append, List.map_append,
      ih sameNext]
    congr 1
    simp only [found?, same]
    cases right.scan.step byte <;> rfl

end Cursor

/-! ## Ends of lines -/

namespace Source

theorem bodyStart_of_unmarked
    {bytes : List UInt8} (unmarked : ¬ mark <+: bytes) :
    (ofBytes bytes).bodyStart = .start := by
  unfold bodyStart ofBytes
  split
  · next rest equal =>
    exact absurd ⟨rest, equal.symm⟩ unmarked
  · rfl

end Source

/-- The cursor after the last byte of some bytes. -/
def cursorAfter (bytes : List UInt8) : Cursor :=
  (Source.ofBytes bytes).cursor.after (Source.ofBytes bytes).body

/-- The bytes end with a line break that no quotes enclose. -/
def EndsLine (bytes : List UInt8) : Prop :=
  ∃ front byte, bytes = front ++ [byte] ∧
    (byte = lineFeed ∨ byte = carriageReturn) ∧
    (cursorAfter front).scan.mode ≠ .quoted

theorem endsLine_iff (bytes : List UInt8) :
    EndsLine bytes ↔ bytes.getLast?.any isBreak = true ∧
      (cursorAfter bytes.dropLast).scan.mode ≠ .quoted := by
  constructor
  · rintro ⟨front, byte, rfl, breaks, unquoted⟩
    rw [List.getLast?_concat, List.dropLast_concat]
    exact ⟨by simpa [isBreak] using breaks, unquoted⟩
  · rintro ⟨breaks, unquoted⟩
    cases last : bytes.getLast? with
    | none =>
      rw [last] at breaks
      cases breaks
    | some byte =>
      rw [last] at breaks
      obtain ⟨front, rfl⟩ := List.getLast?_eq_some_iff.mp last
      rw [List.dropLast_concat] at unquoted
      exact ⟨front, byte, rfl, by simpa [isBreak] using breaks, unquoted⟩

instance (bytes : List UInt8) : Decidable (EndsLine bytes) :=
  decidable_of_iff _ (endsLine_iff bytes).symm

/-- The fields of the records in bytes that follow a line break. -/
def fieldsAfterBreak (bytes : List UInt8) : List (List Field) :=
  ((Cursor.ofPosition .start).records .complete bytes).map (·.fields)

/-- No line break belongs to a byte order mark, so that bytes up to one are
marked or not whatever follows. -/
theorem mark_prefix_append_iff
    {byte : UInt8} (ends : byte = lineFeed ∨ byte = carriageReturn)
    (front back : List UInt8) :
    mark <+: front ++ byte :: back ↔ mark <+: front := by
  constructor
  · rintro ⟨rest, equal⟩
    have notMark : byte ∉ mark := by
      rcases ends with rfl | rfl <;> decide
    rcases List.append_eq_append_iff.mp equal with
      ⟨middle, rfl, _⟩ | ⟨middle, whole, equalRest⟩
    · exact List.prefix_append mark middle
    · cases middle with
      | nil =>
        rw [List.append_nil] at whole
        exact whole ▸ List.prefix_rfl
      | cons first others =>
        obtain ⟨rfl, _⟩ := List.cons.inj equalRest
        exact absurd (whole ▸ by simp) notMark
  · intro marked
    exact marked.trans (List.prefix_append front _)

/-- The table goes on as the bytes do, unless they complete a mark. -/
theorem Source.ofBytes_append
    {front back : List UInt8}
    (same : mark <+: front ++ back ↔ mark <+: front) :
    (ofBytes (front ++ back)).cursor = (ofBytes front).cursor ∧
      (ofBytes (front ++ back)).body = (ofBytes front).body ++ back := by
  by_cases marked : mark <+: front
  · obtain ⟨rest, rfl⟩ := marked
    exact ⟨rfl, rfl⟩
  · have unmarked : ¬ mark <+: front ++ back := fun looks =>
      marked (same.mp looks)
    rw [cursor, cursor, bodyStart_of_unmarked marked,
      bodyStart_of_unmarked unmarked, body_of_unmarked marked,
      body_of_unmarked unmarked]
    exact ⟨rfl, rfl⟩

/-- The table goes on behind a line break as the bytes do. -/
theorem Source.ofBytes_append_break
    {byte : UInt8} (ends : byte = lineFeed ∨ byte = carriageReturn)
    (front back : List UInt8) :
    (ofBytes (front ++ byte :: back)).cursor = (ofBytes front).cursor ∧
      (ofBytes (front ++ byte :: back)).body =
        (ofBytes front).body ++ byte :: back :=
  ofBytes_append (mark_prefix_append_iff ends front back)

theorem cursorAfter_append_break
    {byte : UInt8} (ends : byte = lineFeed ∨ byte = carriageReturn)
    (front back : List UInt8) :
    cursorAfter (front ++ byte :: back) =
      (cursorAfter front).after (byte :: back) := by
  obtain ⟨sameCursor, body⟩ := Source.ofBytes_append_break ends front back
  rw [cursorAfter, sameCursor, body, Cursor.after_append, cursorAfter]

theorem settled_cursorAfter (bytes : List UInt8) :
    (cursorAfter bytes).scan.Settled :=
  Cursor.settled_after Scan.settled_start _

namespace EndsLine

variable {front : List UInt8}

/-- The table goes on behind the end of a line as the bytes do. -/
theorem ofBytes_append (ends : EndsLine front) (back : List UInt8) :
    (Source.ofBytes (front ++ back)).cursor = (Source.ofBytes front).cursor ∧
      (Source.ofBytes (front ++ back)).body =
        (Source.ofBytes front).body ++ back := by
  obtain ⟨first, byte, rfl, breaks, _⟩ := ends
  apply Source.ofBytes_append
  rw [List.append_assoc, List.singleton_append,
    mark_prefix_append_iff breaks, mark_prefix_append_iff breaks]

/-- At the end of a line nothing is open. -/
theorem scan_cursorAfter (ends : EndsLine front) :
    (cursorAfter front).scan = .start := by
  obtain ⟨first, byte, rfl, breaks, unquoted⟩ := ends
  rw [cursorAfter_append_break breaks]
  exact Cursor.scan_next_of_break (settled_cursorAfter first) breaks unquoted

/-- The records of what ends with a line are all complete there. -/
theorem records_eq (ends : EndsLine front) :
    (Source.ofBytes front).records =
      (Source.ofBytes front).cursor.found (Source.ofBytes front).body :=
  Cursor.records_eq_found_of_start ends.scan_cursorAfter .complete

/-- What is appended at the end of a line adds its records to those before. -/
theorem records_append (ends : EndsLine front) (back : List UInt8) :
    (Source.ofBytes (front ++ back)).records =
      (Source.ofBytes front).records ++
        (cursorAfter front).records .complete back := by
  obtain ⟨sameCursor, body⟩ := ends.ofBytes_append back
  rw [ends.records_eq, Source.records_eq, sameCursor, body]
  exact Cursor.records_append .complete _ _ back

/-- The fields of what is appended do not depend on what stands before. -/
theorem fields_records_append (ends : EndsLine front) (back : List UInt8) :
    (Source.ofBytes (front ++ back)).records.map (·.fields) =
      (Source.ofBytes front).records.map (·.fields) ++
        fieldsAfterBreak back := by
  rw [ends.records_append, List.map_append, fieldsAfterBreak]
  congr 1
  exact Cursor.fields_records_congr ends.scan_cursorAfter .complete back

end EndsLine
end Csv
end Deliveries
