import Deliveries.Proofs.Csv.Joining

/-!
# Places of records

A record that is not the first one stands behind the byte that ends the record
before it and behind the line breaks that the search for it passes over.  Its
position is the place right behind that byte.  So its line is the one on which
it begins exactly when no line feed is passed over.
-/

namespace Deliveries
namespace Csv

/-! ## Positions of cursors -/

namespace Scan

/-- Only a line break outside quotes ends a record, and only one that has
begun. -/
theorem step_eq_record_iff
    {scan : Scan} {byte : UInt8} {fields : List Field} :
    scan.step byte = .record fields ↔
      (byte = lineFeed ∨ byte = carriageReturn) ∧
        scan.mode ≠ .quoted ∧ scan.mode ≠ .atRecord ∧
        fields = scan.closed := by
  constructor
  · intro complete
    unfold step at complete
    split at complete
    · cases complete
    split at complete
    · cases complete
    split at complete
    · cases complete
    split at complete
    · next unquoted _ ends =>
      split at complete
      · cases complete
      · next begun =>
        cases complete
        exact ⟨by simpa [isBreak] using ends, unquoted, begun, rfl⟩
    · cases complete
  · rintro ⟨ends, unquoted, begun, rfl⟩
    exact step_of_break ends unquoted begun

end Scan

namespace Cursor

/-- A cursor counts the line feeds, the bytes and the records that it passes. -/
theorem here_after (cursor : Cursor) (bytes : List UInt8) :
    (cursor.after bytes).here =
      ⟨cursor.here.line + bytes.count lineFeed,
        cursor.here.byte + bytes.length,
        cursor.here.record + (cursor.found bytes).length⟩ := by
  induction bytes generalizing cursor with
  | nil => rfl
  | cons byte rest ih =>
    have line : (cursor.next byte).here.line =
        cursor.here.line + if byte = lineFeed then 1 else 0 := by
      unfold next
      split <;> by_cases feed : byte = lineFeed <;>
        simp [ofPosition, Position.nextRecord, Position.past, feed]
    have place : (cursor.next byte).here.byte = cursor.here.byte + 1 := by
      unfold next
      split <;> rfl
    have record : (cursor.next byte).here.record =
        cursor.here.record + (cursor.found? byte).toList.length := by
      unfold next found?
      split <;> rfl
    rw [after_cons, ih, line, place, record, found, List.count_cons,
      List.length_append, List.length_cons]
    simp only [beq_iff_eq, Position.mk.injEq]
    omega

theorem of_found?_eq_some
    {cursor : Cursor} {byte : UInt8} {record : Record}
    (complete : cursor.found? byte = some record) :
    record.start = cursor.start ∧
      cursor.scan.step byte = .record record.fields := by
  unfold found? at complete
  split at complete
  · cases complete
  · next advance =>
    cases complete
    exact ⟨rfl, advance⟩

theorem start_next_of_found?_eq_none
    {cursor : Cursor} {byte : UInt8}
    (incomplete : cursor.found? byte = none) :
    (cursor.next byte).start = cursor.start := by
  unfold found? at incomplete
  unfold next
  split at incomplete
  · rfl
  · cases incomplete

/-- The first record is the one that was searched for from the beginning. -/
theorem start_of_records
    {cursor : Cursor} {ending : Ending} {bytes : List UInt8}
    {record : Record} {later : List Record}
    (records : cursor.records ending bytes = record :: later) :
    record.start = cursor.start := by
  induction bytes generalizing cursor with
  | nil =>
    unfold Cursor.records scanFrom at records
    split at records
    · cases records
      rfl
    · cases records
  | cons byte rest ih =>
    rw [records_cons] at records
    cases complete : cursor.found? byte with
    | none =>
      rw [complete] at records
      rw [ih records, start_next_of_found?_eq_none complete]
    | some first =>
      rw [complete] at records
      obtain ⟨rfl, _⟩ := List.cons.inj records
      exact (of_found?_eq_some complete).1

/-- A record that is followed by another one ends at a byte. -/
theorem exists_end_of_record
    {cursor : Cursor} {ending : Ending} {bytes : List UInt8}
    {earlier later : List Record} {previous record : Record}
    (records : cursor.records ending bytes =
      earlier ++ previous :: record :: later) :
    ∃ front byte rest, bytes = front ++ byte :: rest ∧
      (cursor.after front).found? byte = some previous ∧
      cursor.found (front ++ [byte]) = earlier ++ [previous] ∧
      (cursor.after (front ++ [byte])).records ending rest =
        record :: later := by
  induction bytes generalizing cursor earlier with
  | nil =>
    have few : (cursor.records ending []).length ≤ 1 := by
      unfold Cursor.records scanFrom
      split <;> simp
    rw [records, List.length_append, List.length_cons, List.length_cons] at few
    omega
  | cons byte rest ih =>
    rw [records_cons] at records
    cases complete : cursor.found? byte with
    | none =>
      rw [complete] at records
      obtain ⟨front, last, behind, rfl, ends, found, others⟩ := ih records
      refine ⟨byte :: front, last, behind, rfl, ends, ?_, others⟩
      rw [List.cons_append, Cursor.found, complete, found]
      rfl
    | some first =>
      rw [complete] at records
      cases earlier with
      | nil =>
        obtain ⟨rfl, others⟩ := List.cons.inj records
        refine ⟨[], byte, rest, rfl, complete, ?_, others⟩
        rw [List.nil_append, Cursor.found, complete]
        rfl
      | cons one earlier =>
        obtain ⟨rfl, others⟩ := List.cons.inj records
        obtain ⟨front, last, behind, rfl, ends, found, others⟩ := ih others
        refine ⟨byte :: front, last, behind, rfl, ends, ?_, others⟩
        rw [List.cons_append, Cursor.found, complete, found]
        rfl

end Cursor

/-! ## Between two records -/

/-- The bytes end with the line break that ends a record. -/
def EndsRecord (bytes : List UInt8) : Prop :=
  ∃ front byte, bytes = front ++ [byte] ∧
    (byte = lineFeed ∨ byte = carriageReturn) ∧
    (cursorAfter front).scan.mode ≠ .quoted ∧
    (cursorAfter front).scan.mode ≠ .atRecord

theorem EndsRecord.endsLine
    {bytes : List UInt8} (ends : EndsRecord bytes) : EndsLine bytes := by
  obtain ⟨front, byte, whole, breaks, unquoted, _⟩ := ends
  exact ⟨front, byte, whole, breaks, unquoted⟩

/-- Bytes between two of their records: `before` ends with the byte that ends
the last of the `earlier` records, `gap` are the line breaks that follow it, and
`first` is the first byte of the `later` records. -/
structure Parting (bytes : List UInt8) (earlier later : List (List Field))
    (before gap : List UInt8) (first : UInt8) (rest : List UInt8) : Prop where
  bytes_eq : bytes = before ++ gap ++ first :: rest
  ends : EndsRecord before
  breaks : AllBreaks gap
  begins : first ≠ lineFeed ∧ first ≠ carriageReturn
  earlier_eq : (Source.ofBytes before).records.map (·.fields) = earlier
  later_eq : fieldsAfterBreak (first :: rest) = later

/-- The search for a record passes over line breaks up to its first byte. -/
theorem exists_gap
    {cursor : Cursor} (atStart : cursor.scan = .start) {ending : Ending}
    {bytes : List UInt8} (found : cursor.records ending bytes ≠ []) :
    ∃ gap first rest, bytes = gap ++ first :: rest ∧ AllBreaks gap ∧
      first ≠ lineFeed ∧ first ≠ carriageReturn := by
  induction bytes generalizing cursor with
  | nil =>
    rw [Cursor.records, atStart] at found
    cases ending <;> exact absurd rfl found
  | cons byte rest ih =>
    by_cases ends : byte = lineFeed ∨ byte = carriageReturn
    · have more : cursor.scan.step byte = .more .start := by
        rw [atStart]
        rcases ends with rfl | rfl <;> rfl
      have later : (cursor.next byte).records ending rest ≠ [] := by
        rw [Cursor.records_cons] at found
        simpa only [Cursor.found?, more, Option.toList_none,
          List.nil_append] using found
      have still : (cursor.next byte).scan = .start := by
        simp only [Cursor.next, more]
      obtain ⟨gap, first, others, rfl, breaks, begins⟩ := ih still later
      exact ⟨byte :: gap, first, others, rfl,
        List.forall_mem_cons.mpr ⟨ends, breaks⟩, begins⟩
    · have none : AllBreaks [] := fun _ member =>
        absurd member List.not_mem_nil
      exact ⟨[], byte, rest, rfl, none, not_or.mp ends⟩

namespace Source

/-- What stands before a line break in the table stands there in the bytes,
after the mark if there is one. -/
theorem exists_of_body_eq
    {bytes front back : List UInt8} {byte : UInt8}
    (body : (ofBytes bytes).body = front ++ byte :: back) :
    ∃ lead, bytes = lead ++ byte :: back ∧ (ofBytes lead).body = front := by
  by_cases marked : mark <+: bytes
  · obtain ⟨rest, rfl⟩ := marked
    rw [body_of_marked] at body
    exact ⟨mark ++ front, by rw [body, List.append_assoc],
      body_of_marked front⟩
  · rw [body_of_unmarked marked] at body
    have unmarked : ¬ mark <+: front := by
      intro looks
      apply marked
      rw [body]
      exact looks.trans (List.prefix_append front _)
    exact ⟨front, body, body_of_unmarked unmarked⟩

end Source

/-- Positions are counted over all bytes, the mark included. -/
theorem here_cursorAfter (bytes : List UInt8) :
    (cursorAfter bytes).here =
      ⟨1 + bytes.count lineFeed, bytes.length,
        ((Source.ofBytes bytes).cursor.found
          (Source.ofBytes bytes).body).length⟩ := by
  rw [cursorAfter, Cursor.here_after]
  by_cases marked : mark <+: bytes
  · obtain ⟨rest, rfl⟩ := marked
    have unfed : mark.count lineFeed = 0 := by decide
    have start : (Source.ofBytes (mark ++ rest)).bodyStart =
        ⟨1, mark.length, 0⟩ := rfl
    rw [Source.body_of_marked, Source.cursor, start, List.count_append, unfed,
      List.length_append, Nat.zero_add, Nat.zero_add]
  · rw [Source.body_of_unmarked marked, Source.cursor,
      Source.bodyStart_of_unmarked marked, Position.start, Nat.zero_add,
      Nat.zero_add]

namespace EndsRecord

variable {before : List UInt8}

/-- Behind the end of a record the search for the next one begins. -/
theorem cursorAfter_eq (ends : EndsRecord before) :
    cursorAfter before = .ofPosition (cursorAfter before).here := by
  obtain ⟨front, byte, rfl, breaks, unquoted, begun⟩ := ends
  have complete := Scan.step_of_break breaks unquoted begun
  rw [cursorAfter_append_break breaks, Cursor.after_cons]
  simp only [Cursor.next, complete]
  rfl

/-- The record that follows is found where the search for it begins. -/
theorem start_eq
    (ends : EndsRecord before) {behind : List UInt8} {record : Record}
    {later : List Record}
    (records : (cursorAfter before).records .complete behind =
      record :: later) :
    record.start =
      ⟨1 + before.count lineFeed, before.length,
        (Source.ofBytes before).records.length⟩ := by
  rw [Cursor.start_of_records records, ends.cursorAfter_eq,
    ends.endsLine.records_eq, ← here_cursorAfter]
  rfl

end EndsRecord

/-- A record that is followed by another one ends among the bytes. -/
theorem Source.exists_endsRecord
    {bytes : List UInt8} {earlier later : List Record}
    {previous record : Record}
    (records : (ofBytes bytes).records =
      earlier ++ previous :: record :: later) :
    ∃ before behind, bytes = before ++ behind ∧ EndsRecord before ∧
      (ofBytes before).records = earlier ++ [previous] ∧
      (cursorAfter before).records .complete behind = record :: later := by
  rw [Source.records_eq] at records
  obtain ⟨front, byte, behind, body, complete, found, others⟩ :=
    Cursor.exists_end_of_record records
  obtain ⟨_, advance⟩ := Cursor.of_found?_eq_some complete
  obtain ⟨breaks, unquoted, begun, _⟩ := Scan.step_eq_record_iff.mp advance
  obtain ⟨lead, rfl, rfl⟩ := exists_of_body_eq body
  have sameCursor := (ofBytes_append_break breaks lead behind).1
  obtain ⟨sameBefore, bodyBefore⟩ := ofBytes_append_break breaks lead []
  rw [sameCursor] at unquoted begun found others
  have ends : EndsRecord (lead ++ [byte]) :=
    ⟨lead, byte, rfl, breaks, unquoted, begun⟩
  refine ⟨lead ++ [byte], behind, by simp, ends, ?_, ?_⟩
  · rw [ends.endsLine.records_eq, sameBefore, bodyBefore, found]
  · rw [cursorAfter, sameBefore, bodyBefore]
    exact others

/-- Between two neighbouring records the bytes part, and the position of the
later one is the place behind the byte that ends the earlier one. -/
theorem Source.exists_parting
    {bytes : List UInt8} {earlier later : List Record}
    {previous record : Record}
    (records : (ofBytes bytes).records =
      earlier ++ previous :: record :: later) :
    ∃ before gap first rest,
      Parting bytes ((earlier ++ [previous]).map (·.fields))
        ((record :: later).map (·.fields)) before gap first rest ∧
      record.start =
        ⟨1 + before.count lineFeed, before.length, earlier.length + 1⟩ := by
  obtain ⟨before, behind, rfl, ends, whole, others⟩ :=
    exists_endsRecord records
  have atStart := ends.endsLine.scan_cursorAfter
  have found : (cursorAfter before).records .complete behind ≠ [] := by
    rw [others]
    exact List.cons_ne_nil record later
  obtain ⟨gap, first, rest, rfl, breaks, begins⟩ := exists_gap atStart found
  obtain ⟨next, nextStart, same⟩ := Cursor.records_allBreaks_append breaks
    atStart .complete (first :: rest)
  have position := ends.start_eq others
  rw [whole, List.length_append, List.length_singleton] at position
  refine ⟨before, gap, first, rest, ⟨?_, ends, breaks, begins, ?_, ?_⟩,
    position⟩
  · rw [List.append_assoc]
  · rw [whole]
  · rw [← others, same, fieldsAfterBreak]
    exact Cursor.fields_records_congr nextStart.symm .complete _

end Csv
end Deliveries
