import Deliveries.Proofs.Csv.Places
import Deliveries.Proofs.Dataset.WellFormed

/-!
# Lines of rows

A row, a skip and the fault of a bad datetime all tell the line on which the
search for their record began.  That is the line of the record's first byte when
the search passes over no line feed, and an earlier one when it passes over the
second half of a line break or over empty lines.
-/

namespace Deliveries

open Text Csv

namespace Dataset

/-- Every entry of a table begins at a place between the records before it and
the records from it on.  Its line is counted up to the end of the record before
it, which is the line of its first byte only if no line feed stands between. -/
def Placed (bytes : List UInt8) (header : List String)
    (entries : List Entry) : Prop :=
  ∀ earlier entry later, entries = earlier ++ entry :: later ->
    ∃ before gap first rest,
      Parting bytes (fieldsOf (header :: earlier.map (·.texts)))
        (fieldsOf (entry.texts :: later.map (·.texts)))
        before gap first rest ∧
      entry.start.line = 1 + before.count lineFeed ∧
      (entry.start.line = 1 + (before ++ gap).count lineFeed ↔
        lineFeed ∉ gap)

theorem fields_map_record (entries : List Entry) :
    (entries.map (·.record)).map (·.fields) =
      fieldsOf (entries.map (·.texts)) := by
  rw [fieldsOf, List.map_map, List.map_map]
  rfl

/-- The entries under a header are placed. -/
theorem placed_of_records
    {bytes : List UInt8} {start : Position} {header : List String}
    {entries : List Entry}
    (records : (Source.ofBytes bytes).records =
      (Entry.mk start header).record :: entries.map (·.record)) :
    Placed bytes header entries := by
  rintro earlier entry later rfl
  -- The header is before the entry, so that some record ends before it.
  obtain ⟨front, previous, whole⟩ :
      ∃ front previous, Entry.mk start header :: earlier =
        front ++ [previous] :=
    ⟨_, _, (List.dropLast_concat_getLast (List.cons_ne_nil _ _)).symm⟩
  have parts : (Source.ofBytes bytes).records =
      front.map (·.record) ++ previous.record :: entry.record ::
        later.map (·.record) := by
    rw [records, ← List.map_cons, ← List.cons_append, whole]
    simp
  obtain ⟨before, gap, first, rest, parting, position⟩ :=
    Source.exists_parting parts
  have line : entry.start.line = 1 + before.count lineFeed :=
    congrArg Position.line position
  have earlierFields :
      ((front.map (·.record) ++ [previous.record]).map (·.fields)) =
        fieldsOf (header :: earlier.map (·.texts)) := by
    have concat : front.map (·.record) ++ [previous.record] =
        (front ++ [previous]).map (·.record) := by
      rw [List.map_append, List.map_singleton]
    rw [concat, fields_map_record, ← whole]
    rfl
  have laterFields :
      ((entry.record :: later.map (·.record)).map (·.fields)) =
        fieldsOf (entry.texts :: later.map (·.texts)) :=
    fields_map_record (entry :: later)
  rw [earlierFields, laterFields] at parting
  refine ⟨before, gap, first, rest, parting, line, ?_⟩
  rw [line, List.count_append, ← List.count_eq_zero]
  omega

/-- What is read are placed entries.  The lines of the rows, of the skips and of
the faults of bad datetimes are theirs. -/
theorem lines_of_read
    (bytes : List UInt8) (dataset : Dataset)
    (reading : (read (.ofBytes bytes)).result = .ok dataset) :
    ∃ entries : List Entry,
      Placed bytes dataset.header entries ∧
      dataset.rows =
        (entries.filter (·.fits dataset.header.length)).map (·.row) ∧
      (read (.ofBytes bytes)).skips =
        (entries.filter (! ·.fits dataset.header.length)).map
          (·.skip dataset.header.length) ∧
      ∀ criteria fault, dataset.filter criteria = .error fault ↔
        ∃ row, dataset.rows.find? (criteria.refuses dataset.columns) =
            some row ∧
          fault =
            .badDatetime row.line (row.datetimeText dataset.columns) := by
  obtain ⟨start, entries, records, _, rows, skips⟩ :=
    exists_entries_of_read reading
  exact ⟨entries, placed_of_records records, rows, skips,
    fun criteria fault => filter_eq_error_iff⟩

/-- A table with both kinds of line breaks, an empty line, a field of two lines
and a short record. -/
def mixedLines : List UInt8 :=
  bytesOf "Id,District,Datetime,Weight\r\n1,\"A\nB\",soon,5\n\nx\n2,C,now,6\n"

/-- What is read of that table. -/
def mixedDataset : Dataset where
  header := ["Id", "District", "Datetime", "Weight"]
  columns := ⟨1, 2⟩
  rows := [⟨1, ["1", "A\nB", "soon", "5"]⟩, ⟨6, ["2", "C", "now", "6"]⟩]

theorem lines_of_read_mixedLines :
    (read (.ofBytes mixedLines)).result = .ok mixedDataset ∧
      ∃ entries : List Entry,
        Placed mixedLines mixedDataset.header entries ∧
        mixedDataset.rows = (entries.filter (·.fits 4)).map (·.row) ∧
        [⟨4, 4, 1⟩] = (entries.filter (! ·.fits 4)).map (·.skip 4) ∧
        mixedDataset.filter
            ⟨some "C", Datetime.parse? "2024-01-02 03:04", none⟩ =
          .error (.badDatetime 6 "now") := by
  have reading : (read (.ofBytes mixedLines)).result = .ok mixedDataset := by
    decide +kernel
  have skips : (read (.ofBytes mixedLines)).skips = [⟨4, 4, 1⟩] := by
    decide +kernel
  obtain ⟨entries, placed, rows, skipped, faults⟩ :=
    lines_of_read mixedLines mixedDataset reading
  rw [skips] at skipped
  exact ⟨reading, entries, placed, rows, skipped,
    (faults _ _).mpr ⟨⟨6, ["2", "C", "now", "6"]⟩, by decide +kernel, rfl⟩⟩

/-- A header line that ends with a carriage return and a line feed. -/
def crlfHeader : List UInt8 := bytesOf "Id,District,Datetime,Weight\r\n"

/-- The second line of a table, which such a header line precedes. -/
def crlfRow : List UInt8 := bytesOf "1,A,soon,5\r\n"

/-- What is read of the table of both lines: the row tells line 1. -/
def crlfDataset : Dataset where
  header := ["Id", "District", "Datetime", "Weight"]
  columns := ⟨1, 2⟩
  rows := [⟨1, ["1", "A", "soon", "5"]⟩]

/-- A row is told to stand one line before its own where lines end with a
carriage return and a line feed. -/
theorem line_ne_of_crlf :
    (Source.ofBytes crlfHeader).records.map (·.fields) =
        fieldsOf [["Id", "District", "Datetime", "Weight"]] ∧
      fieldsAfterBreak crlfRow = fieldsOf [["1", "A", "soon", "5"]] ∧
      1 + crlfHeader.count lineFeed = 2 ∧
      (read (.ofBytes (crlfHeader ++ crlfRow))).result =
        .ok crlfDataset ∧
      crlfDataset.filter ⟨none, Datetime.parse? "2024-01-02 03:04", none⟩ =
        .error (.badDatetime 1 "soon") := by
  decide +kernel

end Dataset
end Deliveries
