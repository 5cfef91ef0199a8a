import Mathlib.Data.List.Basic
import Deliveries.Proofs.Csv.Positions
import Deliveries.Proofs.Dataset.Lines

/-!
# Rows and skips together

Every record after the header becomes one row or one skip, in order.  The lines
that rows and skips tell never go back, and none of them lies behind the line on
which its record begins.
-/

namespace Deliveries

open Text Csv

namespace Dataset

/-- Rows and skips are as many as the entries that they are made of. -/
theorem length_filter_fits_add (width : Nat) (entries : List Entry) :
    ((entries.filter (·.fits width)).map (·.row)).length +
        ((entries.filter (! ·.fits width)).map (·.skip width)).length =
      entries.length := by
  rw [List.length_map, List.length_map]
  exact (List.length_eq_length_filter_add _).symm

/-- The lines of the entries under a header never go back. -/
theorem pairwise_line_entries
    {source : Source} {first : Entry} {entries : List Entry}
    (records : source.records = first.record :: entries.map (·.record)) :
    (entries.map (·.start.line)).Pairwise (· ≤ ·) := by
  have ordered := source.pairwise_line_records
  rw [records, List.map_cons, List.pairwise_cons, List.map_map] at ordered
  exact ordered.2

/-- The line of a placed entry is at least the first, and not behind the line on
which the entry's record begins. -/
theorem Placed.line_le
    {bytes : List UInt8} {header : List String} {entries : List Entry}
    (placed : Placed bytes header entries)
    {earlier later : List Entry} {entry : Entry}
    (split : entries = earlier ++ entry :: later) :
    1 ≤ entry.start.line ∧
      ∃ before gap first rest,
        Parting bytes (fieldsOf (header :: earlier.map (·.texts)))
          (fieldsOf (entry.texts :: later.map (·.texts)))
          before gap first rest ∧
        entry.start.line ≤ 1 + (before ++ gap).count lineFeed := by
  obtain ⟨before, gap, first, rest, parting, line, _⟩ :=
    placed earlier entry later split
  refine ⟨by omega, before, gap, first, rest, parting, ?_⟩
  rw [line, List.count_append]
  omega

/-- The records after the header are entries: those of the header's length are
the rows, with all their texts, and the others are skipped and told with both
lengths, each once and in order.  The lines told, of rows and skips together,
never go back, are at least 1, and are not behind those on which the records
begin. -/
theorem partition_of_read
    (bytes : List UInt8) (dataset : Dataset)
    (reading : (read (.ofBytes bytes)).result = .ok dataset) :
    ∃ (start : Position) (entries : List Entry),
      (Source.ofBytes bytes).records =
        (Entry.mk start dataset.header).record :: entries.map (·.record) ∧
      dataset.rows =
        (entries.filter (·.fits dataset.header.length)).map (·.row) ∧
      (read (.ofBytes bytes)).skips =
        (entries.filter (! ·.fits dataset.header.length)).map
          (·.skip dataset.header.length) ∧
      dataset.rows.length + (read (.ofBytes bytes)).skips.length + 1 =
        (Source.ofBytes bytes).records.length ∧
      (entries.map (·.start.line)).Pairwise (· ≤ ·) ∧
      ∀ earlier entry later, entries = earlier ++ entry :: later →
        1 ≤ entry.start.line ∧
        ∃ before gap first rest,
          Parting bytes (fieldsOf (dataset.header :: earlier.map (·.texts)))
            (fieldsOf (entry.texts :: later.map (·.texts)))
            before gap first rest ∧
          entry.start.line ≤ 1 + (before ++ gap).count lineFeed := by
  obtain ⟨start, entries, records, _, rows, skips⟩ :=
    exists_entries_of_read reading
  have count := length_filter_fits_add dataset.header.length entries
  refine ⟨start, entries, records, rows, skips, ?_,
    pairwise_line_entries records, ?_⟩
  · rw [rows, skips, count, records, List.length_cons, List.length_map]
  · intro earlier entry later split
    exact (placed_of_records records).line_le split

/-- A table with rows and skips in turn, in fields of two lines, behind empty
lines and behind lines that end with both kinds of breaks. -/
def inTurn : List UInt8 :=
  bytesOf
    "Id,District,Datetime,Weight\n\n1,\"A\nB\",soon,5\r\nx\r\n\r\n2,C,now,6\ny,z"

/-- What is read of that table. -/
def inTurnDataset : Dataset where
  header := ["Id", "District", "Datetime", "Weight"]
  columns := ⟨1, 2⟩
  rows := [⟨2, ["1", "A\nB", "soon", "5"]⟩, ⟨5, ["2", "C", "now", "6"]⟩]

theorem partition_of_read_inTurn :
    (read (.ofBytes inTurn)).result = .ok inTurnDataset ∧
      ∃ (start : Position) (entries : List Entry),
        (Source.ofBytes inTurn).records =
          (Entry.mk start inTurnDataset.header).record ::
            entries.map (·.record) ∧
        inTurnDataset.rows = (entries.filter (·.fits 4)).map (·.row) ∧
        [⟨4, 4, 1⟩, ⟨8, 4, 2⟩] =
          (entries.filter (! ·.fits 4)).map (·.skip 4) ∧
        2 + 2 + 1 = (Source.ofBytes inTurn).records.length ∧
        (entries.map (·.start.line)).Pairwise (· ≤ ·) := by
  have reading : (read (.ofBytes inTurn)).result = .ok inTurnDataset := by
    decide +kernel
  have skips : (read (.ofBytes inTurn)).skips = [⟨4, 4, 1⟩, ⟨8, 4, 2⟩] := by
    decide +kernel
  obtain ⟨start, entries, records, rows, skipped, count, ordered, _⟩ :=
    partition_of_read inTurn inTurnDataset reading
  rw [skips] at skipped count
  exact ⟨reading, start, entries, records, rows, skipped, count, ordered⟩

end Dataset
end Deliveries
