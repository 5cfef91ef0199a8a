import Deliveries.Proofs.Csv.Joining
import Deliveries.Proofs.Dataset.Extract

/-!
# Appending to a table

Records that are appended at the end of a line leave those before them as they
are.  What is extracted from the whole is what is extracted from either part
under the same header, and one part that cannot be extracted from spoils the
whole.
-/

namespace Deliveries

open Text Csv

namespace Dataset

/-! ## Datasets of tables -/

/-- The dataset of a table: its records of the header's length, on unknown
lines. -/
def ofTable (header : List String) (columns : Columns)
    (table : List (List String)) : Dataset where
  header := header
  columns := columns
  rows := (table.filter (·.length == header.length)).map fun texts => ⟨0, texts⟩

theorem fields_rows_ofTable
    (header : List String) (columns : Columns) (table : List (List String)) :
    (ofTable header columns table).rows.map (·.fields) =
      table.filter (·.length == header.length) := by
  rw [ofTable, List.map_map]
  exact List.map_id _

theorem rows_ofTable_append
    (header : List String) (columns : Columns)
    (front back : List (List String)) :
    (ofTable header columns (front ++ back)).rows =
      (ofTable header columns front).rows ++
        (ofTable header columns back).rows := by
  simp [ofTable]

theorem wellFormed_ofTable
    {header : List String} {columns : Columns}
    (located : Columns.locate header = .ok columns)
    (table : List (List String)) :
    (ofTable header columns table).WellFormed := by
  refine ⟨located, ?_⟩
  intro row member
  obtain ⟨texts, kept, rfl⟩ := List.mem_map.mp member
  exact beq_iff_eq.mp (List.mem_filter.mp kept).2

/-- Extracting from bytes agrees with delivering their table. -/
theorem agree_extract_ofTable
    {header : List String} {columns : Columns}
    (located : Columns.locate header = .ok columns)
    {table : List (List String)} {bytes : List UInt8}
    (fields : (Source.ofBytes bytes).records.map (·.fields) =
      fieldsOf (header :: table))
    (criteria : Criteria) :
    Agree (extract criteria bytes)
      (deliver criteria (ofTable header columns table)) := by
  obtain ⟨entries, rfl, reading⟩ := read_of_fields located fields
  have result := congrArg Reading.result reading
  rw [extract_eq, result]
  apply agree_of_fields (wellFormed_of_read result)
    (wellFormed_ofTable located _)
  exact (Entry.fields_of_fitting header.length entries).trans
    (fields_rows_ofTable header columns _).symm

/-- What is read holds a table under its header. -/
theorem exists_table_of_read
    {header : List String} {records : List (List Field)} {bytes : List UInt8}
    (fields : (Source.ofBytes bytes).records.map (·.fields) =
      header.map bytesOf :: records)
    {dataset : Dataset}
    (reading : (read (.ofBytes bytes)).result = .ok dataset) :
    ∃ table, records = fieldsOf table := by
  obtain ⟨start, entries, records_eq, _⟩ := exists_entries_of_read reading
  rw [records_eq, List.map_cons, List.map_map] at fields
  refine ⟨entries.map (·.texts), ?_⟩
  rw [← (List.cons.inj fields).2, fieldsOf, List.map_map]
  rfl

/-- An extract is what is delivered of the table that the bytes hold. -/
theorem extract_eq_ok_iff
    {header : List String} {columns : Columns}
    (located : Columns.locate header = .ok columns)
    {records : List (List Field)} {bytes : List UInt8}
    (fields : (Source.ofBytes bytes).records.map (·.fields) =
      header.map bytesOf :: records)
    (criteria : Criteria) (output : List UInt8) :
    extract criteria bytes = .ok output ↔
      ∃ table, records = fieldsOf table ∧
        (ofTable header columns table).deliver criteria = .ok output := by
  constructor
  · intro extracted
    obtain ⟨dataset, _, reading, _⟩ := exists_of_extract extracted
    obtain ⟨table, rfl⟩ := exists_table_of_read fields reading
    have agree := agree_extract_ofTable located fields criteria
    rw [extracted] at agree
    exact ⟨table, rfl, agree.symm.eq_ok⟩
  · rintro ⟨table, rfl, delivered⟩
    have agree := agree_extract_ofTable located fields criteria
    rw [delivered] at agree
    exact agree.eq_ok

/-! ## Rows of two parts -/

/-- The bytes of the rows that a criteria admits, as they are written. -/
def admittedBytes (criteria : Criteria) (dataset : Dataset) : List UInt8 :=
  render (fieldsOf
    ((dataset.rows.filter (criteria.admits dataset.columns)).map
      (·.normalized dataset.columns)))

/-- A dataset is delivered when no row is refused, as its header and the rows
that are admitted. -/
theorem deliver_eq_ok_iff
    {dataset : Dataset} (wellFormed : dataset.WellFormed)
    (criteria : Criteria) (output : List UInt8) :
    dataset.deliver criteria = .ok output ↔
      (∀ row ∈ dataset.rows,
        criteria.refuses dataset.columns row = false) ∧
      output = renderRecord (dataset.header.map bytesOf) ++
        dataset.admittedBytes criteria := by
  have delivered (unrefused : ∀ row ∈ dataset.rows,
      criteria.refuses dataset.columns row = false) :
      dataset.deliver criteria =
        .ok (renderRecord (dataset.header.map bytesOf) ++
          dataset.admittedBytes criteria) := by
    have filtered := filter_eq_ok_iff.mpr ⟨unrefused, rfl⟩
    rw [deliver, filtered]
    exact write_unlimited (wellFormed.filter filtered).rectangular
  constructor
  · intro result
    obtain ⟨kept, filtered, _⟩ := exists_of_bind_eq_ok result
    have unrefused := (filter_eq_ok_iff.mp filtered).1
    rw [delivered unrefused] at result
    exact ⟨unrefused, (Except.ok.inj result).symm⟩
  · rintro ⟨unrefused, rfl⟩
    exact delivered unrefused

/-- Two tables under one header are delivered together when each of them is. -/
theorem deliver_ofTable_append_iff
    {header : List String} {columns : Columns}
    (located : Columns.locate header = .ok columns)
    (criteria : Criteria) (front back : List (List String))
    (output : List UInt8) :
    (ofTable header columns (front ++ back)).deliver criteria = .ok output ↔
      ∃ frontRows backRows,
        (ofTable header columns front).deliver criteria =
          .ok (renderRecord (header.map bytesOf) ++ frontRows) ∧
        (ofTable header columns back).deliver criteria =
          .ok (renderRecord (header.map bytesOf) ++ backRows) ∧
        output = renderRecord (header.map bytesOf) ++ frontRows ++
          backRows := by
  have together : (ofTable header columns (front ++ back)).admittedBytes
      criteria = (ofTable header columns front).admittedBytes criteria ++
        (ofTable header columns back).admittedBytes criteria := by
    rw [admittedBytes, rows_ofTable_append, List.filter_append,
      List.map_append, fieldsOf, List.map_append, render_append]
    rfl
  have refused : (∀ row ∈ (ofTable header columns (front ++ back)).rows,
        criteria.refuses columns row = false) ↔
      (∀ row ∈ (ofTable header columns front).rows,
        criteria.refuses columns row = false) ∧
      ∀ row ∈ (ofTable header columns back).rows,
        criteria.refuses columns row = false := by
    rw [rows_ofTable_append]
    exact List.forall_mem_append
  simp only [deliver_eq_ok_iff (wellFormed_ofTable located _)]
  constructor
  · rintro ⟨unrefused, rfl⟩
    obtain ⟨unrefusedFront, unrefusedBack⟩ := refused.mp unrefused
    refine ⟨_, _, ⟨unrefusedFront, rfl⟩, ⟨unrefusedBack, rfl⟩, ?_⟩
    rw [together, List.append_assoc]
    rfl
  · rintro ⟨frontRows, backRows, ⟨unrefusedFront, sameFront⟩,
      ⟨unrefusedBack, sameBack⟩, rfl⟩
    refine ⟨refused.mpr ⟨unrefusedFront, unrefusedBack⟩, ?_⟩
    rw [together, List.append_cancel_left sameFront,
      List.append_cancel_left sameBack, List.append_assoc]
    rfl

/-! ## Appending -/

/-- The bytes hold a header that is read as the dataset, and end its line. -/
structure HeaderAlone (head : List UInt8) (dataset : Dataset) : Prop where
  reading : read (.ofBytes head) = ⟨[], .ok dataset⟩
  empty : dataset.rows = []
  ends : EndsLine head

namespace HeaderAlone

variable {head : List UInt8} {dataset : Dataset}

theorem result (alone : HeaderAlone head dataset) :
    (read (.ofBytes head)).result = .ok dataset :=
  congrArg Reading.result alone.reading

theorem located (alone : HeaderAlone head dataset) :
    Columns.locate dataset.header = .ok dataset.columns :=
  (wellFormed_of_read alone.result).located

/-- The only record is the header. -/
theorem fields (alone : HeaderAlone head dataset) :
    (Source.ofBytes head).records.map (·.fields) =
      [dataset.header.map bytesOf] := by
  obtain ⟨start, entries, records, _, rows, skips⟩ :=
    exists_entries_of_read alone.result
  rw [alone.reading] at skips
  rw [alone.empty] at rows
  have unfitting := List.filter_eq_nil_iff.mp
    (List.map_eq_nil_iff.mp rows.symm)
  have fitting := List.filter_eq_nil_iff.mp
    (List.map_eq_nil_iff.mp skips.symm)
  have none : entries = [] := by
    apply List.eq_nil_iff_forall_not_mem.mpr
    intro entry member
    have unfit := unfitting entry member
    have fit := fitting entry member
    rw [Bool.not_eq_true] at unfit
    rw [unfit] at fit
    exact fit rfl
  rw [records, none]
  rfl

theorem fields_append
    (alone : HeaderAlone head dataset) (back : List UInt8) :
    (Source.ofBytes (head ++ back)).records.map (·.fields) =
      dataset.header.map bytesOf :: fieldsAfterBreak back := by
  rw [alone.ends.fields_records_append, alone.fields, List.singleton_append]

theorem fields_append_append
    (alone : HeaderAlone head dataset)
    {front : List UInt8} (ends : EndsLine (head ++ front))
    (back : List UInt8) :
    (Source.ofBytes (head ++ front ++ back)).records.map (·.fields) =
      dataset.header.map bytesOf ::
        (fieldsAfterBreak front ++ fieldsAfterBreak back) := by
  rw [ends.fields_records_append, alone.fields_append, List.cons_append]

/-- The header alone is extracted as itself. -/
theorem extract_eq
    (alone : HeaderAlone head dataset) (criteria : Criteria) :
    extract criteria head =
      .ok (renderRecord (dataset.header.map bytesOf)) := by
  rw [Dataset.extract_eq, alone.result]
  refine (deliver_eq_ok_iff (wellFormed_of_read alone.result) criteria
    _).mpr ⟨?_, ?_⟩
  · rw [alone.empty]
    exact fun row member => absurd member List.not_mem_nil
  · rw [admittedBytes, alone.empty]
    exact (List.append_nil _).symm

/-- Every extract from what follows the header begins with the header. -/
theorem exists_rows_of_extract
    (alone : HeaderAlone head dataset)
    {back output : List UInt8} {criteria : Criteria}
    (extracted : extract criteria (head ++ back) = .ok output) :
    ∃ rows, output = renderRecord (dataset.header.map bytesOf) ++ rows := by
  obtain ⟨table, _, delivered⟩ := (extract_eq_ok_iff alone.located
    (alone.fields_append back) criteria output).mp extracted
  exact ⟨_, ((deliver_eq_ok_iff (wellFormed_ofTable alone.located table)
    criteria output).mp delivered).2⟩

/-- An extract from two parts is made of the extracts from each of them. -/
theorem extract_append_eq_ok_iff
    (alone : HeaderAlone head dataset)
    {front : List UInt8} (ends : EndsLine (head ++ front))
    (back : List UInt8) (criteria : Criteria) (output : List UInt8) :
    extract criteria (head ++ front ++ back) = .ok output ↔
      ∃ frontRows backRows,
        extract criteria (head ++ front) =
          .ok (renderRecord (dataset.header.map bytesOf) ++ frontRows) ∧
        extract criteria (head ++ back) =
          .ok (renderRecord (dataset.header.map bytesOf) ++ backRows) ∧
        output = renderRecord (dataset.header.map bytesOf) ++ frontRows ++
          backRows := by
  have located := alone.located
  simp only [extract_eq_ok_iff located (alone.fields_append front),
    extract_eq_ok_iff located (alone.fields_append back),
    extract_eq_ok_iff located (alone.fields_append_append ends back)]
  constructor
  · rintro ⟨table, same, delivered⟩
    obtain ⟨frontTable, backTable, rfl, sameFront, sameBack⟩ :=
      List.map_eq_append_iff.mp same.symm
    obtain ⟨frontRows, backRows, deliveredFront, deliveredBack, rfl⟩ :=
      (deliver_ofTable_append_iff located criteria _ _ _).mp delivered
    exact ⟨frontRows, backRows, ⟨frontTable, sameFront.symm, deliveredFront⟩,
      ⟨backTable, sameBack.symm, deliveredBack⟩, rfl⟩
  · rintro ⟨frontRows, backRows, ⟨frontTable, sameFront, deliveredFront⟩,
      ⟨backTable, sameBack, deliveredBack⟩, rfl⟩
    refine ⟨frontTable ++ backTable, ?_, ?_⟩
    · rw [sameFront, sameBack, fieldsOf, fieldsOf, fieldsOf, List.map_append]
    · exact (deliver_ofTable_append_iff located criteria _ _ _).mpr
        ⟨frontRows, backRows, deliveredFront, deliveredBack, rfl⟩

/-- Extracts from both parts make an extract from the whole. -/
theorem extract_append_of_extracts
    (alone : HeaderAlone head dataset)
    {front : List UInt8} (ends : EndsLine (head ++ front))
    {back frontOutput backOutput : List UInt8} {criteria : Criteria}
    (fromFront : extract criteria (head ++ front) = .ok frontOutput)
    (fromBack : extract criteria (head ++ back) = .ok backOutput) :
    ∃ frontRows backRows,
      frontOutput =
        renderRecord (dataset.header.map bytesOf) ++ frontRows ∧
      backOutput = renderRecord (dataset.header.map bytesOf) ++ backRows ∧
      extract criteria (head ++ front ++ back) =
        .ok (renderRecord (dataset.header.map bytesOf) ++ frontRows ++
          backRows) := by
  obtain ⟨frontRows, rfl⟩ := alone.exists_rows_of_extract fromFront
  obtain ⟨backRows, rfl⟩ := alone.exists_rows_of_extract fromBack
  exact ⟨frontRows, backRows, rfl, rfl,
    (alone.extract_append_eq_ok_iff ends back criteria _).mpr
      ⟨frontRows, backRows, fromFront, fromBack, rfl⟩⟩

/-- What is read of two parts are the rows and skips of each of them. -/
theorem read_append
    (alone : HeaderAlone head dataset)
    {front : List UInt8} (ends : EndsLine (head ++ front))
    {back : List UInt8} {frontDataset backDataset : Dataset}
    (frontRead : (read (.ofBytes (head ++ front))).result = .ok frontDataset)
    (backRead : (read (.ofBytes (head ++ back))).result = .ok backDataset) :
    ∃ rows : List Row,
      (read (.ofBytes (head ++ front ++ back))).result =
        .ok ⟨dataset.header, dataset.columns, rows⟩ ∧
      rows.map (·.fields) = frontDataset.rows.map (·.fields) ++
        backDataset.rows.map (·.fields) ∧
      (read (.ofBytes (head ++ front ++ back))).skips.map
          (fun skip => (skip.expected, skip.found)) =
        (read (.ofBytes (head ++ front))).skips.map
            (fun skip => (skip.expected, skip.found)) ++
          (read (.ofBytes (head ++ back))).skips.map
            fun skip => (skip.expected, skip.found) := by
  have frontFields := alone.fields_append front
  have backFields := alone.fields_append back
  have allFields := alone.fields_append_append ends back
  obtain ⟨frontTable, sameFront⟩ := exists_table_of_read frontFields frontRead
  obtain ⟨backTable, sameBack⟩ := exists_table_of_read backFields backRead
  rw [sameFront, sameBack, fieldsOf, fieldsOf, ← List.map_append] at allFields
  rw [sameFront] at frontFields
  rw [sameBack] at backFields
  obtain ⟨frontRows, frontResult, frontTexts, frontSkips⟩ :=
    read_table alone.located frontFields
  obtain ⟨backRows, backResult, backTexts, backSkips⟩ :=
    read_table alone.located backFields
  obtain ⟨rows, result, texts, skips⟩ := read_table alone.located allFields
  rw [frontRead] at frontResult
  rw [backRead] at backResult
  cases frontResult
  cases backResult
  refine ⟨rows, result, ?_, ?_⟩
  · rw [texts, frontTexts, backTexts, List.filter_append]
  · rw [skips, frontSkips, backSkips, List.filter_append, List.map_append]

end HeaderAlone

/-- Two parts that follow a header, each from the end of a line on, can be
extracted from together exactly when each can be alone, and then the rows of
both extracts stand behind the header one after the other.  The header alone is
extracted as itself, and what is read are the rows and skips of both parts. -/
theorem extract_append
    (head front back : List UInt8) (dataset : Dataset)
    (reading : read (.ofBytes head) = ⟨[], .ok dataset⟩)
    (empty : dataset.rows = [])
    (headEnds : EndsLine head) (frontEnds : EndsLine (head ++ front))
    (criteria : Criteria) :
    extract criteria head =
      .ok (renderRecord (dataset.header.map bytesOf)) ∧
    ((∃ output, extract criteria (head ++ front ++ back) = .ok output) ↔
      (∃ output, extract criteria (head ++ front) = .ok output) ∧
      ∃ output, extract criteria (head ++ back) = .ok output) ∧
    (∀ frontOutput backOutput,
      extract criteria (head ++ front) = .ok frontOutput →
      extract criteria (head ++ back) = .ok backOutput →
      ∃ frontRows backRows,
        frontOutput =
          renderRecord (dataset.header.map bytesOf) ++ frontRows ∧
        backOutput =
          renderRecord (dataset.header.map bytesOf) ++ backRows ∧
        extract criteria (head ++ front ++ back) =
          .ok (renderRecord (dataset.header.map bytesOf) ++ frontRows ++
            backRows)) ∧
    ∀ frontDataset backDataset,
      (read (.ofBytes (head ++ front))).result = .ok frontDataset →
      (read (.ofBytes (head ++ back))).result = .ok backDataset →
      ∃ rows : List Row,
        (read (.ofBytes (head ++ front ++ back))).result =
          .ok ⟨dataset.header, dataset.columns, rows⟩ ∧
        rows.map (·.fields) = frontDataset.rows.map (·.fields) ++
          backDataset.rows.map (·.fields) ∧
        (read (.ofBytes (head ++ front ++ back))).skips.map
            (fun skip => (skip.expected, skip.found)) =
          (read (.ofBytes (head ++ front))).skips.map
              (fun skip => (skip.expected, skip.found)) ++
            (read (.ofBytes (head ++ back))).skips.map
              fun skip => (skip.expected, skip.found) := by
  have alone : HeaderAlone head dataset := ⟨reading, empty, headEnds⟩
  refine ⟨alone.extract_eq criteria, ⟨?_, ?_⟩, ?_, ?_⟩
  · rintro ⟨output, extracted⟩
    obtain ⟨frontRows, backRows, fromFront, fromBack, _⟩ :=
      (alone.extract_append_eq_ok_iff frontEnds back criteria output).mp
        extracted
    exact ⟨⟨_, fromFront⟩, ⟨_, fromBack⟩⟩
  · rintro ⟨⟨frontOutput, fromFront⟩, ⟨backOutput, fromBack⟩⟩
    obtain ⟨_, _, _, _, extracted⟩ :=
      alone.extract_append_of_extracts frontEnds fromFront fromBack
    exact ⟨_, extracted⟩
  · intro frontOutput backOutput fromFront fromBack
    exact alone.extract_append_of_extracts frontEnds fromFront fromBack
  · intro frontDataset backDataset frontRead backRead
    exact alone.read_append frontEnds frontRead backRead

/-- A header whose line ends with a carriage return. -/
def headerLine : List UInt8 :=
  bytesOf "Id,District,Datetime,Weight\r"

/-- What is read of that header. -/
def headerDataset : Dataset where
  header := ["Id", "District", "Datetime", "Weight"]
  columns := ⟨1, 2⟩
  rows := []

/-- A row with a line break between quotes, cut inside its line end. -/
def brokenRow : List UInt8 :=
  bytesOf "\n1,\"A\r\nB\",2024-1-2 3:04,5\r"

/-- The rest of that line end, an empty line, a short record and a row that
begins with a mark. -/
def markedRow : List UInt8 :=
  bytesOf "\n\nx\n\uFEFF2,\"A\r\nB\",2024-1-3 5:06:07,8"

theorem extract_append_brokenRow_markedRow :
    read (.ofBytes headerLine) = ⟨[], .ok headerDataset⟩ ∧
      headerDataset.rows = [] ∧
      EndsLine headerLine ∧ EndsLine (headerLine ++ brokenRow) ∧
      ∃ frontRows backRows,
        bytesOf ("Id,District,Datetime,Weight\n" ++
            "1,\"A\r\nB\",2024-01-02 03:04:00,5\n") =
          renderRecord (headerDataset.header.map bytesOf) ++ frontRows ∧
        bytesOf ("Id,District,Datetime,Weight\n" ++
            "\uFEFF2,\"A\r\nB\",2024-01-03 05:06:07,8\n") =
          renderRecord (headerDataset.header.map bytesOf) ++ backRows ∧
        extract ⟨some "A\r\nB", Datetime.parse? "2024-01-02 00:00", none⟩
            (headerLine ++ brokenRow ++ markedRow) =
          .ok (renderRecord (headerDataset.header.map bytesOf) ++
            frontRows ++ backRows) := by
  have skips : (read (.ofBytes headerLine)).skips = [] := by decide +kernel
  have result : (read (.ofBytes headerLine)).result = .ok headerDataset := by
    decide +kernel
  have reading : read (.ofBytes headerLine) = ⟨[], .ok headerDataset⟩ :=
    Reading.eq_mk skips result
  have headEnds : EndsLine headerLine := by decide +kernel
  have frontEnds : EndsLine (headerLine ++ brokenRow) := by decide +kernel
  have fromFront :
      extract ⟨some "A\r\nB", Datetime.parse? "2024-01-02 00:00", none⟩
          (headerLine ++ brokenRow) =
        .ok (bytesOf ("Id,District,Datetime,Weight\n" ++
            "1,\"A\r\nB\",2024-01-02 03:04:00,5\n")) := by decide +kernel
  have fromBack :
      extract ⟨some "A\r\nB", Datetime.parse? "2024-01-02 00:00", none⟩
          (headerLine ++ markedRow) =
        .ok (bytesOf ("Id,District,Datetime,Weight\n" ++
            "\uFEFF2,\"A\r\nB\",2024-01-03 05:06:07,8\n")) := by decide +kernel
  obtain ⟨_, _, joined, _⟩ := extract_append headerLine brokenRow markedRow
    headerDataset reading rfl headEnds frontEnds _
  exact ⟨reading, rfl, headEnds, frontEnds,
    joined _ _ fromFront fromBack⟩

end Dataset
end Deliveries
