import Deliveries.Proofs.Csv.Text

/-!
# Reading tables of texts

When every field of a table is text, reading cannot fail after the header: each
later record becomes a row or a skip by its number of fields alone, in order.
-/

namespace Deliveries

open Text

theorem Reading.result_map_eq_ok_iff
    {α β : Type} {change : α -> β} {reading : Reading α} {changed : β} :
    (reading.map change).result = .ok changed ↔
      ∃ value, reading.result = .ok value ∧ change value = changed := by
  unfold map
  cases reading.result with
  | error fault => simp [Except.map]
  | ok value => simp [Except.map]

theorem Reading.result_map_eq_error_iff
    {α β : Type} {change : α -> β} {reading : Reading α} {fault : Fault} :
    (reading.map change).result = .error fault ↔
      reading.result = .error fault := by
  unfold map
  cases reading.result with
  | error other => simp [Except.map]
  | ok value => simp [Except.map]

/-- A reading is its skips and its result. -/
theorem Reading.eq_mk
    {α : Type} {reading : Reading α} {skips : List Skip}
    {result : Except Fault α}
    (sameSkips : reading.skips = skips) (sameResult : reading.result = result) :
    reading = ⟨skips, result⟩ := by
  subst sameSkips sameResult
  rfl

/-! ## Records of texts -/

namespace Csv

theorem Record.textsFrom_eq_ok_iff
    {start : Position} {field : Nat} {fields : List Field}
    {texts : List String} :
    textsFrom start field fields = .ok texts ↔
      fields = texts.map bytesOf := by
  induction fields generalizing field texts with
  | nil =>
    cases texts with
    | nil => simp [textsFrom]
    | cons text rest => simp [textsFrom]
  | cons bytes rest ih =>
    unfold textsFrom
    constructor
    · intro read
      cases text : ofBytes bytes with
      | error length =>
        rw [text] at read
        cases read
      | ok first =>
        rw [text] at read
        cases later : textsFrom start (field + 1) rest with
        | error cause =>
          rw [later] at read
          cases read
        | ok others =>
          rw [later] at read
          cases read
          rw [List.map_cons, ← ofBytes_eq_ok_iff.mp text, ← ih.mp later]
    · intro equal
      cases texts with
      | nil => cases equal
      | cons text others =>
        obtain ⟨rfl, equalRest⟩ := List.cons.inj equal
        have later : textsFrom start (field + 1) rest = .ok others :=
          ih.mpr equalRest
        rw [ofBytes_bytesOf, later]
        rfl

/-- The texts of a record are those that its fields are the bytes of. -/
theorem Record.texts_eq_ok_iff {record : Record} {texts : List String} :
    record.texts = .ok texts ↔ record.fields = texts.map bytesOf :=
  textsFrom_eq_ok_iff

/-- A record whose fields are texts. -/
structure Entry where
  start : Position
  texts : List String

namespace Entry

/-- The record with the bytes of the texts. -/
def record (entry : Entry) : Record :=
  ⟨entry.start, entry.texts.map bytesOf⟩

/-- The row that a fitting entry becomes. -/
def row (entry : Entry) : Row := ⟨entry.start.line, entry.texts⟩

/-- What is told of an entry that does not fit. -/
def skip (width : Nat) (entry : Entry) : Skip :=
  ⟨entry.start.line, width, entry.texts.length⟩

/-- Whether an entry has so many texts. -/
def fits (width : Nat) (entry : Entry) : Bool :=
  entry.texts.length == width

@[simp] theorem texts_record (entry : Entry) :
    entry.record.texts = .ok entry.texts :=
  Record.texts_eq_ok_iff.mpr rfl

/-- A record whose texts are read is an entry. -/
theorem eq_record
    {record : Record} {texts : List String}
    (text : record.texts = .ok texts) :
    record = (Entry.mk record.start texts).record := by
  rw [Entry.record, ← Record.texts_eq_ok_iff.mp text]

/-- The fields of the rows are the records of the right length. -/
theorem fields_of_fitting (width : Nat) (entries : List Entry) :
    ((entries.filter (·.fits width)).map (·.row)).map (·.fields) =
      (entries.map (·.texts)).filter (·.length == width) := by
  rw [List.map_map, List.filter_map]
  rfl

/-- The skips tell of the records of another length. -/
theorem counts_of_unfitting (width : Nat) (entries : List Entry) :
    ((entries.filter (! ·.fits width)).map (·.skip width)).map
        (fun skip => (skip.expected, skip.found)) =
      ((entries.map (·.texts)).filter (·.length != width)).map
        fun texts => (width, texts.length) := by
  rw [List.map_map, List.filter_map, List.map_map]
  rfl

end Entry

/-- Records with the fields of a table of texts are entries. -/
theorem exists_entries
    {records : List Record} {table : List (List String)}
    (fields : records.map (·.fields) = fieldsOf table) :
    ∃ entries : List Entry,
      entries.map (·.record) = records ∧ entries.map (·.texts) = table := by
  induction records generalizing table with
  | nil =>
    cases table with
    | nil => exact ⟨[], rfl, rfl⟩
    | cons texts rest => cases fields
  | cons record rest ih =>
    cases table with
    | nil => cases fields
    | cons texts others =>
      obtain ⟨first, later⟩ := List.cons.inj fields
      obtain ⟨entries, rfl, rfl⟩ := ih later
      have same := Entry.eq_record (Record.texts_eq_ok_iff.mpr first)
      exact ⟨⟨record.start, texts⟩ :: entries, by rw [List.map_cons, ← same],
        rfl⟩

end Csv

/-! ## Rows and skips -/

namespace Dataset

open Csv

/-- Entries that fit become rows, and the others become skips, before what is
read of the records behind them. -/
theorem readRows_entries_append
    (width : Nat) (reason? : Option String) (entries : List Entry)
    (later : List Record) :
    readRows width reason? (entries.map (·.record) ++ later) =
      ⟨(entries.filter (! ·.fits width)).map (·.skip width) ++
          (readRows width reason? later).skips,
        (readRows width reason? later).result.map
          ((entries.filter (·.fits width)).map (·.row) ++ ·)⟩ := by
  induction entries with
  | nil =>
    have same : ∀ result : Except Fault (List Row),
        result.map (([] : List Row) ++ ·) = result := by
      intro result
      cases result <;> rfl
    exact Reading.eq_mk rfl (same _).symm
  | cons entry rest ih =>
    rw [List.map_cons, List.cons_append, readRows, Entry.texts_record]
    by_cases fitting : entry.texts.length = width
    · have fits : entry.fits width = true := by simp [Entry.fits, fitting]
      simp only [if_pos fitting, ih, Reading.map, fits,
        List.filter_cons_of_pos, Bool.not_true, Bool.false_eq_true,
        not_false_eq_true, List.filter_cons_of_neg, List.map_cons]
      cases (readRows width reason? later).result <;> rfl
    · have unfit : entry.fits width = false := by
        simp [Entry.fits, fitting]
      simp only [if_neg fitting, ih, Reading.skipping, unfit, Bool.not_false,
        List.filter_cons_of_pos, Bool.false_eq_true, not_false_eq_true,
        List.filter_cons_of_neg, List.map_cons]
      rfl

/-- Entries alone are rows and skips. -/
theorem readRows_entries (width : Nat) (entries : List Entry) :
    readRows width none (entries.map (·.record)) =
      ⟨(entries.filter (! ·.fits width)).map (·.skip width),
        .ok ((entries.filter (·.fits width)).map (·.row))⟩ := by
  have alone := readRows_entries_append width none entries []
  simpa [readRows, Except.map] using alone

/-- Only entries are read as rows, and only from a source that does not
break. -/
theorem exists_entries_of_readRows
    {width : Nat} {reason? : Option String} {records : List Record}
    {rows : List Row}
    (read : (readRows width reason? records).result = .ok rows) :
    reason? = none ∧ ∃ entries : List Entry,
      records = entries.map (·.record) := by
  induction records generalizing rows with
  | nil =>
    cases reason? with
    | some reason => cases read
    | none => exact ⟨rfl, [], rfl⟩
  | cons record rest ih =>
    unfold readRows at read
    split at read
    · cases read
    · next texts text =>
      have first := Entry.eq_record text
      have later : ∃ others, (readRows width reason? rest).result =
          .ok others := by
        split at read
        · obtain ⟨others, readRest, _⟩ := Reading.result_map_eq_ok_iff.mp read
          exact ⟨others, readRest⟩
        · exact ⟨rows, read⟩
      obtain ⟨others, readRest⟩ := later
      obtain ⟨unbroken, entries, rfl⟩ := ih readRest
      exact ⟨unbroken, ⟨record.start, texts⟩ :: entries, by
        rw [List.map_cons, ← first]⟩

/-- A header with all required names has its columns located. -/
theorem locate_of_complete
    {header : List String} (complete : ∀ name ∈ Columns.required, name ∈ header) :
    ∃ columns, Columns.locate header = .ok columns :=
  ⟨_, (Columns.locate_eq_ok_iff header _).mpr ⟨complete, rfl⟩⟩

/-- Entries are read under the first of them, if it is a complete header. -/
theorem readRecords_entries
    {first : Entry} {columns : Columns}
    (located : Columns.locate first.texts = .ok columns)
    (entries : List Entry) :
    readRecords none (first.record :: entries.map (·.record)) =
      ⟨(entries.filter (! ·.fits first.texts.length)).map
          (·.skip first.texts.length),
        .ok ⟨first.texts, columns,
          (entries.filter (·.fits first.texts.length)).map (·.row)⟩⟩ := by
  rw [readRecords, Entry.texts_record]
  simp only [located, readRows_entries, Reading.map, Except.map]

/-- Only entries under a complete header are read as a dataset. -/
theorem exists_entries_of_readRecords
    {reason? : Option String} {records : List Record} {dataset : Dataset}
    (read : (readRecords reason? records).result = .ok dataset) :
    reason? = none ∧ ∃ (start : Position) (entries : List Entry),
      records = (Entry.mk start dataset.header).record ::
        entries.map (·.record) ∧
      Columns.locate dataset.header = .ok dataset.columns := by
  cases records with
  | nil =>
    cases reason? with
    | none => cases read
    | some reason => cases read
  | cons record rest =>
    rw [readRecords] at read
    split at read
    · cases read
    · next header text =>
      split at read
      · cases read
      · next columns located =>
        obtain ⟨rows, readRest, rfl⟩ := Reading.result_map_eq_ok_iff.mp read
        obtain ⟨unbroken, entries, rfl⟩ := exists_entries_of_readRows readRest
        have first := Entry.eq_record text
        exact ⟨unbroken, record.start, entries, by rw [← first], located⟩

/-- What is read are entries, under the first of them: those of its length are
the rows, and the others are skipped. -/
theorem exists_entries_of_read
    {source : Source} {dataset : Dataset}
    (read : (Dataset.read source).result = .ok dataset) :
    ∃ (start : Position) (entries : List Entry),
      source.records = (Entry.mk start dataset.header).record ::
        entries.map (·.record) ∧
      Columns.locate dataset.header = .ok dataset.columns ∧
      dataset.rows =
        (entries.filter (·.fits dataset.header.length)).map (·.row) ∧
      (Dataset.read source).skips =
        (entries.filter (! ·.fits dataset.header.length)).map
          (·.skip dataset.header.length) := by
  unfold Dataset.read at *
  obtain ⟨unbroken, start, entries, records, located⟩ :=
    exists_entries_of_readRecords read
  have headed :
      Columns.locate (Entry.mk start dataset.header).texts =
        .ok dataset.columns := located
  have entire := readRecords_entries headed entries
  rw [records, unbroken, entire] at read
  rw [records, unbroken, entire]
  exact ⟨start, entries, rfl, located,
    (congrArg Dataset.rows (Except.ok.inj read)).symm, rfl⟩

/-- The rows fail to be read only for the input. -/
theorem exists_cause_of_readRows
    {width : Nat} {reason? : Option String} {records : List Record}
    {fault : Fault}
    (failed : (readRows width reason? records).result = .error fault) :
    ∃ cause, fault = .input cause := by
  induction records with
  | nil =>
    cases reason? with
    | some reason =>
      cases failed
      exact ⟨.broken reason, rfl⟩
    | none => cases failed
  | cons record rest ih =>
    unfold readRows at failed
    split at failed
    · next cause _ =>
      cases failed
      exact ⟨cause, rfl⟩
    · split at failed
      · exact ih (Reading.result_map_eq_error_iff.mp failed)
      · exact ih failed

/-- A dataset fails to be read only for its columns or the input. -/
theorem missingColumns_or_input_of_read
    {source : Source} {fault : Fault}
    (failed : (read source).result = .error fault) :
    fault = .missingColumns ∨ ∃ cause, fault = .input cause := by
  unfold read at failed
  cases records : source.records with
  | nil =>
    rw [records] at failed
    cases breaks : source.breakReason? with
    | none =>
      rw [breaks] at failed
      cases failed
      exact .inl rfl
    | some reason =>
      rw [breaks] at failed
      cases failed
      exact .inr ⟨.broken reason, rfl⟩
  | cons record rest =>
    rw [records, readRecords] at failed
    split at failed
    · next cause _ =>
      cases failed
      exact .inr ⟨cause, rfl⟩
    · next header _ =>
      split at failed
      · next other located =>
        cases failed
        exact .inl ((Columns.locate_eq_error_iff header fault).mp located).2
      · exact .inr (exists_cause_of_readRows
          (Reading.result_map_eq_error_iff.mp failed))

/-- What is read depends on the positions of the records only in the lines. -/
theorem read_of_fields
    {header : List String} {columns : Columns}
    (located : Columns.locate header = .ok columns)
    {records : List (List String)} {bytes : List UInt8}
    (fields : (Source.ofBytes bytes).records.map (·.fields) =
      fieldsOf (header :: records)) :
    ∃ entries : List Entry, entries.map (·.texts) = records ∧
      read (.ofBytes bytes) =
        ⟨(entries.filter (! ·.fits header.length)).map
            (·.skip header.length),
          .ok ⟨header, columns,
            (entries.filter (·.fits header.length)).map (·.row)⟩⟩ := by
  obtain ⟨entries, records_eq, table⟩ := exists_entries fields
  cases entries with
  | nil => cases table
  | cons first rest =>
    obtain ⟨rfl, rfl⟩ := List.cons.inj table
    refine ⟨rest, rfl, ?_⟩
    rw [read, ← records_eq]
    exact readRecords_entries located rest

/-- Every layout of a table of texts with a complete header is read, and what
is read depends on the layout only in the lines. -/
theorem read_of_layout
    {header : List String} {columns : Columns}
    (located : Columns.locate header = .ok columns)
    {records : List (List String)} {bytes : List UInt8}
    (layout : Layout (fieldsOf (header :: records)) bytes) :
    ∃ entries : List Entry, entries.map (·.texts) = records ∧
      read (.ofBytes bytes) =
        ⟨(entries.filter (! ·.fits header.length)).map
            (·.skip header.length),
          .ok ⟨header, columns,
            (entries.filter (·.fits header.length)).map (·.row)⟩⟩ :=
  read_of_fields located (Source.records_of_layout layout)

/-- A table is read as its header and the records of the header's length, with
a skip for each other record. -/
theorem read_table
    {header : List String} {columns : Columns}
    (located : Columns.locate header = .ok columns)
    {records : List (List String)} {bytes : List UInt8}
    (fields : (Source.ofBytes bytes).records.map (·.fields) =
      fieldsOf (header :: records)) :
    ∃ rows : List Row,
      (read (.ofBytes bytes)).result = .ok ⟨header, columns, rows⟩ ∧
      rows.map (·.fields) = records.filter (·.length == header.length) ∧
      (read (.ofBytes bytes)).skips.map
          (fun skip => (skip.expected, skip.found)) =
        (records.filter (·.length != header.length)).map
          fun texts => (header.length, texts.length) := by
  obtain ⟨entries, rfl, reading⟩ := read_of_fields located fields
  rw [reading]
  exact ⟨_, rfl, Entry.fields_of_fitting header.length entries,
    Entry.counts_of_unfitting header.length entries⟩

/-- A table whose records all have the length of the header is read without a
skip. -/
theorem read_of_even_layout
    {header : List String} {columns : Columns}
    (located : Columns.locate header = .ok columns)
    {records : List (List String)}
    (even : ∀ texts ∈ records, texts.length = header.length)
    {bytes : List UInt8}
    (layout : Layout (fieldsOf (header :: records)) bytes) :
    ∃ rows : List Row, rows.map (·.fields) = records ∧
      read (.ofBytes bytes) = ⟨[], .ok ⟨header, columns, rows⟩⟩ := by
  obtain ⟨entries, rfl, reading⟩ := read_of_layout located layout
  have fits : ∀ entry ∈ entries, entry.fits header.length = true := by
    intro entry member
    have length := even entry.texts (List.mem_map_of_mem member)
    simp [Entry.fits, length]
  have unskipped : entries.filter (! ·.fits header.length) = [] := by
    simpa [List.filter_eq_nil_iff] using fits
  refine ⟨entries.map (·.row), ?_, ?_⟩
  · rw [List.map_map]
    rfl
  · rw [reading, List.filter_eq_self.mpr fits, unskipped, List.map_nil]

end Dataset
end Deliveries
