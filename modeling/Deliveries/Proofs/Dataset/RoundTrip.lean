import Deliveries.Dataset.Writing
import Deliveries.Proofs.Csv.Sink
import Deliveries.Proofs.Dataset.Reading

/-!
# Reading what was written

A dataset with a complete header and rows of the header's length can always be
written, and what was written is read back with the datetimes in canonical text.
The one thing that may get lost is a byte order mark at the start of the header.
-/

namespace Deliveries

open Text Csv

namespace Columns

theorem withoutMark_of_required
    {name : String} (member : name ∈ required) : withoutMark name = name := by
  simp only [required, List.mem_cons, List.not_mem_nil, or_false] at member
  rcases member with rfl | rfl | rfl | rfl <;> decide

/-- A complete header stays complete without a mark at its start. -/
theorem complete_modifyHead_withoutMark
    {header : List String} (complete : ∀ name ∈ required, name ∈ header) :
    ∀ name ∈ required, name ∈ header.modifyHead withoutMark := by
  intro name member
  have present := complete name member
  cases header with
  | nil => cases present
  | cons first rest =>
    rw [List.modifyHead_cons]
    rcases List.mem_cons.mp present with rfl | later
    · rw [withoutMark_of_required member]
      exact List.mem_cons_self
    · exact List.mem_cons_of_mem _ later

theorem two_le_length_of_complete
    {header : List String} (complete : ∀ name ∈ required, name ∈ header) :
    2 ≤ header.length := by
  have id := complete "Id" (by decide)
  have weight := complete "Weight" (by decide)
  cases header with
  | nil => cases id
  | cons first others =>
    cases others with
    | nil =>
      have same := (List.mem_singleton.mp id).trans
        (List.mem_singleton.mp weight).symm
      exact absurd same (by decide)
    | cons next rest => simp

end Columns

namespace Dataset

/-- The header has the required names, and every row has its length. -/
structure Rectangular (dataset : Dataset) : Prop where
  complete : ∀ name ∈ Columns.required, name ∈ dataset.header
  even : ∀ row ∈ dataset.rows, row.fields.length = dataset.header.length

/-- The bytes that a dataset is written in. -/
def rendering (dataset : Dataset) : List UInt8 :=
  render (fieldsOf (dataset.header :: dataset.writtenRows))

/-- The records of rows with the header's length have it too. -/
theorem length_of_mem_writtenRows
    {dataset : Dataset}
    (even : ∀ row ∈ dataset.rows, row.fields.length = dataset.header.length)
    {texts : List String} (member : texts ∈ dataset.writtenRows) :
    texts.length = dataset.header.length := by
  obtain ⟨row, present, rfl⟩ := List.mem_map.mp member
  rw [Row.length_normalized, even row present]

/-- A dataset with rows of one length is written exactly when there is room for
all of it. -/
theorem write_of_even
    {dataset : Dataset}
    (even : ∀ row ∈ dataset.rows, row.fields.length = dataset.header.length)
    (room : Option Nat) :
    dataset.write room =
      if (Sink.ofRoom room).admits dataset.rendering.length then
        .ok dataset.rendering
      else
        .error (.output (.writing .noRoom)) := by
  have fitting : ∀ fields ∈ dataset.writtenRows.map (·.map bytesOf),
      fields.length = (dataset.header.map bytesOf).length := by
    intro fields member
    obtain ⟨texts, present, rfl⟩ := List.mem_map.mp member
    rw [List.length_map, List.length_map]
    exact length_of_mem_writtenRows even present
  have rendered : render (dataset.header.map bytesOf ::
      dataset.writtenRows.map (·.map bytesOf)) = dataset.rendering := rfl
  rw [write, write_of_fitting fitting, rendered]
  split
  · rfl
  · rfl

theorem write_unlimited
    {dataset : Dataset} (rectangular : dataset.Rectangular) :
    dataset.write none = .ok dataset.rendering := by
  rw [write_of_even rectangular.even]
  exact if_pos rfl

theorem ne_nil_of_mem_writtenRows
    {dataset : Dataset} (rectangular : dataset.Rectangular)
    {texts : List String} (member : texts ∈ dataset.writtenRows) :
    texts ≠ [] := by
  have wide := Columns.two_le_length_of_complete rectangular.complete
  have length := length_of_mem_writtenRows rectangular.even member
  rintro rfl
  rw [List.length_nil] at length
  omega

theorem layout_rendering
    {dataset : Dataset} (rectangular : dataset.Rectangular) :
    Layout (fieldsOf
        (dataset.header.modifyHead withoutMark :: dataset.writtenRows))
      dataset.rendering :=
  layout_render_fieldsOf
    (Columns.two_le_length_of_complete rectangular.complete)
    fun _ member => ne_nil_of_mem_writtenRows rectangular member

/-- The rendering of a dataset is read as the rows that were written, without
a skip, under the header without a mark at its start. -/
theorem read_rendering
    {dataset : Dataset} (rectangular : dataset.Rectangular)
    {columns : Columns}
    (located : Columns.locate (dataset.header.modifyHead withoutMark) =
      .ok columns) :
    ∃ rows : List Row, rows.map (·.fields) = dataset.writtenRows ∧
      read (.ofBytes dataset.rendering) =
        ⟨[], .ok ⟨dataset.header.modifyHead withoutMark, columns, rows⟩⟩ := by
  have even : ∀ texts ∈ dataset.writtenRows,
      texts.length = (dataset.header.modifyHead withoutMark).length := by
    intro texts member
    rw [List.length_modifyHead,
      length_of_mem_writtenRows rectangular.even member]
  exact read_of_even_layout located even (layout_rendering rectangular)

/-- A rendering that does not look as if it began with a mark is read under the
whole header. -/
theorem read_rendering_of_unmarked
    {dataset : Dataset} (rectangular : dataset.Rectangular)
    {columns : Columns}
    (located : Columns.locate dataset.header = .ok columns)
    (unmarked : ¬ mark <+: dataset.rendering) :
    ∃ rows : List Row, rows.map (·.fields) = dataset.writtenRows ∧
      read (.ofBytes dataset.rendering) =
        ⟨[], .ok ⟨dataset.header, columns, rows⟩⟩ := by
  have wide := Columns.two_le_length_of_complete rectangular.complete
  have nonempty : ∀ fields ∈ fieldsOf (dataset.header :: dataset.writtenRows),
      fields ≠ [] := by
    intro fields member
    obtain ⟨texts, present, rfl⟩ := List.mem_map.mp member
    rw [Ne, List.map_eq_nil_iff]
    rcases List.mem_cons.mp present with rfl | written
    · rintro empty
      rw [empty, List.length_nil] at wide
      omega
    · exact ne_nil_of_mem_writtenRows rectangular written
  have even : ∀ texts ∈ dataset.writtenRows,
      texts.length = dataset.header.length := by
    intro texts member
    exact length_of_mem_writtenRows rectangular.even member
  exact read_of_even_layout located even (layout_render nonempty unmarked)

/-- Writing and reading back gives the same rows in the same order, with each
datetime in its canonical text, and no skip.  The header is the same but for a
mark at its start, which is lost outside quotes. -/
theorem read_write
    (dataset : Dataset)
    (complete : ∀ name ∈ Columns.required, name ∈ dataset.header)
    (even : ∀ row ∈ dataset.rows,
      row.fields.length = dataset.header.length) :
    ∃ bytes columns rows,
      dataset.write none = .ok bytes ∧
      read (.ofBytes bytes) =
        ⟨[], .ok ⟨dataset.header.modifyHead withoutMark, columns, rows⟩⟩ ∧
      rows.map (·.fields) = dataset.rows.map fun row =>
        row.fields.modify dataset.columns.datetime fun text =>
          match Datetime.parse? text with
          | some datetime => datetime.text
          | none => text := by
  have rectangular : dataset.Rectangular := ⟨complete, even⟩
  obtain ⟨columns, located⟩ := locate_of_complete
    (Columns.complete_modifyHead_withoutMark complete)
  obtain ⟨rows, fields, reading⟩ := read_rendering rectangular located
  exact ⟨dataset.rendering, columns, rows, write_unlimited rectangular,
    reading, fields⟩

/-- A dataset with a mark before its header and with fields that need
quotes. -/
def annotated : Dataset where
  header := ["\uFEFFNote", "Id", "District", "Datetime", "Weight"]
  columns := ⟨2, 3⟩
  rows :=
    [⟨2, ["a,b", "1\"", "", "2024-1-2 3:04", "\r\n"]⟩,
      ⟨3, ["é", "\"\"", "x", "soon", " "]⟩]

theorem read_write_annotated :
    (∀ name ∈ Columns.required, name ∈ annotated.header) ∧
      (∀ row ∈ annotated.rows,
        row.fields.length = annotated.header.length) ∧
      ∃ bytes columns rows,
        annotated.write none = .ok bytes ∧
        read (.ofBytes bytes) =
          ⟨[], .ok ⟨["Note", "Id", "District", "Datetime", "Weight"],
            columns, rows⟩⟩ ∧
        rows.map (·.fields) =
          [["a,b", "1\"", "", "2024-01-02 03:04:00", "\r\n"],
            ["é", "\"\"", "x", "soon", " "]] := by
  have complete : ∀ name ∈ Columns.required, name ∈ annotated.header := by
    decide
  have even : ∀ row ∈ annotated.rows,
      row.fields.length = annotated.header.length := by decide
  obtain ⟨bytes, columns, rows, written, reading, fields⟩ :=
    read_write annotated complete even
  have header : annotated.header.modifyHead withoutMark =
      ["Note", "Id", "District", "Datetime", "Weight"] := by decide
  rw [header] at reading
  refine ⟨complete, even, bytes, columns, rows, written, reading, ?_⟩
  rw [fields]
  decide +kernel

end Dataset
end Deliveries
