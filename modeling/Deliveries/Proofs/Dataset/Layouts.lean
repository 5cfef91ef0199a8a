import Deliveries.Proofs.Dataset.Agreement

/-!
# Layouts of one table

What is read depends on the table only.  Every layout gives the same header and
rows and skips the same records, so that extracts of two layouts agree.
-/

namespace Deliveries

open Text Csv

namespace Dataset

/-- Every layout of a table with a complete header is read as the header, the
records of its length and a skip for each other record, and the extracts of any
two layouts agree. -/
theorem extract_of_layout
    (header : List String) (records : List (List String))
    (complete : ∀ name ∈ Columns.required, name ∈ header)
    (bytes : List UInt8)
    (layout : Layout (fieldsOf (header :: records)) bytes) :
    (∃ columns rows,
      (read (.ofBytes bytes)).result = .ok ⟨header, columns, rows⟩ ∧
      rows.map (·.fields) = records.filter (·.length == header.length) ∧
      (read (.ofBytes bytes)).skips.map
          (fun skip => (skip.expected, skip.found)) =
        (records.filter (·.length != header.length)).map
          fun texts => (header.length, texts.length)) ∧
    ∀ other, Layout (fieldsOf (header :: records)) other → ∀ criteria,
      Agree (extract criteria bytes) (extract criteria other) := by
  obtain ⟨columns, located⟩ := locate_of_complete complete
  obtain ⟨rows, result, fields, skips⟩ := read_table located
    (Source.records_of_layout layout)
  refine ⟨⟨columns, rows, result, fields, skips⟩, ?_⟩
  intro other otherLayout criteria
  obtain ⟨otherRows, otherResult, otherFields, _⟩ :=
    read_table located (Source.records_of_layout otherLayout)
  rw [extract_eq, extract_eq, result, otherResult]
  exact agree_of_fields (wellFormed_of_read result)
    (wellFormed_of_read otherResult) (fields.trans otherFields.symm) criteria

/-- A table with one record of its header's length and one of another. -/
def uneven : List (List String) :=
  [["Id", "District", "Datetime", "Weight"], ["1", "A,B", "", "2"], ["x"]]

/-- That table with a mark, empty lines and unneeded quotes. -/
def unevenMarked : List UInt8 :=
  mark ++ bytesOf
    "\r\nId,\"District\",Datetime,Weight\r1,\"A,B\",,2\r\n\n\"x\""

theorem layout_unevenMarked : Layout (fieldsOf uneven) unevenMarked := by
  have bare : ∀ text, PlainText text →
      FieldLayout (bytesOf text) (bytesOf text) :=
    fun text plain => .bare ((plain_bytesOf_iff text).mpr plain)
  have header : FieldsLayout
      (["Id", "District", "Datetime", "Weight"].map bytesOf)
      (bytesOf "Id,\"District\",Datetime,Weight") :=
    .cons (bare "Id" (by decide)) (.cons .quoted
      (.cons (bare "Datetime" (by decide))
        (.single (bare "Weight" (by decide)))))
  have row : FieldsLayout (["1", "A,B", "", "2"].map bytesOf)
      (bytesOf "1,\"A,B\",,2") :=
    .cons (bare "1" (by decide)) (.cons .quoted
      (.cons (bare "" (by decide)) (.single (bare "2" (by decide)))))
  have other : FieldsLayout (["x"].map bytesOf) (bytesOf "\"x\"") :=
    .single .quoted
  have breaks : ∀ bytes : List UInt8, bytes.all isBreak = true →
      AllBreaks bytes := by
    intro bytes all byte member
    simpa [isBreak] using List.all_eq_true.mp all byte member
  have lead : AllBreaks (bytesOf "\r\n") := breaks _ (by decide)
  have afterHeader : AllBreaks (bytesOf "\r") := breaks _ (by decide)
  have afterRow : AllBreaks (bytesOf "\r\n\n") := breaks _ (by decide)
  have last : RecordsLayout [["x"].map bytesOf] (bytesOf "\"x\"") :=
    .cons other (by decide) (breaks [] rfl) (by decide) .nil
  have body : RecordsLayout (fieldsOf uneven)
      (bytesOf "Id,\"District\",Datetime,Weight" ++ bytesOf "\r" ++
        (bytesOf "1,\"A,B\",,2" ++ bytesOf "\r\n\n" ++ bytesOf "\"x\"")) :=
    .cons header (by decide) afterHeader (by decide)
      (.cons row (by decide) afterRow (by decide) last)
  have layout := Layout.marked lead body
  exact layout

theorem extract_of_layout_unevenMarked :
    (∀ name ∈ Columns.required,
      name ∈ ["Id", "District", "Datetime", "Weight"]) ∧
    Layout (fieldsOf uneven) unevenMarked ∧
    (∃ columns rows,
      (read (.ofBytes unevenMarked)).result =
        .ok ⟨["Id", "District", "Datetime", "Weight"], columns, rows⟩ ∧
      rows.map (·.fields) = [["1", "A,B", "", "2"]] ∧
      (read (.ofBytes unevenMarked)).skips.map
        (fun skip => (skip.expected, skip.found)) = [(4, 1)]) ∧
    Agree (extract .any unevenMarked)
      (extract .any (render (fieldsOf uneven))) := by
  have complete : ∀ name ∈ Columns.required,
      name ∈ ["Id", "District", "Datetime", "Weight"] := by decide
  have rendered : Layout (fieldsOf uneven) (render (fieldsOf uneven)) :=
    layout_render (by decide) (by decide)
  obtain ⟨reading, agree⟩ := extract_of_layout
    ["Id", "District", "Datetime", "Weight"]
    [["1", "A,B", "", "2"], ["x"]] complete unevenMarked layout_unevenMarked
  exact ⟨complete, layout_unevenMarked, reading, agree _ rendered .any⟩

end Dataset
end Deliveries
