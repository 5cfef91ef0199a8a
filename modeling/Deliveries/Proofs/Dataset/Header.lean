import Deliveries.Proofs.Dataset.WellFormed

/-!
# Headers that are read back

What was read can be written and read again.  A mark that begins the header is
then lost where it stands outside quotes, and only there does the header change.
The columns change only when a name that was hidden behind such a mark comes to
light.
-/

namespace Deliveries

open Text Csv

namespace Csv

/-- A text behind the mark's character. -/
def marked (text : String) : String :=
  String.ofList (markCharacter :: text.toList)

theorem toList_marked (text : String) :
    (marked text).toList = markCharacter :: text.toList :=
  String.toList_ofList

theorem marked_ne (text : String) : marked text ≠ text := by
  intro equal
  have longer := congrArg (·.toList.length) equal
  simp [toList_marked] at longer

theorem plainText_marked
    {text : String} (plain : PlainText text) : PlainText (marked text) := by
  intro character member
  rw [toList_marked] at member
  rcases List.mem_cons.mp member with rfl | later
  · decide
  · exact plain character later

theorem withoutMark_marked
    {text : String} (plain : PlainText text) :
    withoutMark (marked text) = text := by
  rw [withoutMark_of_mark (toList_marked text) (plainText_marked plain),
    String.ofList_toList]

/-- Only a bare text behind a mark is read as another text. -/
theorem withoutMark_eq_self_iff (text : String) :
    withoutMark text = text ↔
      ¬ ((∃ rest, text.toList = markCharacter :: rest) ∧ PlainText text) := by
  constructor
  · rintro same ⟨⟨rest, characters⟩, plain⟩
    rw [withoutMark_of_mark characters plain] at same
    have shorter := congrArg (·.toList.length) same
    simp [characters] at shorter
  · exact withoutMark_of_not_mark

/-- A header stays as it is unless it begins with a bare text behind a mark. -/
theorem modifyHead_withoutMark_eq_self_iff (header : List String) :
    header.modifyHead withoutMark = header ↔
      ∀ first, header.head? = some first →
        ¬ ((∃ rest, first.toList = markCharacter :: rest) ∧
          PlainText first) := by
  cases header with
  | nil => simp
  | cons first rest =>
    simp only [List.modifyHead_cons, List.cons.injEq, and_true,
      withoutMark_eq_self_iff, List.head?_cons, Option.some.injEq,
      forall_eq']

/-- A bare text is read only of itself and of the same behind a mark. -/
theorem withoutMark_eq_iff_of_ne
    {text other : String} (plain : PlainText other) (different : text ≠ other) :
    withoutMark text = other ↔ text = marked other := by
  constructor
  · intro read
    by_cases bare :
        (∃ rest, text.toList = markCharacter :: rest) ∧ PlainText text
    · obtain ⟨⟨rest, characters⟩, plainText⟩ := bare
      rw [withoutMark_of_mark characters plainText] at read
      rw [marked, ← read, String.toList_ofList, ← characters,
        String.ofList_toList]
    · rw [withoutMark_of_not_mark bare] at read
      exact absurd read different
  · rintro rfl
    exact withoutMark_marked plain

end Csv

namespace Columns

/-- A name keeps its position when the first name becomes another, unless
exactly one of the two is that name. -/
theorem idxOf_cons_eq_iff (name first other : String) (rest : List String) :
    (other :: rest).idxOf name = (first :: rest).idxOf name ↔
      (other = name ↔ first = name) := by
  simp only [List.idxOf_cons, cond_eq_ite, beq_iff_eq]
  by_cases isOther : other = name <;> by_cases isFirst : first = name <;>
    simp [isOther, isFirst]

theorem plainText_of_required
    {name : String} (member : name ∈ required) : PlainText name := by
  simp only [required, List.mem_cons, List.not_mem_nil, or_false] at member
  rcases member with rfl | rfl | rfl | rfl <;> decide

/-- A required name keeps its position unless it stood behind a mark. -/
theorem idxOf_modifyHead_withoutMark
    {name : String} (member : name ∈ required) (header : List String) :
    (header.modifyHead withoutMark).idxOf name = header.idxOf name ↔
      header.head? ≠ some (marked name) := by
  cases header with
  | nil => simp
  | cons first rest =>
    rw [List.modifyHead_cons, idxOf_cons_eq_iff, List.head?_cons, Ne,
      Option.some.injEq]
    by_cases isName : first = name
    · subst isName
      simp [withoutMark_of_required member, (marked_ne first).symm]
    · rw [withoutMark_eq_iff_of_ne (plainText_of_required member) isName]
      simp [isName]

/-- The columns of a header without a mark at its start are those of the header
unless one of their names stood behind that mark. -/
theorem eq_iff_of_located
    {header : List String} {columns again : Columns}
    (located : locate header = .ok columns)
    (locatedAgain : locate (header.modifyHead withoutMark) = .ok again) :
    again = columns ↔
      header.head? ≠ some (marked "District") ∧
        header.head? ≠ some (marked "Datetime") := by
  obtain ⟨_, rfl⟩ := (locate_eq_ok_iff _ _).mp located
  obtain ⟨_, rfl⟩ := (locate_eq_ok_iff _ _).mp locatedAgain
  rw [mk.injEq, idxOf_modifyHead_withoutMark (by decide),
    idxOf_modifyHead_withoutMark (by decide)]

end Columns

namespace Dataset

/-- What was read is written, and read back without a skip under the header
without a mark at its start. -/
theorem exists_read_write
    {source : Source} {dataset : Dataset}
    (reading : (read source).result = .ok dataset) :
    ∃ output columns rows, dataset.write none = .ok output ∧
      Columns.locate (dataset.header.modifyHead withoutMark) = .ok columns ∧
      read (.ofBytes output) =
        ⟨[], .ok ⟨dataset.header.modifyHead withoutMark, columns, rows⟩⟩ := by
  have rectangular := (wellFormed_of_read reading).rectangular
  obtain ⟨columns, located⟩ := locate_of_complete
    (Columns.complete_modifyHead_withoutMark rectangular.complete)
  obtain ⟨rows, _, again⟩ := read_rendering rectangular located
  exact ⟨_, columns, rows, write_unlimited rectangular, located, again⟩

/-- What was read is written and read back without a skip.  The header is the
same exactly when its first name does not begin with a mark or needs quotes, and
the columns are the same exactly when that name is not one of theirs behind a
mark. -/
theorem read_header_of_write
    (bytes : List UInt8) (dataset : Dataset)
    (reading : (read (.ofBytes bytes)).result = .ok dataset) :
    ∃ output again, dataset.write none = .ok output ∧
      read (.ofBytes output) = ⟨[], .ok again⟩ ∧
      again.header = dataset.header.modifyHead withoutMark ∧
      (again.header = dataset.header ↔
        ∀ first, dataset.header.head? = some first →
          ¬ ((∃ rest, first.toList = markCharacter :: rest) ∧
            PlainText first)) ∧
      (again.columns = dataset.columns ↔
        dataset.header.head? ≠ some "\uFEFFDistrict" ∧
          dataset.header.head? ≠ some "\uFEFFDatetime") := by
  have located := (wellFormed_of_read reading).located
  obtain ⟨output, columns, rows, written, locatedAgain, again⟩ :=
    exists_read_write reading
  refine ⟨output, _, written, again, rfl, ?_, ?_⟩
  · exact modifyHead_withoutMark_eq_self_iff dataset.header
  · exact Columns.eq_iff_of_located located locatedAgain

/-- A table whose first name is a mark and `Note`, in quotes. -/
def quotedNote : List UInt8 :=
  bytesOf "\"\uFEFFNote\",Id,District,Datetime,Weight\n?,1,B,soon,5\n"

/-- What is read of that table. -/
def noteDataset : Dataset where
  header := ["\uFEFFNote", "Id", "District", "Datetime", "Weight"]
  columns := ⟨2, 3⟩
  rows := [⟨2, ["?", "1", "B", "soon", "5"]⟩]

theorem read_header_of_write_quotedNote :
    (read (.ofBytes quotedNote)).result = .ok noteDataset ∧
      ∃ output again, noteDataset.write none = .ok output ∧
        read (.ofBytes output) = ⟨[], .ok again⟩ ∧
        again.header = ["Note", "Id", "District", "Datetime", "Weight"] ∧
        again.header ≠ noteDataset.header ∧
        again.columns = noteDataset.columns := by
  have reading : (read (.ofBytes quotedNote)).result = .ok noteDataset := by
    decide +kernel
  obtain ⟨output, again, written, reread, header, _, sameColumns⟩ :=
    read_header_of_write quotedNote noteDataset reading
  have withoutNote : noteDataset.header.modifyHead withoutMark =
      ["Note", "Id", "District", "Datetime", "Weight"] := by decide
  rw [withoutNote] at header
  refine ⟨reading, output, again, written, reread, header, ?_, ?_⟩
  · rw [header]
    decide
  · exact sameColumns.mpr (by decide)

/-- A table whose first name is a mark and `District`, in quotes, before another
column named `District`. -/
def hiddenDistrict : List UInt8 :=
  bytesOf "\"\uFEFFDistrict\",Id,District,Datetime,Weight\nA,1,B,soon,5\n"

/-- What is read of that table. -/
def hiddenDataset : Dataset where
  header := ["\uFEFFDistrict", "Id", "District", "Datetime", "Weight"]
  columns := ⟨2, 3⟩
  rows := [⟨2, ["A", "1", "B", "soon", "5"]⟩]

/-- What is read back when that is written: the hidden name has come to
light. -/
def shownDataset : Dataset where
  header := ["District", "Id", "District", "Datetime", "Weight"]
  columns := ⟨0, 3⟩
  rows := [⟨2, ["A", "1", "B", "soon", "5"]⟩]

/-- Header and columns may change, so that the same district is looked for in
another column. -/
theorem header_ne_of_hiddenDistrict :
    (read (.ofBytes hiddenDistrict)).result = .ok hiddenDataset ∧
      (hiddenDataset.write none).bind
          (fun output => (read (.ofBytes output)).result) =
        .ok shownDataset ∧
      shownDataset.header ≠ hiddenDataset.header ∧
      shownDataset.columns ≠ hiddenDataset.columns ∧
      hiddenDataset.filter ⟨some "B", none, none⟩ = .ok hiddenDataset ∧
      shownDataset.filter ⟨some "B", none, none⟩ =
        .ok { shownDataset with rows := [] } := by
  decide +kernel

end Dataset
end Deliveries
