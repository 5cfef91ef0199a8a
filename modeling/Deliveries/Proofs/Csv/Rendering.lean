import Deliveries.Proofs.Csv.Layout

/-!
# The rendering is a layout

What the writer makes of a table is one of the table's layouts, unless it looks
as if it began with a byte order mark.  In that case it is a layout of the table
whose first field has lost the mark.
-/

namespace Deliveries
namespace Csv

theorem plain_iff_needsQuotes_eq_false (field : Field) :
    Plain field ↔ needsQuotes field = false := by
  simp [Plain, needsQuotes, isSpecial, isBreak, List.any_eq_false, and_assoc]

theorem fieldLayout_renderField (field : Field) :
    FieldLayout field (renderField field) := by
  unfold renderField
  split
  · exact .quoted
  · next unneeded =>
    exact .bare ((plain_iff_needsQuotes_eq_false field).mpr
      (Bool.eq_false_iff.mpr unneeded))

theorem fieldsLayout_renderFields
    {fields : List Field} (nonempty : fields ≠ []) :
    FieldsLayout fields (renderFields fields) := by
  induction fields using renderFields.induct with
  | case1 => exact absurd rfl nonempty
  | case2 field => exact .single (fieldLayout_renderField field)
  | case3 field next rest ih =>
    exact .cons (fieldLayout_renderField field) (ih nofun)

/-- A rendered record is its fields and a line end; the record of one empty
field has quotes. -/
theorem fieldsLayout_of_renderRecord
    {fields : List Field} (nonempty : fields ≠ []) :
    ∃ bytes, renderRecord fields = bytes ++ [lineFeed] ∧ bytes ≠ [] ∧
      FieldsLayout fields bytes := by
  by_cases blank : renderFields fields = []
  · refine ⟨[quote, quote], ?_, nofun, ?_⟩
    · rw [renderRecord, if_pos blank]
      rfl
    · rcases (renderFields_eq_nil_iff fields).mp blank with rfl | rfl
      · exact absurd rfl nonempty
      · exact .single .quoted
  · refine ⟨renderFields fields, ?_, blank,
      fieldsLayout_renderFields nonempty⟩
    rw [renderRecord, if_neg blank]

theorem recordsLayout_render
    {records : List (List Field)}
    (nonempty : ∀ fields ∈ records, fields ≠ []) :
    RecordsLayout records (render records) := by
  induction records with
  | nil => exact .nil
  | cons fields rest ih =>
    obtain ⟨bytes, rendered, present, layout⟩ :=
      fieldsLayout_of_renderRecord (nonempty fields List.mem_cons_self)
    have breaks : AllBreaks [lineFeed] := fun byte member =>
      .inl (List.mem_singleton.mp member)
    rw [render_cons, rendered]
    exact .cons layout present breaks (fun _ => nofun)
      (ih fun other member => nonempty other (List.mem_cons_of_mem fields member))

/-- A rendering that does not begin with a byte order mark is a layout of its
table. -/
theorem layout_render
    {records : List (List Field)}
    (nonempty : ∀ fields ∈ records, fields ≠ [])
    (distinct : ¬ mark <+: render records) :
    Layout records (render records) :=
  have noBreaks : AllBreaks [] := nofun
  .unmarked noBreaks (recordsLayout_render nonempty) distinct

theorem renderFields_mark_append
    {field : Field} (plain : Plain (mark ++ field))
    {rest : List Field} (more : rest ≠ []) :
    renderFields ((mark ++ field) :: rest) =
      mark ++ renderFields (field :: rest) := by
  have plainField : Plain field := fun byte member =>
    plain byte (List.mem_append_right mark member)
  obtain ⟨next, others, rfl⟩ := List.exists_cons_of_ne_nil more
  have unneeded := (plain_iff_needsQuotes_eq_false _).mp plain
  have unneededField := (plain_iff_needsQuotes_eq_false field).mp plainField
  simp [renderFields, renderField, unneeded, unneededField]

/-- A rendering whose first field begins with a mark outside quotes is a layout
of the table without that mark. -/
theorem layout_render_of_mark
    {field : Field} (plain : Plain (mark ++ field))
    {rest : List Field} (more : rest ≠ [])
    {records : List (List Field)}
    (nonempty : ∀ fields ∈ records, fields ≠ []) :
    Layout ((field :: rest) :: records)
      (render (((mark ++ field) :: rest) :: records)) := by
  have written : ∀ first : Field, renderFields (first :: rest) ≠ [] := by
    intro first blank
    rcases (renderFields_eq_nil_iff _).mp blank with none | single
    · cases none
    · exact more (List.cons.inj single).2
  have dropped : render (((mark ++ field) :: rest) :: records) =
      mark ++ render ((field :: rest) :: records) := by
    rw [render_cons, render_cons, renderRecord, renderRecord,
      if_neg (written _), if_neg (written _),
      renderFields_mark_append plain more, List.append_assoc,
      List.append_assoc, List.append_assoc]
  have nonemptyAll : ∀ fields ∈ (field :: rest) :: records, fields ≠ [] := by
    intro fields member
    rcases List.mem_cons.mp member with rfl | later
    · exact nofun
    · exact nonempty fields later
  have noBreaks : AllBreaks [] := nofun
  have layout := Layout.marked noBreaks (recordsLayout_render nonemptyAll)
  rw [dropped]
  exact layout

end Csv
end Deliveries
