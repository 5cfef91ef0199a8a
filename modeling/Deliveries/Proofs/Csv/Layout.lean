import Deliveries.Csv.Rendering
import Deliveries.Proofs.Csv.Cursor

/-!
# Layouts

One table can be laid out as bytes in many ways: with or without quotes around
a field, with any line breaks between the records and around them, and with or
without a byte order mark.  The scanner finds the same records in all of them.
-/

namespace Deliveries
namespace Csv

/-! ## Layouts of a table -/

/-- Line feeds and carriage returns in any number and order. -/
def AllBreaks (bytes : List UInt8) : Prop :=
  ∀ byte ∈ bytes, byte = lineFeed ∨ byte = carriageReturn

/-- A field that can stand without quotes. -/
def Plain (field : Field) : Prop :=
  ∀ byte ∈ field, byte ≠ comma ∧ byte ≠ quote ∧
    byte ≠ lineFeed ∧ byte ≠ carriageReturn

/-- A field stands between quotes with its own quotes doubled, or bare. -/
inductive FieldLayout (field : Field) : List UInt8 -> Prop
  | bare (plain : Plain field) : FieldLayout field field
  | quoted : FieldLayout field (quotedField field)

/-- The fields of a record stand with commas between them. -/
inductive FieldsLayout : List Field -> List UInt8 -> Prop
  | single
      {field : Field} {bytes : List UInt8}
      (only : FieldLayout field bytes) :
      FieldsLayout [field] bytes
  | cons
      {field next : Field} {rest : List Field} {bytes more : List UInt8}
      (first : FieldLayout field bytes)
      (others : FieldsLayout (next :: rest) more) :
      FieldsLayout (field :: next :: rest) (bytes ++ comma :: more)

/-- Records stand with line breaks between them, at least one, and any number
of them at the end.  No record is an empty line, so that a record of one empty
field has quotes. -/
inductive RecordsLayout : List (List Field) -> List UInt8 -> Prop
  | nil : RecordsLayout [] []
  | cons
      {fields : List Field} {records : List (List Field)}
      {bytes gap more : List UInt8}
      (first : FieldsLayout fields bytes)
      (present : bytes ≠ [])
      (breaks : AllBreaks gap)
      (parted : records ≠ [] -> gap ≠ [])
      (others : RecordsLayout records more) :
      RecordsLayout (fields :: records) (bytes ++ gap ++ more)

/-- A table stands after a byte order mark, or without one, and after any line
breaks.  Without one it must not look as if it had one. -/
inductive Layout (records : List (List Field)) : List UInt8 -> Prop
  | marked
      {lead bytes : List UInt8}
      (breaks : AllBreaks lead)
      (body : RecordsLayout records bytes) :
      Layout records (mark ++ (lead ++ bytes))
  | unmarked
      {lead bytes : List UInt8}
      (breaks : AllBreaks lead)
      (body : RecordsLayout records bytes)
      (distinct : ¬ mark <+: lead ++ bytes) :
      Layout records (lead ++ bytes)

/-! ## Scanning fields -/

namespace Scan

/-- A byte between quotes is kept, whether it is doubled or not. -/
theorem absorb?_escaped (held : List UInt8) (before : List Field)
    (byte : UInt8) :
    absorb? ⟨.quoted, held, before⟩ (escaped byte) =
      some ⟨.quoted, byte :: held, before⟩ := by
  unfold escaped
  by_cases isQuote : byte = quote
  · subst isQuote
    rfl
  · rw [if_neg isQuote]
    have more : step ⟨.quoted, held, before⟩ byte =
        .more ⟨.quoted, byte :: held, before⟩ := by
      simp [step, isQuote, keep]
    rw [absorb?_cons_of_more more, absorb?_nil]

theorem absorb?_flatMap_escaped (field : Field) (held : List UInt8)
    (before : List Field) :
    absorb? ⟨.quoted, held, before⟩ (field.flatMap escaped) =
      some ⟨.quoted, field.reverse ++ held, before⟩ := by
  induction field generalizing held with
  | nil => rfl
  | cons byte rest ih =>
    rw [List.flatMap_cons, absorb?_append, absorb?_escaped,
      Option.bind_some, ih, List.reverse_cons, List.append_assoc]
    rfl

/-- A quoted field is read up to its closing quote. -/
theorem absorb?_quotedField
    {mode : Mode} (opens : mode = .atRecord ∨ mode = .atField)
    (before : List Field) (field : Field) :
    absorb? ⟨mode, [], before⟩ (quotedField field) =
      some ⟨.quoteSeen, field.reverse, before⟩ := by
  have opened : step ⟨mode, [], before⟩ quote =
      .more ⟨.quoted, [], before⟩ := by
    rcases opens with rfl | rfl <;> rfl
  rw [quotedField, List.cons_append, absorb?_cons_of_more opened,
    absorb?_append, absorb?_flatMap_escaped, List.append_nil]
  rfl

theorem step_of_plain
    {scan : Scan} {byte : UInt8}
    (unquoted : scan.mode ≠ .quoted)
    (plain : byte ≠ comma ∧ byte ≠ quote ∧
      byte ≠ lineFeed ∧ byte ≠ carriageReturn) :
    scan.step byte = .more (scan.keep byte .bare) := by
  obtain ⟨notComma, notQuote, notFeed, notReturn⟩ := plain
  have notBreak : isBreak byte = false := by
    simp [isBreak, notFeed, notReturn]
  simp [step, unquoted, notComma, notQuote, notBreak]

/-- A bare field is read as it stands. -/
theorem absorb?_plain
    {field : Field} (plain : Plain field)
    {mode : Mode} (unquoted : mode ≠ .quoted)
    (held : List UInt8) (before : List Field) :
    absorb? ⟨mode, held, before⟩ field =
      some ⟨if field = [] then mode else .bare,
        field.reverse ++ held, before⟩ := by
  induction field generalizing mode held with
  | nil => rfl
  | cons byte rest ih =>
    have plainRest : Plain rest := fun other member =>
      plain other (List.mem_cons_of_mem byte member)
    have more : step ⟨mode, held, before⟩ byte =
        .more ⟨.bare, byte :: held, before⟩ :=
      step_of_plain unquoted (plain byte List.mem_cons_self)
    rw [absorb?_cons_of_more more, ih plainRest (by decide)]
    simp

/-- After a field the scan holds it, and no record has begun only if none had
before the field and it stands without bytes. -/
theorem absorb?_fieldLayout
    {field : Field} {bytes : List UInt8} (layout : FieldLayout field bytes)
    {mode : Mode} (opens : mode = .atRecord ∨ mode = .atField)
    (before : List Field) :
    ∃ last, absorb? ⟨mode, [], before⟩ bytes =
        some ⟨last, field.reverse, before⟩ ∧
      last ≠ .quoted ∧
      (last = .atRecord -> mode = .atRecord ∧ bytes = []) := by
  cases layout with
  | quoted =>
    exact ⟨.quoteSeen, absorb?_quotedField opens before field, nofun, nofun⟩
  | bare plain =>
    have unquoted : mode ≠ .quoted := by
      rcases opens with rfl | rfl <;> exact nofun
    refine ⟨if field = [] then mode else .bare, ?_, ?_, ?_⟩
    · rw [absorb?_plain plain unquoted, List.append_nil]
    · split
      · exact unquoted
      · exact nofun
    · intro unbegun
      by_cases blank : field = []
      · rw [if_pos blank] at unbegun
        exact ⟨unbegun, blank⟩
      · rw [if_neg blank] at unbegun
        cases unbegun

/-- After the fields of a record the scan would close with just them. -/
theorem absorb?_fieldsLayout
    {fields : List Field} {bytes : List UInt8}
    (layout : FieldsLayout fields bytes)
    {mode : Mode} (opens : mode = .atRecord ∨ mode = .atField)
    (before : List Field) :
    ∃ scan, absorb? ⟨mode, [], before⟩ bytes = some scan ∧
      scan.mode ≠ .quoted ∧
      (scan.mode = .atRecord -> mode = .atRecord ∧ bytes = []) ∧
      scan.closed = before.reverse ++ fields := by
  induction layout generalizing mode before with
  | single only =>
    obtain ⟨last, absorbed, unquoted, unbegun⟩ :=
      absorb?_fieldLayout only opens before
    exact ⟨_, absorbed, unquoted, unbegun, by simp [closed]⟩
  | @cons field next rest bytes more first others ih =>
    obtain ⟨last, absorbed, unquoted, _⟩ :=
      absorb?_fieldLayout first opens before
    have comma : step ⟨last, field.reverse, before⟩ comma =
        .more ⟨.atField, [], field :: before⟩ := by
      simp [step, unquoted, endField, Csv.comma, quote]
    obtain ⟨scan, absorbedRest, unquotedRest, unbegun, close⟩ :=
      ih (.inr rfl) (field :: before)
    refine ⟨scan, ?_, unquotedRest, ?_, ?_⟩
    · rw [absorb?_append, absorbed, Option.bind_some,
        absorb?_cons_of_more comma, absorbedRest]
    · intro nothing
      cases (unbegun nothing).1
    · rw [close, List.reverse_cons, List.append_assoc, List.singleton_append]

/-! ## Scanning records -/

/-- A line break ends a record that has begun, outside quotes. -/
theorem step_of_break
    {scan : Scan} {byte : UInt8}
    (ends : byte = lineFeed ∨ byte = carriageReturn)
    (unquoted : scan.mode ≠ .quoted) (begun : scan.mode ≠ .atRecord) :
    scan.step byte = .record scan.closed := by
  rcases ends with rfl | rfl <;>
    simp [step, unquoted, begun, isBreak, quote, comma, lineFeed,
      carriageReturn]

/-- Line breaks before a record are passed over. -/
theorem absorb?_allBreaks
    {bytes : List UInt8} (breaks : AllBreaks bytes) :
    absorb? .start bytes = some .start := by
  induction bytes with
  | nil => rfl
  | cons byte rest ih =>
    have more : step .start byte = .more .start := by
      rcases breaks byte List.mem_cons_self with rfl | rfl <;> rfl
    rw [absorb?_cons_of_more more]
    exact ih fun other member => breaks other (List.mem_cons_of_mem byte member)

end Scan

namespace Cursor

/-- Line breaks before a record are not seen in the records. -/
theorem records_allBreaks_append
    {gap : List UInt8} (breaks : AllBreaks gap)
    {cursor : Cursor} (atStart : cursor.scan = .start)
    (ending : Ending) (bytes : List UInt8) :
    ∃ next : Cursor, next.scan = .start ∧
      cursor.records ending (gap ++ bytes) = next.records ending bytes := by
  have absorbed : cursor.scan.absorb? gap = some .start := by
    rw [atStart]
    exact Scan.absorb?_allBreaks breaks
  obtain ⟨unfound, _, atStartAgain⟩ := after_of_absorb? absorbed
  refine ⟨cursor.after gap, atStartAgain, ?_⟩
  rw [records_append, unfound, List.nil_append]

/-- The records of a layout, whatever the cursor has passed before it. -/
theorem records_of_recordsLayout
    {records : List (List Field)} {bytes : List UInt8}
    (layout : RecordsLayout records bytes)
    {cursor : Cursor} (atStart : cursor.scan = .start) :
    (cursor.records .complete bytes).map (·.fields) = records := by
  induction layout generalizing cursor with
  | nil =>
    rw [Cursor.records, atStart]
    rfl
  | @cons fields records bytes gap more first present breaks parted others
      ih =>
    obtain ⟨scan, absorbed, unquoted, unbegun, close⟩ :=
      Scan.absorb?_fieldsLayout first (.inl rfl) []
    have begun : scan.mode ≠ .atRecord := fun nothing =>
      present (unbegun nothing).2
    rw [← Scan.start, ← atStart] at absorbed
    obtain ⟨unfound, _, scanned⟩ := after_of_absorb? absorbed
    rw [List.append_assoc, records_append, unfound, List.nil_append]
    generalize cursor.after bytes = ended at scanned
    cases gap with
    | nil =>
      have last : records = [] :=
        Decidable.byContradiction fun others => parted others rfl
      subst last
      cases others
      have finished : scan.finish? = some fields := by
        rw [Scan.finish?, if_neg begun, close]
        rfl
      simp [Cursor.records, scanFrom, scanned, finished]
    | cons byte gap =>
      have complete : ended.scan.step byte = .record fields := by
        rw [scanned, Scan.step_of_break (breaks byte List.mem_cons_self)
          unquoted begun, close]
        rfl
      have laterBreaks : AllBreaks gap := fun other member =>
        breaks other (List.mem_cons_of_mem byte member)
      rw [List.cons_append, records_cons_of_record complete, List.map_cons]
      have nextStart :
          (ofPosition (ended.here.past byte).nextRecord).scan = .start := rfl
      obtain ⟨later, laterStart, same⟩ :=
        records_allBreaks_append laterBreaks nextStart .complete more
      rw [same, ih laterStart]

/-- The records of a layout are the same after any line breaks. -/
theorem records_of_breaks_recordsLayout
    {records : List (List Field)} {lead bytes : List UInt8}
    (breaks : AllBreaks lead) (layout : RecordsLayout records bytes)
    {cursor : Cursor} (atStart : cursor.scan = .start) :
    (cursor.records .complete (lead ++ bytes)).map (·.fields) = records := by
  obtain ⟨next, nextStart, same⟩ :=
    records_allBreaks_append breaks atStart .complete bytes
  rw [same, records_of_recordsLayout layout nextStart]

end Cursor

/-! ## Layouts as sources -/

namespace Source

theorem body_of_marked (bytes : List UInt8) :
    (ofBytes (mark ++ bytes)).body = bytes := rfl

theorem body_of_unmarked
    {bytes : List UInt8} (unmarked : ¬ mark <+: bytes) :
    (ofBytes bytes).body = bytes := by
  unfold body ofBytes
  split
  · next rest equal =>
    exact absurd ⟨rest, equal.symm⟩ unmarked
  · rfl

/-- A table is read from each of its layouts. -/
theorem records_of_layout
    {records : List (List Field)} {bytes : List UInt8}
    (layout : Layout records bytes) :
    (ofBytes bytes).records.map (·.fields) = records := by
  rw [records_eq]
  cases layout with
  | marked breaks body =>
    rw [body_of_marked]
    exact Cursor.records_of_breaks_recordsLayout breaks body rfl
  | unmarked breaks body distinct =>
    rw [body_of_unmarked distinct]
    exact Cursor.records_of_breaks_recordsLayout breaks body rfl

end Source
end Csv
end Deliveries
