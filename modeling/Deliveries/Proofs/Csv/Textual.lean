import Deliveries.Proofs.Csv.Positions
import Deliveries.Proofs.Csv.Text

/-!
# Tables that are texts

The scanner parts the bytes of a text only at ASCII bytes, and drops none but
ASCII bytes.  So the fields of a table that is a text are texts themselves,
however its quotes and line breaks are placed.
-/

namespace Deliveries

namespace Text

/-- Bytes that are those of a text. -/
def IsText (bytes : List UInt8) : Prop :=
  ∃ text, bytes = bytesOf text

theorem isText_encode (text : List Char) : IsText (Utf8.encode text) :=
  ⟨String.ofList text, by rw [bytesOf, String.toList_ofList]⟩

theorem isText_nil : IsText [] := isText_encode []

theorem IsText.append
    {front back : List UInt8} (frontText : IsText front)
    (backText : IsText back) : IsText (front ++ back) := by
  obtain ⟨frontString, rfl⟩ := frontText
  obtain ⟨backString, rfl⟩ := backText
  unfold bytesOf
  rw [← Utf8.encode_append]
  exact isText_encode _

theorem isText_encodeChar (character : Char) :
    IsText (Utf8.encodeChar character) := by
  have single := isText_encode [character]
  rwa [Utf8.encode_cons, Utf8.encode_nil, List.append_nil] at single

theorem isText_singleton
    {byte : UInt8} (ascii : byte.toNat < 0x80) : IsText [byte] := by
  rw [← Utf8.encodeChar_of_short ascii]
  exact isText_encodeChar _

end Text

namespace Csv

open Text

namespace Scan

/-- All that a scan holds of a record is text. -/
structure Textual (scan : Scan) : Prop where
  field : IsText scan.field.reverse
  fields : ∀ field ∈ scan.fields, IsText field

theorem textual_start : start.Textual :=
  ⟨isText_nil, fun _ member => absurd member List.not_mem_nil⟩

variable {scan : Scan}

theorem Textual.closed (textual : scan.Textual) :
    ∀ field ∈ scan.closed, IsText field := by
  intro field member
  rw [Scan.closed, List.mem_reverse, List.mem_cons] at member
  rcases member with rfl | earlier
  · exact textual.field
  · exact textual.fields field earlier

theorem Textual.keep
    (textual : scan.Textual) {byte : UInt8} (ascii : byte.toNat < 0x80)
    (mode : Mode) : (scan.keep byte mode).Textual := by
  refine ⟨?_, textual.fields⟩
  rw [Scan.keep, List.reverse_cons]
  exact textual.field.append (isText_singleton ascii)

/-- An ASCII byte leaves text held, or completes a record of texts. -/
theorem Textual.step
    (textual : scan.Textual) {byte : UInt8} (ascii : byte.toNat < 0x80) :
    (∃ next, scan.step byte = .more next ∧ next.Textual) ∨
      ∃ fields, scan.step byte = .record fields ∧
        ∀ field ∈ fields, IsText field := by
  unfold Scan.step
  split
  · next isQuote =>
    refine .inl ⟨_, rfl, ?_⟩
    have kept : ∀ mode, (scan.keep quote mode).Textual :=
      textual.keep (by decide)
    unfold takeQuote
    split
    · exact ⟨textual.field, textual.fields⟩
    · exact ⟨textual.field, textual.fields⟩
    · exact kept .bare
    · exact ⟨textual.field, textual.fields⟩
    · exact kept .quoted
  split
  · exact .inl ⟨_, rfl, textual.keep ascii .quoted⟩
  split
  · exact .inl ⟨_, rfl, isText_nil,
      List.forall_mem_cons.mpr ⟨textual.field, textual.fields⟩⟩
  split
  · split
    · exact .inl ⟨scan, rfl, textual⟩
    · exact .inr ⟨_, rfl, textual.closed⟩
  · exact .inl ⟨_, rfl, textual.keep ascii .bare⟩

theorem exists_step_of_plain
    {byte : UInt8} (plain : byte ≠ comma ∧ byte ≠ quote ∧
      byte ≠ lineFeed ∧ byte ≠ carriageReturn) (scan : Scan) :
    ∃ mode, scan.step byte = .more (scan.keep byte mode) := by
  by_cases quoted : scan.mode = .quoted
  · exact ⟨.quoted, by rw [step, if_neg plain.2.1, if_pos quoted]⟩
  · exact ⟨.bare, step_of_plain quoted plain⟩

/-- Bytes that are not special are kept in every mode. -/
theorem exists_absorb?_plain
    {bytes : List UInt8} (plain : Plain bytes) (scan : Scan) :
    ∃ mode, scan.absorb? bytes =
      some ⟨mode, bytes.reverse ++ scan.field, scan.fields⟩ := by
  induction bytes generalizing scan with
  | nil => exact ⟨scan.mode, rfl⟩
  | cons byte rest ih =>
    obtain ⟨mode, more⟩ :=
      exists_step_of_plain (plain byte List.mem_cons_self) scan
    have plainRest : Plain rest := fun other member =>
      plain other (List.mem_cons_of_mem byte member)
    obtain ⟨last, absorbed⟩ := ih plainRest (scan.keep byte mode)
    refine ⟨last, ?_⟩
    rw [absorb?_cons_of_more more, absorbed, keep, List.reverse_cons,
      List.append_assoc, List.singleton_append]

/-- No byte of a character beyond ASCII is special. -/
theorem plain_encodeChar
    {character : Char} (wide : 0x80 ≤ character.toNat) :
    Plain (Utf8.encodeChar character) := by
  intro byte member
  have large : 0x80 ≤ byte.toNat := by
    rcases Utf8.toNat_of_mem_encodeChar member with ⟨_, small⟩ | ⟨large, _⟩
    · omega
    · exact large
  refine ⟨?_, ?_, ?_, ?_⟩ <;> rintro rfl <;> revert large <;> decide

/-- A character beyond ASCII is held as it stands. -/
theorem Textual.absorb?
    (textual : scan.Textual) {character : Char}
    (wide : 0x80 ≤ character.toNat) :
    ∃ next, scan.absorb? (Utf8.encodeChar character) = some next ∧
      next.Textual := by
  obtain ⟨mode, absorbed⟩ := exists_absorb?_plain (plain_encodeChar wide) scan
  refine ⟨_, absorbed, ?_, textual.fields⟩
  rw [List.reverse_append, List.reverse_reverse]
  exact textual.field.append (isText_encodeChar character)

end Scan

/-! ## Records of texts -/

/-- A record whose fields are texts. -/
def Record.Textual (record : Record) : Prop :=
  ∀ field ∈ record.fields, IsText field

namespace Cursor

variable {cursor : Cursor}

theorem textual_records_nil
    (textual : cursor.scan.Textual) (ending : Ending) :
    ∀ record ∈ cursor.records ending [], record.Textual := by
  unfold records scanFrom Scan.finish?
  split
  · next fields finished =>
    split at finished
    · cases finished
    · cases finished
      exact List.forall_mem_singleton.mpr textual.closed
  · exact fun _ member => absurd member List.not_mem_nil

/-- The bytes of a character complete at most a record of texts, and leave
text held. -/
theorem textual_encodeChar
    (textual : cursor.scan.Textual) (character : Char) :
    (∀ record ∈ cursor.found (Utf8.encodeChar character), record.Textual) ∧
      (cursor.after (Utf8.encodeChar character)).scan.Textual := by
  by_cases one : character.toNat < 0x80
  · have ascii : (UInt8.ofNat character.toNat).toNat < 0x80 := by
      rw [Utf8.toNat_ofNat _ (by omega)]
      exact one
    rw [Utf8.encodeChar_of_one one, found, after_cons, found, List.append_nil]
    rcases textual.step ascii with ⟨next, more, held⟩ | ⟨fields, ends, texts⟩
    · simp only [found?, Cursor.next, more]
      exact ⟨fun _ member => absurd member List.not_mem_nil, held⟩
    · simp only [found?, Cursor.next, ends]
      exact ⟨List.forall_mem_singleton.mpr texts, Scan.textual_start⟩
  · have wide : 0x80 ≤ character.toNat := by omega
    obtain ⟨next, absorbed, held⟩ := textual.absorb? wide
    obtain ⟨unfound, _, scanned⟩ := after_of_absorb? absorbed
    rw [unfound, scanned]
    exact ⟨fun _ member => absurd member List.not_mem_nil, held⟩

/-- The records of a text are records of texts. -/
theorem textual_records
    (textual : cursor.scan.Textual) (ending : Ending) (text : List Char) :
    ∀ record ∈ cursor.records ending (Utf8.encode text), record.Textual := by
  induction text generalizing cursor with
  | nil => exact textual_records_nil textual ending
  | cons character rest ih =>
    obtain ⟨found, held⟩ := textual_encodeChar textual character
    rw [Utf8.encode_cons, records_append]
    exact List.forall_mem_append.mpr ⟨found, ih held⟩

end Cursor

namespace Source

/-- A text without the mark at its start is a text. -/
theorem isText_body (text : String) :
    IsText (ofBytes (bytesOf text)).body := by
  by_cases marked : mark <+: bytesOf text
  · obtain ⟨rest, whole⟩ := marked
    rw [← whole, body_of_marked]
    unfold bytesOf at whole
    cases characters : text.toList with
    | nil =>
      rw [characters] at whole
      cases whole
    | cons character others =>
      rw [characters, Utf8.encode_cons] at whole
      have isMark := eq_markCharacter_of_encodeChar_append whole.symm
      rw [isMark, encodeChar_markCharacter] at whole
      rw [List.append_cancel_left whole]
      exact isText_encode others
  · rw [body_of_unmarked marked]
    exact ⟨text, rfl⟩

/-- The records of a source that serves a text are records of texts. -/
theorem textual_records (text : String) :
    ∀ record ∈ (ofBytes (bytesOf text)).records, record.Textual := by
  obtain ⟨body, same⟩ := isText_body text
  rw [records_eq, same]
  exact Cursor.textual_records Scan.textual_start _ body.toList

end Source
end Csv
end Deliveries
