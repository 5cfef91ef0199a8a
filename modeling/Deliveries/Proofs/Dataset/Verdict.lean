import Mathlib.Data.List.Basic
import Deliveries.Proofs.Csv.Joining
import Deliveries.Proofs.Csv.Positions
import Deliveries.Proofs.Csv.Textual
import Deliveries.Proofs.Dataset.Reading

/-!
# Verdicts on tables

What a complete source comes to is settled in order: by the fields of its
header, by their names, and then by the first later record with a field that is
no text.  What is settled stays so whatever follows.  A table that is a text has
no such field, so that the names in its header alone decide.
-/

namespace Deliveries

open Text Csv

namespace Csv

/-! ## Unreadable records -/

/-- The fields before this one are texts, and this one is not: it begins with a
text of so many bytes. -/
def Record.UnreadableAt (record : Record) (field length : Nat) : Prop :=
  ∃ (texts : List String) (bytes : Field) (rest : List Field),
    record.fields = texts.map bytesOf ++ bytes :: rest ∧
    texts.length = field ∧ Text.UnreadableAt bytes length

theorem Record.textsFrom_eq_error_iff
    {start : Position} {field : Nat} {fields : List Field}
    {cause : InputFault} :
    textsFrom start field fields = .error cause ↔
      ∃ (texts : List String) (bytes : Field) (rest : List Field)
          (length : Nat),
        fields = texts.map bytesOf ++ bytes :: rest ∧
        Text.UnreadableAt bytes length ∧
        cause = .notText start (field + texts.length) length := by
  induction fields generalizing field cause with
  | nil => simp [textsFrom]
  | cons bytes rest ih =>
    unfold textsFrom
    constructor
    · intro failed
      cases text : ofBytes bytes with
      | error length =>
        rw [text] at failed
        cases failed
        exact ⟨[], bytes, rest, length, rfl, ofBytes_eq_error_iff.mp text, rfl⟩
      | ok first =>
        rw [text] at failed
        cases later : textsFrom start (field + 1) rest with
        | ok others =>
          rw [later] at failed
          cases failed
        | error other =>
          rw [later] at failed
          cases failed
          obtain ⟨texts, bad, behind, length, rfl, unreadable, rfl⟩ :=
            ih.mp later
          refine ⟨first :: texts, bad, behind, length, ?_, unreadable, ?_⟩
          · rw [ofBytes_eq_ok_iff.mp text]
            rfl
          · rw [List.length_cons, Nat.add_right_comm, Nat.add_assoc]
    · rintro ⟨texts, bad, behind, length, fields, unreadable, rfl⟩
      cases texts with
      | nil =>
        obtain ⟨rfl, rfl⟩ := List.cons.inj fields
        rw [ofBytes_eq_error_iff.mpr unreadable]
        rfl
      | cons first texts =>
        obtain ⟨rfl, rest_eq⟩ := List.cons.inj fields
        have later : textsFrom start (field + 1) rest =
            .error (.notText start (field + 1 + texts.length) length) :=
          ih.mpr ⟨texts, bad, behind, length, rest_eq, unreadable, rfl⟩
        rw [ofBytes_bytesOf, later, List.length_cons, Nat.add_right_comm,
          Nat.add_assoc]
        rfl

/-- What fails to be read in a record is the first field that is no text. -/
theorem Record.texts_eq_error_iff {record : Record} {cause : InputFault} :
    record.texts = .error cause ↔
      ∃ field length, record.UnreadableAt field length ∧
        cause = .notText record.start field length := by
  rw [Record.texts, textsFrom_eq_error_iff]
  simp only [Nat.zero_add]
  constructor
  · rintro ⟨texts, bytes, rest, length, fields, unreadable, rfl⟩
    exact ⟨_, length, ⟨texts, bytes, rest, fields, rfl, unreadable⟩, rfl⟩
  · rintro ⟨field, length, ⟨texts, bytes, rest, fields, rfl, unreadable⟩, rfl⟩
    exact ⟨texts, bytes, rest, length, fields, unreadable, rfl⟩

/-- A record is an entry, or has a first field that is no text. -/
theorem Record.entry_or_unreadable (record : Record) :
    (∃ entry : Entry, record = entry.record) ∨
      ∃ field length, record.UnreadableAt field length := by
  cases text : record.texts with
  | ok texts => exact .inl ⟨_, Entry.eq_record text⟩
  | error cause =>
    obtain ⟨field, length, unreadable, _⟩ := Record.texts_eq_error_iff.mp text
    exact .inr ⟨field, length, unreadable⟩

/-- Records are entries, or entries up to the first record that is none. -/
theorem entries_or_unreadable (records : List Record) :
    (∃ entries : List Entry, records = entries.map (·.record)) ∨
      ∃ (entries : List Entry) (bad : Record) (later : List Record)
          (field length : Nat),
        records = entries.map (·.record) ++ bad :: later ∧
        bad.UnreadableAt field length := by
  induction records with
  | nil => exact .inl ⟨[], rfl⟩
  | cons record rest ih =>
    rcases record.entry_or_unreadable with
      ⟨entry, rfl⟩ | ⟨field, length, unreadable⟩
    · rcases ih with
        ⟨entries, rfl⟩ | ⟨entries, bad, later, field, length, rfl, unreadable⟩
      · exact .inl ⟨entry :: entries, rfl⟩
      · exact .inr
          ⟨entry :: entries, bad, later, field, length, rfl, unreadable⟩
    · exact .inr ⟨[], record, rest, field, length, rfl, unreadable⟩

/-- A record of texts has no field that is no text. -/
theorem Record.Textual.not_unreadableAt
    {record : Record} (textual : record.Textual) {field length : Nat} :
    ¬ record.UnreadableAt field length := by
  rintro ⟨texts, bytes, rest, fields, _, unreadable⟩
  have member : bytes ∈ record.fields := by
    rw [fields]
    exact List.mem_append_right _ List.mem_cons_self
  obtain ⟨text, rfl⟩ := textual bytes member
  have failed := ofBytes_eq_error_iff.mpr unreadable
  rw [ofBytes_bytesOf] at failed
  cases failed

/-- The fields of the header: those of the first record, none without one. -/
def Source.header (source : Source) : List Field :=
  source.records.head?.elim [] (·.fields)

end Csv

/-! ## Verdicts -/

namespace Dataset

/-- What is read of the records of a complete source.  The first case that
applies decides: a field of the header that is no text, a required name that the
header lacks, and a later record with a field that is no text, whatever its
length. -/
inductive Verdict : List Record -> Reading Dataset -> Prop
  | headerUnreadable {first : Record} {later : List Record}
      {field length : Nat} (unreadable : first.UnreadableAt field length) :
      Verdict (first :: later)
        (.fail (.input (.notText first.start field length)))
  | headerMissing : Verdict [] (.fail .missingColumns)
  | columnMissing {header : Entry} {later : List Record} {name : String}
      (required : name ∈ Columns.required) (missing : name ∉ header.texts) :
      Verdict (header.record :: later) (.fail .missingColumns)
  | recordUnreadable {header : Entry} {entries : List Entry} {bad : Record}
      {later : List Record} {field length : Nat}
      (complete : ∀ name ∈ Columns.required, name ∈ header.texts)
      (unreadable : bad.UnreadableAt field length) :
      Verdict (header.record :: (entries.map (·.record) ++ bad :: later))
        ⟨(entries.filter (! ·.fits header.texts.length)).map
            (·.skip header.texts.length),
          .error (.input (.notText bad.start field length))⟩
  | accepted {header : Entry} {entries : List Entry}
      (complete : ∀ name ∈ Columns.required, name ∈ header.texts) :
      Verdict (header.record :: entries.map (·.record))
        ⟨(entries.filter (! ·.fits header.texts.length)).map
            (·.skip header.texts.length),
          .ok ⟨header.texts, ⟨header.texts.idxOf "District",
            header.texts.idxOf "Datetime"⟩,
            (entries.filter (·.fits header.texts.length)).map (·.row)⟩⟩

theorem Verdict.readRecords_eq
    {records : List Record} {reading : Reading Dataset}
    (verdict : Verdict records reading) :
    readRecords none records = reading := by
  cases verdict with
  | headerUnreadable unreadable =>
    rw [readRecords, Record.texts_eq_error_iff.mpr ⟨_, _, unreadable, rfl⟩]
  | headerMissing => rfl
  | columnMissing required missing =>
    have incomplete := (Columns.locate_eq_error_iff _ _).mpr
      ⟨fun complete => missing (complete _ required), rfl⟩
    rw [readRecords, Entry.texts_record]
    simp only [incomplete]
  | recordUnreadable complete unreadable =>
    have located := (Columns.locate_eq_ok_iff _ _).mpr ⟨complete, rfl⟩
    have failed := Record.texts_eq_error_iff.mpr ⟨_, _, unreadable, rfl⟩
    rw [readRecords, Entry.texts_record]
    simp only [located, readRows_entries_append, readRows, failed,
      Reading.fail, Reading.map, Except.map, List.append_nil]
  | accepted complete =>
    exact readRecords_entries
      ((Columns.locate_eq_ok_iff _ _).mpr ⟨complete, rfl⟩) _

/-- There is a verdict on all records. -/
theorem exists_verdict (records : List Record) :
    ∃ reading, Verdict records reading := by
  cases records with
  | nil => exact ⟨_, .headerMissing⟩
  | cons first rest =>
    rcases first.entry_or_unreadable with
      ⟨header, rfl⟩ | ⟨field, length, unreadable⟩
    · by_cases incomplete : ∃ name ∈ Columns.required, name ∉ header.texts
      · obtain ⟨name, required, missing⟩ := incomplete
        exact ⟨_, .columnMissing required missing⟩
      have complete : ∀ name ∈ Columns.required, name ∈ header.texts :=
        fun name required => Classical.byContradiction fun missing =>
          incomplete ⟨name, required, missing⟩
      rcases entries_or_unreadable rest with
        ⟨entries, rfl⟩ | ⟨entries, bad, later, field, length, rfl, unreadable⟩
      · exact ⟨_, .accepted complete⟩
      · exact ⟨_, .recordUnreadable complete unreadable⟩
    · exact ⟨_, .headerUnreadable unreadable⟩

/-- Reading gives the verdict, and there is no other. -/
theorem verdict_iff (records : List Record) (reading : Reading Dataset) :
    Verdict records reading ↔ readRecords none records = reading := by
  constructor
  · exact Verdict.readRecords_eq
  · rintro rfl
    obtain ⟨reading, verdict⟩ := exists_verdict records
    rw [verdict.readRecords_eq]
    exact verdict

/-! ## Records that follow -/

/-- A fault of the records read first stays, whatever follows them. -/
theorem readRows_append_of_error
    {width : Nat} {reason? : Option String} {front : List Record}
    {fault : Fault}
    (failed : (readRows width reason? front).result = .error fault)
    (unbroken : ∀ reason, reason? = some reason →
      fault ≠ .input (.broken reason))
    (later? : Option String) (back : List Record) :
    readRows width later? (front ++ back) =
      readRows width reason? front := by
  induction front with
  | nil =>
    cases reason? with
    | some reason =>
      exact absurd (Except.error.inj failed).symm (unbroken reason rfl)
    | none => cases failed
  | cons record rest ih =>
    rw [List.cons_append]
    unfold readRows at failed ⊢
    split
    · rfl
    · next texts text =>
      rw [text] at failed
      simp only at failed
      split
      · next fits =>
        rw [if_pos fits] at failed
        rw [ih (Reading.result_map_eq_error_iff.mp failed)]
      · next unfit =>
        rw [if_neg unfit] at failed
        rw [ih failed]

/-- A fault of a table stays, whatever records follow its own. -/
theorem readRecords_append_of_error
    {reason? : Option String} {front : List Record} {fault : Fault}
    (failed : (readRecords reason? front).result = .error fault)
    (unbroken : ∀ reason, reason? = some reason →
      fault ≠ .input (.broken reason))
    (nonempty : front ≠ [])
    (later? : Option String) (back : List Record) :
    readRecords later? (front ++ back) = readRecords reason? front := by
  cases front with
  | nil => exact absurd rfl nonempty
  | cons first rest =>
    simp only [List.cons_append, readRecords] at failed ⊢
    split
    · rfl
    · next header text =>
      rw [text] at failed
      simp only at failed
      split
      · rfl
      · next columns located =>
        rw [located] at failed
        rw [readRows_append_of_error
          (Reading.result_map_eq_error_iff.mp failed) unbroken]

/-- A fault of a table whose last line has ended stays, whatever follows. -/
theorem read_append_of_error
    {bytes : List UInt8} (ends : EndsLine bytes)
    (headed : (Source.ofBytes bytes).records ≠ []) {fault : Fault}
    (failed : (read (.ofBytes bytes)).result = .error fault)
    (behind : List UInt8) :
    read (.ofBytes (bytes ++ behind)) = read (.ofBytes bytes) := by
  have complete : ∀ bytes, (Source.ofBytes bytes).breakReason? = none :=
    fun _ => rfl
  unfold read at failed ⊢
  rw [complete] at failed ⊢
  rw [complete, ends.records_append]
  exact readRecords_append_of_error failed nofun headed none _

/-! ## Tables that are texts -/

/-- On records of texts the verdict falls to the names in the header. -/
theorem Verdict.result_of_textual
    {records : List Record} {reading : Reading Dataset}
    (verdict : Verdict records reading)
    (textual : ∀ record ∈ records, record.Textual) :
    ((∀ name ∈ Columns.required,
        bytesOf name ∈ records.head?.elim [] (·.fields)) ∧
      ∃ dataset, reading.result = .ok dataset) ∨
    ((∃ name ∈ Columns.required,
        bytesOf name ∉ records.head?.elim [] (·.fields)) ∧
      reading.result = .error .missingColumns) := by
  have same (name : String) (texts : List String) :
      bytesOf name ∈ texts.map bytesOf ↔ name ∈ texts :=
    List.mem_map_of_injective fun _ _ => bytesOf_injective
  cases verdict with
  | headerUnreadable unreadable =>
    have readable := textual _ List.mem_cons_self
    exact absurd unreadable readable.not_unreadableAt
  | headerMissing =>
    exact .inr ⟨⟨"Id", List.mem_cons_self, List.not_mem_nil⟩, rfl⟩
  | columnMissing required missing =>
    exact .inr ⟨⟨_, required, fun present =>
      missing ((same _ _).mp present)⟩, rfl⟩
  | recordUnreadable _ unreadable =>
    have readable := textual _ (List.mem_cons_of_mem _
      (List.mem_append_right _ List.mem_cons_self))
    exact absurd unreadable readable.not_unreadableAt
  | accepted complete =>
    exact .inl ⟨fun name required =>
      (same _ _).mpr (complete name required), _, rfl⟩

/-- Reading gives the verdict on the records, which are numbered from 0.  When
the last line has ended, a fault stays whatever bytes follow.  A text never
fails as input: it is read when its header has all required names, and lacks
columns otherwise. -/
theorem verdict_of_read (bytes : List UInt8) :
    (∀ reading, Verdict (Source.ofBytes bytes).records reading ↔
      read (.ofBytes bytes) = reading) ∧
    (Source.ofBytes bytes).records.map (·.start.record) =
      List.range (Source.ofBytes bytes).records.length ∧
    (EndsLine bytes → (Source.ofBytes bytes).records ≠ [] →
      ∀ fault, (read (.ofBytes bytes)).result = .error fault →
        ∀ behind, read (.ofBytes (bytes ++ behind)) =
          ⟨(read (.ofBytes bytes)).skips, .error fault⟩) ∧
    ∀ text, bytes = bytesOf text →
      (∀ cause, (read (.ofBytes bytes)).result ≠ .error (.input cause)) ∧
      ((∃ dataset, (read (.ofBytes bytes)).result = .ok dataset) ↔
        ∀ name ∈ Columns.required,
          bytesOf name ∈ (Source.ofBytes bytes).header) ∧
      ((read (.ofBytes bytes)).result = .error .missingColumns ↔
        ∃ name ∈ Columns.required,
          bytesOf name ∉ (Source.ofBytes bytes).header) := by
  refine ⟨verdict_iff _, Source.numbers_records _, ?_, ?_⟩
  · intro ends headed fault failed behind
    exact Reading.eq_mk
      (congrArg Reading.skips (read_append_of_error ends headed failed behind))
      ((congrArg Reading.result
        (read_append_of_error ends headed failed behind)).trans failed)
  · rintro text rfl
    have verdict := (verdict_iff _ _).mpr
      (rfl : _ = read (.ofBytes (bytesOf text)))
    rcases verdict.result_of_textual (Source.textual_records text) with
      ⟨complete, dataset, accepted⟩ | ⟨⟨name, required, missing⟩, failed⟩
    · rw [accepted]
      refine ⟨nofun, iff_of_true ⟨dataset, rfl⟩ complete, nofun, ?_⟩
      rintro ⟨name, required, missing⟩
      exact absurd (complete name required) missing
    · rw [failed]
      refine ⟨nofun, ⟨nofun, ?_⟩, iff_of_true rfl ⟨name, required, missing⟩⟩
      intro complete
      exact absurd (complete name required) missing

/-- A table with a short record, a row and a short record whose second field is
no text. -/
def unreadableShort : List UInt8 :=
  bytesOf "Id,District,Datetime,Weight\nx\n1,A,soon,5\n2,B" ++ 0xFF ::
    bytesOf "\n"

/-- A text behind a mark with quotes that are not closed. -/
def unclosedText : String :=
  "\uFEFFId,District,\"Date\"time,Weight\n\"1,Ä\n\n\"\"x"

theorem verdict_of_read_unreadableShort :
    EndsLine unreadableShort ∧
      (∀ behind, read (.ofBytes (unreadableShort ++ behind)) =
        ⟨[⟨2, 4, 1⟩], .error (.input (.notText ⟨4, 41, 3⟩ 1 1))⟩) ∧
      (read (.ofBytes (bytesOf unclosedText))).result ≠
        .error .missingColumns ∧
      ∃ dataset,
        (read (.ofBytes (bytesOf unclosedText))).result = .ok dataset := by
  have ends : EndsLine unreadableShort := by decide +kernel
  have headed : (Source.ofBytes unreadableShort).records ≠ [] := by
    decide +kernel
  have failed : read (.ofBytes unreadableShort) =
      ⟨[⟨2, 4, 1⟩], .error (.input (.notText ⟨4, 41, 3⟩ 1 1))⟩ :=
    Reading.eq_mk (by decide +kernel) (by decide +kernel)
  obtain ⟨_, _, stays, _⟩ := verdict_of_read unreadableShort
  obtain ⟨_, _, _, ofText⟩ := verdict_of_read (bytesOf unclosedText)
  obtain ⟨_, accepted, lacking⟩ := ofText unclosedText rfl
  have complete : ∀ name ∈ Columns.required,
      bytesOf name ∈ (Source.ofBytes (bytesOf unclosedText)).header := by
    decide +kernel
  refine ⟨ends, ?_, ?_, accepted.mpr complete⟩
  · have same := stays ends headed _ (congrArg Reading.result failed)
    rw [failed] at same
    exact same
  · intro failed
    obtain ⟨name, required, missing⟩ := lacking.mp failed
    exact missing (complete name required)

end Dataset
end Deliveries
