import Deliveries.Proofs.Dataset.Verdict

/-!
# Sources that break off

A source that breaks off is read up to its last complete record.  Whatever
fault is found there is found in every table that begins so, and what is skipped
there is skipped in all of them.  The one exception is a source that breaks off
right behind a byte order mark: it is taken for an empty table.
-/

namespace Deliveries

open Text Csv

namespace Csv
namespace Source

variable (reason : String)

/-- A source that breaks off completes no record at its end. -/
theorem records_broken (bytes : List UInt8) :
    (Source.mk bytes (.broken reason)).records =
      (ofBytes bytes).cursor.found (ofBytes bytes).body := by
  change (ofBytes bytes).cursor.records (.broken reason)
    (ofBytes bytes).body = _
  exact Cursor.records_eq_found rfl

/-- What is only the beginning of a mark completes no record. -/
theorem records_broken_of_prefix_mark
    {bytes : List UInt8} (unmarked : ¬ mark <+: bytes)
    (begins : bytes <+: mark) :
    (Source.mk bytes (.broken reason)).records = [] := by
  have plainMark : Plain mark := by
    intro byte member
    simp only [mark, List.mem_cons, List.not_mem_nil, or_false] at member
    rcases member with rfl | rfl | rfl <;> decide
  have plain : Plain bytes := fun byte member =>
    plainMark byte (begins.subset member)
  rw [records_broken, body_of_unmarked unmarked]
  exact (Cursor.after_of_absorb?
    (Scan.absorb?_plain plain (by decide) [] [])).1

/-- The records of a source that breaks off are the first ones of every source
that begins with the same bytes. -/
theorem records_broken_prefix (front back : List UInt8) :
    (Source.mk front (.broken reason)).records <+:
      (ofBytes (front ++ back)).records := by
  by_cases same : mark <+: front ++ back ↔ mark <+: front
  · obtain ⟨sameCursor, body⟩ := ofBytes_append same
    rw [records_broken, records_eq, sameCursor, body]
    exact ⟨_, (Cursor.records_append _ _ _ _).symm⟩
  · -- The mark begins in front and ends behind, so that no record is complete.
    have unmarked : ¬ mark <+: front := fun marked =>
      same (iff_of_true (marked.trans (List.prefix_append front back)) marked)
    have marked : mark <+: front ++ back := Classical.byContradiction
      fun unmarkedWhole => same (iff_of_false unmarkedWhole unmarked)
    have begins : front <+: mark :=
      (List.prefix_or_prefix_of_prefix marked
        (List.prefix_append front back)).resolve_left unmarked
    rw [records_broken_of_prefix_mark reason unmarked begins]
    exact List.nil_prefix

end Source
end Csv

namespace Dataset

/-! ## Skips of the records that follow -/

/-- What is skipped first is skipped first, whatever follows. -/
theorem skips_readRows_prefix
    (width : Nat) (reason? later? : Option String)
    (front back : List Record) :
    (readRows width reason? front).skips <+:
      (readRows width later? (front ++ back)).skips := by
  induction front with
  | nil =>
    cases reason? with
    | none => exact List.nil_prefix
    | some reason => exact List.nil_prefix
  | cons record rest ih =>
    simp only [List.cons_append, readRows]
    split
    · exact List.prefix_rfl
    · split
      · exact ih
      · exact (List.prefix_cons_inj _).mpr ih

theorem skips_readRecords_prefix
    (reason? later? : Option String) (front back : List Record) :
    (readRecords reason? front).skips <+:
      (readRecords later? (front ++ back)).skips := by
  cases front with
  | nil =>
    cases reason? with
    | none => exact List.nil_prefix
    | some reason => exact List.nil_prefix
  | cons first rest =>
    simp only [List.cons_append, readRecords]
    split
    · exact List.prefix_rfl
    · split
      · exact List.prefix_rfl
      · exact skips_readRows_prefix _ reason? later? rest back

/-! ## Broken readings -/

variable (reason : String)

theorem exists_fault_of_broken (records : List Record) :
    ∃ fault, (readRecords (some reason) records).result = .error fault := by
  cases result : (readRecords (some reason) records).result with
  | error fault => exact ⟨fault, rfl⟩
  | ok dataset =>
    obtain ⟨unbroken, _⟩ := exists_entries_of_readRecords result
    cases unbroken

theorem breakReason?_of_ne_mark
    {bytes : List UInt8} (unlike : bytes ≠ mark) :
    (Source.mk bytes (.broken reason)).breakReason? = some reason :=
  if_neg unlike

/-- A source of a mark alone is taken for an empty table, even when it breaks
off. -/
theorem read_broken_mark :
    read ⟨mark, .broken reason⟩ = ⟨[], .error .missingColumns⟩ := rfl

/-- A fault that is not the break itself is found in every table that begins
with the same bytes. -/
theorem read_append_of_broken
    {front : List UInt8} (unlike : front ≠ mark) {fault : Fault}
    (failed : (read ⟨front, .broken reason⟩).result = .error fault)
    (unbroken : fault ≠ .input (.broken reason)) (back : List UInt8) :
    read (.ofBytes (front ++ back)) = read ⟨front, .broken reason⟩ := by
  obtain ⟨more, whole⟩ := Source.records_broken_prefix reason front back
  unfold read at failed ⊢
  rw [breakReason?_of_ne_mark reason unlike] at failed ⊢
  have nonempty : (Source.mk front (.broken reason)).records ≠ [] := by
    intro none
    rw [none] at failed
    exact unbroken (Except.error.inj failed).symm
  rw [← whole]
  refine readRecords_append_of_error failed ?_ nonempty _ more
  rintro _ ⟨⟩
  exact unbroken

/-- What a source skips before it breaks off is skipped first in every table
that begins with the same bytes. -/
theorem skips_read_prefix (front back : List UInt8) :
    (read ⟨front, .broken reason⟩).skips <+:
      (read (.ofBytes (front ++ back))).skips := by
  obtain ⟨more, whole⟩ := Source.records_broken_prefix reason front back
  unfold read
  rw [← whole]
  exact skips_readRecords_prefix _ _ _ more

/-- A source that breaks off is never read.  What it skips is skipped first in
every table that begins with its bytes, and a fault that is not the break is
the fault of each of them, unless the bytes are a mark alone: then a lack of
columns is found. -/
theorem read_cut (bytes : List UInt8) (length : Nat) :
    (∃ fault, (read (.cut length bytes)).result = .error fault) ∧
    (∀ behind, (read (.cut length bytes)).skips <+:
      (read (.ofBytes (bytes.take length ++ behind))).skips) ∧
    (bytes.take length ≠ mark →
      (read (.cut length bytes)).result ≠
        .error (.input (.broken Source.readFailure)) →
      ∀ behind, read (.ofBytes (bytes.take length ++ behind)) =
        read (.cut length bytes)) ∧
    (bytes.take length = mark →
      read (.cut length bytes) = ⟨[], .error .missingColumns⟩) := by
  unfold Source.cut
  obtain ⟨fault, failed⟩ :
      ∃ fault, (read ⟨bytes.take length, .broken Source.readFailure⟩).result =
        .error fault := by
    by_cases alone : bytes.take length = mark
    · exact ⟨.missingColumns, by rw [alone, read_broken_mark]⟩
    · unfold read
      rw [breakReason?_of_ne_mark _ alone]
      exact exists_fault_of_broken _ _
  refine ⟨⟨fault, failed⟩, skips_read_prefix _ _, ?_, ?_⟩
  · intro unlike unbroken
    apply read_append_of_broken _ unlike failed
    rintro rfl
    exact unbroken failed
  · intro alone
    rw [alone, read_broken_mark]

/-- A table behind a mark, with a short record before a row of two lines. -/
def shortFirst : List UInt8 :=
  bytesOf "\uFEFFId,District,Datetime,Weight\r\nx\r\n1,\"A\nB\",soon,5\r\n"

/-- A table that lacks columns. -/
def withoutWeight : List UInt8 := bytesOf "Id,District,Datetime\n1,A,soon\n"

theorem read_cut_shortFirst :
    shortFirst.take 40 ≠ mark ∧
      read (.cut 40 shortFirst) =
        ⟨[⟨1, 4, 1⟩], .error (.input (.broken Source.readFailure))⟩ ∧
      (∀ behind, [⟨1, 4, 1⟩] <+:
        (read (.ofBytes (shortFirst.take 40 ++ behind))).skips) ∧
      withoutWeight.take 25 ≠ mark ∧
      ∀ behind, read (.ofBytes (withoutWeight.take 25 ++ behind)) =
        ⟨[], .error .missingColumns⟩ := by
  have broken : read (.cut 40 shortFirst) =
      ⟨[⟨1, 4, 1⟩], .error (.input (.broken Source.readFailure))⟩ :=
    Reading.eq_mk (by decide +kernel) (by decide +kernel)
  have failed : read (.cut 25 withoutWeight) = ⟨[], .error .missingColumns⟩ :=
    Reading.eq_mk (by decide +kernel) (by decide +kernel)
  obtain ⟨_, skipped, _⟩ := read_cut shortFirst 40
  obtain ⟨_, _, settled, _⟩ := read_cut withoutWeight 25
  have unlike : withoutWeight.take 25 ≠ mark := by decide +kernel
  have unbroken : (read (.cut 25 withoutWeight)).result ≠
      .error (.input (.broken Source.readFailure)) := by
    rw [failed]
    decide
  rw [broken] at skipped
  rw [failed] at settled unbroken
  exact ⟨by decide +kernel, broken, skipped, unlike, settled unlike unbroken⟩

/-- A header line behind a mark. -/
def markedHeader : List UInt8 := bytesOf "\uFEFFId,District,Datetime,Weight\n"

/-- A header that breaks off right behind its mark seems to lack columns, and
not to break off, though the whole of it is read, and though one byte more or
less of it is found to break off. -/
theorem read_cut_ne_of_markedHeader :
    (read (.cut 3 markedHeader)).result = .error .missingColumns ∧
      (read (.ofBytes (markedHeader.take 3 ++ markedHeader.drop 3))).result =
        .ok ⟨["Id", "District", "Datetime", "Weight"], ⟨1, 2⟩, []⟩ ∧
      (read (.cut 2 markedHeader)).result =
        .error (.input (.broken Source.readFailure)) ∧
      (read (.cut 4 markedHeader)).result =
        .error (.input (.broken Source.readFailure)) := by
  decide +kernel

end Dataset
end Deliveries
