import Deliveries.Csv.Source

/-!
# Cursors

A cursor is a scanner between two bytes of a source.  The records of two joined
lists of bytes are those that the first completes, and then those that come
from where the first leaves the cursor.  Bytes that complete no record are
absorbed by the scan, wherever in the source they stand.
-/

namespace Deliveries
namespace Csv

/-! ## Absorbed bytes -/

namespace Scan

/-- The scan after bytes that complete no record; `none` if they complete
one. -/
def absorb? (scan : Scan) : List UInt8 -> Option Scan
  | [] => some scan
  | byte :: rest =>
    match scan.step byte with
    | .more next => next.absorb? rest
    | .record _ => none

@[simp] theorem absorb?_nil (scan : Scan) : scan.absorb? [] = some scan := rfl

theorem absorb?_cons_of_more
    {scan next : Scan} {byte : UInt8} (more : scan.step byte = .more next)
    (rest : List UInt8) :
    scan.absorb? (byte :: rest) = next.absorb? rest := by
  simp only [absorb?, more]

/-- Joined bytes are absorbed one after the other. -/
theorem absorb?_append (scan : Scan) (front back : List UInt8) :
    scan.absorb? (front ++ back) =
      (scan.absorb? front).bind (·.absorb? back) := by
  induction front generalizing scan with
  | nil => rfl
  | cons byte rest ih =>
    simp only [List.cons_append, absorb?]
    cases scan.step byte with
    | more next => exact ih next
    | record fields => rfl

end Scan

/-! ## Cursors -/

/-- A scanner between two bytes: where the search for the open record began,
where the next byte stands, and what has been seen of the record. -/
structure Cursor where
  start : Position
  here : Position
  scan : Scan

namespace Cursor

/-- The cursor that begins to look for a record. -/
def ofPosition (position : Position) : Cursor := ⟨position, position, .start⟩

/-- The record that the next byte completes, if it completes one. -/
def found? (cursor : Cursor) (byte : UInt8) : Option Record :=
  match cursor.scan.step byte with
  | .more _ => none
  | .record fields => some ⟨cursor.start, fields⟩

/-- The cursor after the next byte. -/
def next (cursor : Cursor) (byte : UInt8) : Cursor :=
  match cursor.scan.step byte with
  | .more scan => ⟨cursor.start, cursor.here.past byte, scan⟩
  | .record _ => ofPosition (cursor.here.past byte).nextRecord

/-- The records that bytes complete. -/
def found (cursor : Cursor) : List UInt8 -> List Record
  | [] => []
  | byte :: rest =>
    (cursor.found? byte).toList ++ (cursor.next byte).found rest

/-- The cursor after bytes. -/
def after (cursor : Cursor) (bytes : List UInt8) : Cursor :=
  bytes.foldl next cursor

/-- The records from a cursor to the end of the source. -/
def records (ending : Ending) (cursor : Cursor) (bytes : List UInt8) :
    List Record :=
  scanFrom ending cursor.start cursor.here cursor.scan bytes

@[simp] theorem after_cons (cursor : Cursor) (byte : UInt8)
    (rest : List UInt8) :
    cursor.after (byte :: rest) = (cursor.next byte).after rest := rfl

theorem records_cons (ending : Ending) (cursor : Cursor) (byte : UInt8)
    (rest : List UInt8) :
    cursor.records ending (byte :: rest) =
      (cursor.found? byte).toList ++
        (cursor.next byte).records ending rest := by
  simp only [records, scanFrom, found?, next]
  cases cursor.scan.step byte with
  | more scan => rfl
  | record fields => rfl

/-- The records of joined bytes: those that the first complete, and those from
where the first leave the cursor. -/
theorem records_append (ending : Ending) (cursor : Cursor)
    (front back : List UInt8) :
    cursor.records ending (front ++ back) =
      cursor.found front ++ (cursor.after front).records ending back := by
  induction front generalizing cursor with
  | nil => rfl
  | cons byte rest ih =>
    rw [List.cons_append, records_cons, ih, found, after_cons,
      List.append_assoc]

/-- Absorbed bytes complete no record and leave the open one where it
began. -/
theorem after_of_absorb?
    {cursor : Cursor} {bytes : List UInt8} {scan : Scan}
    (absorbed : cursor.scan.absorb? bytes = some scan) :
    cursor.found bytes = [] ∧ (cursor.after bytes).start = cursor.start ∧
      (cursor.after bytes).scan = scan := by
  induction bytes generalizing cursor with
  | nil =>
    cases absorbed
    exact ⟨rfl, rfl, rfl⟩
  | cons byte rest ih =>
    cases advance : cursor.scan.step byte with
    | more middle =>
      rw [Scan.absorb?_cons_of_more advance] at absorbed
      have onward : cursor.next byte =
          ⟨cursor.start, cursor.here.past byte, middle⟩ := by
        simp only [next, advance]
      have unfound : cursor.found? byte = none := by
        simp only [found?, advance]
      have absorbedRest : (cursor.next byte).scan.absorb? rest = some scan := by
        rw [onward]
        exact absorbed
      obtain ⟨unfoundRest, sameStart, scanned⟩ := ih absorbedRest
      refine ⟨?_, ?_, scanned⟩
      · rw [found, unfound, unfoundRest]
        rfl
      · rw [after_cons, sameStart, onward]
    | record fields =>
      simp only [Scan.absorb?, advance, reduceCtorEq] at absorbed

/-- A byte that completes a record is followed by the search for the next. -/
theorem records_cons_of_record
    {cursor : Cursor} {byte : UInt8} {fields : List Field}
    (complete : cursor.scan.step byte = .record fields)
    (ending : Ending) (rest : List UInt8) :
    cursor.records ending (byte :: rest) =
      ⟨cursor.start, fields⟩ ::
        (ofPosition (cursor.here.past byte).nextRecord).records ending
          rest := by
  rw [records_cons]
  simp only [found?, next, complete, Option.toList_some, List.singleton_append]

end Cursor

/-- The cursor before the first byte of the table. -/
def Source.cursor (source : Source) : Cursor :=
  ⟨.start, source.bodyStart, .start⟩

theorem Source.records_eq (source : Source) :
    source.records = source.cursor.records source.ending source.body := rfl

end Csv
end Deliveries
