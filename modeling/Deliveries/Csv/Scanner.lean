import Deliveries.Csv.Basic

/-!
# Scanning records

The scanner takes a table one byte at a time.  It skips line breaks before a
record, so empty lines are no records; it keeps a quote inside a bare field;
and after a closing quote it keeps the rest of the field as it stands.  Every
record carries the position at which the scanner began to look for it, which is
the place after the byte that ended the record before.
-/

namespace Deliveries
namespace Csv

/-- Where the next byte stands in its record. -/
inductive Mode where
  /-- before the first byte of a record -/
  | atRecord
  /-- right after a comma -/
  | atField
  /-- in a field, outside quotes -/
  | bare
  /-- in a field, inside quotes -/
  | quoted
  /-- after a quote inside quotes, which closes them unless it is doubled -/
  | quoteSeen
deriving DecidableEq

/-- The record begun so far.  Both lists hold their last element first. -/
structure Scan where
  mode : Mode
  field : List UInt8
  fields : List Field
deriving DecidableEq

/-- What one byte does to a scan. -/
inductive Advance where
  | more (scan : Scan)
  | record (fields : List Field)
deriving DecidableEq

namespace Scan

/-- Nothing of a record has been seen. -/
def start : Scan := ⟨.atRecord, [], []⟩

/-- Adds a byte to the open field. -/
def keep (byte : UInt8) (mode : Mode) (scan : Scan) : Scan :=
  ⟨mode, byte :: scan.field, scan.fields⟩

/-- Closes the open field at a comma. -/
def endField (scan : Scan) : Scan :=
  ⟨.atField, [], scan.field.reverse :: scan.fields⟩

/-- The fields of the record when it ends here. -/
def closed (scan : Scan) : List Field :=
  (scan.field.reverse :: scan.fields).reverse

/-- Takes a quote: it opens a quoted field, closes one, or is kept. -/
def takeQuote (scan : Scan) : Scan :=
  match scan.mode with
  | .atRecord | .atField => { scan with mode := .quoted }
  | .bare => scan.keep quote .bare
  | .quoted => { scan with mode := .quoteSeen }
  | .quoteSeen => scan.keep quote .quoted

/-- Takes one byte. -/
def step (scan : Scan) (byte : UInt8) : Advance :=
  if byte = quote then
    .more scan.takeQuote
  else if scan.mode = .quoted then
    .more (scan.keep byte .quoted)
  else if byte = comma then
    .more scan.endField
  else if isBreak byte then
    if scan.mode = .atRecord then .more scan else .record scan.closed
  else
    .more (scan.keep byte .bare)

/-- The record that the end of the source completes, if one has begun. -/
def finish? (scan : Scan) : Option (List Field) :=
  if scan.mode = .atRecord then none else some scan.closed

end Scan

/-- A record with the position at which the scanner began to look for it. -/
structure Record where
  start : Position
  fields : List Field
deriving DecidableEq

/-- How the bytes of a source end: there are no more, or they cannot be read for
a reason. -/
inductive Ending where
  | complete
  | broken (reason : String)
deriving DecidableEq

/-- The records of the remaining bytes.  Here `start` is where the search for
the open record began and `here` where the remaining bytes begin.  A source
that breaks off completes no further record. -/
def scanFrom (ending : Ending) (start here : Position) (scan : Scan) :
    List UInt8 -> List Record
  | [] =>
    match ending, scan.finish? with
    | .complete, some fields => [⟨start, fields⟩]
    | _, _ => []
  | byte :: rest =>
    match scan.step byte with
    | .more scan => scanFrom ending start (here.past byte) scan rest
    | .record fields =>
      let next := (here.past byte).nextRecord
      ⟨start, fields⟩ :: scanFrom ending next next .start rest

end Csv
end Deliveries
