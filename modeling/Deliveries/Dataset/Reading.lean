import Deliveries.Csv.Source
import Deliveries.Dataset.Basic

/-!
# Reading datasets

The first record of a source is the header.  It must be text and have the
required columns, which is settled before anything after it is looked at.  Every
later record must be text.  A record as long as the header becomes a row, any
other is skipped, and what was skipped is told in order even when reading ends
in a fault.
-/

namespace Deliveries

/-- A record that was skipped for its number of fields. -/
structure Skip where
  line : Nat
  expected : Nat
  found : Nat
deriving DecidableEq

/-- What reading gives: the records it skipped until it ended, and a result. -/
structure Reading (α : Type) where
  skips : List Skip
  result : Except Fault α

namespace Reading

/-- Ends reading at once. -/
def fail {α : Type} (fault : Fault) : Reading α := ⟨[], .error fault⟩

/-- Changes what is read. -/
def map {α β : Type} (change : α -> β) (reading : Reading α) : Reading β :=
  ⟨reading.skips, reading.result.map change⟩

/-- Puts a skipped record before the others. -/
def skipping {α : Type} (skip : Skip) (reading : Reading α) : Reading α :=
  { reading with skips := skip :: reading.skips }

end Reading

namespace Csv.Record

/-- The texts of fields counted from `field`, or the first one that is no
text. -/
def textsFrom (start : Position) (field : Nat) :
    List Field -> Except InputFault (List String)
  | [] => .ok []
  | bytes :: rest =>
    match Text.ofBytes bytes with
    | .error validLength => .error (.notText start field validLength)
    | .ok text => (textsFrom start (field + 1) rest).map (text :: ·)

/-- The texts of the fields of a record, or the first one that is no text. -/
def texts (record : Record) : Except InputFault (List String) :=
  textsFrom record.start 0 record.fields

end Csv.Record

namespace Dataset

/-- Reads the records after the header, of which rows have `width` fields.
After them the source has ended, or breaks off for a reason. -/
def readRows (width : Nat) (reason? : Option String) :
    List Csv.Record -> Reading (List Row)
  | [] =>
    match reason? with
    | none => ⟨[], .ok []⟩
    | some reason => .fail (.input (.broken reason))
  | record :: rest =>
    match record.texts with
    | .error cause => .fail (.input cause)
    | .ok fields =>
      if fields.length = width then
        (readRows width reason? rest).map (⟨record.start.line, fields⟩ :: ·)
      else
        (readRows width reason? rest).skipping
          ⟨record.start.line, width, fields.length⟩

/-- Reads a dataset from records.  Without any record the header is empty. -/
def readRecords (reason? : Option String) :
    List Csv.Record -> Reading Dataset
  | [] =>
    match reason? with
    | none => .fail .missingColumns
    | some reason => .fail (.input (.broken reason))
  | record :: rest =>
    match record.texts with
    | .error cause => .fail (.input cause)
    | .ok header =>
      match Columns.locate header with
      | .error fault => .fail fault
      | .ok columns =>
        (readRows header.length reason? rest).map
          fun rows => ⟨header, columns, rows⟩

/-- Reads a dataset from a source. -/
def read (source : Csv.Source) : Reading Dataset :=
  readRecords source.breakReason? source.records

end Dataset
end Deliveries
