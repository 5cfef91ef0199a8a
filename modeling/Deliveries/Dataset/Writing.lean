import Deliveries.Datetime.Reading
import Deliveries.Datetime.Written
import Deliveries.Dataset.Basic

/-!
# Writing datasets

A dataset is written as its header and its rows.  In every row a datetime that
can be read is written in its canonical text; any other text stays as it is.
-/

namespace Deliveries

/-- The canonical text of a datetime, or the text itself if it is none. -/
def Datetime.normalize (text : String) : String :=
  match Datetime.parse? text with
  | some datetime => datetime.text
  | none => text

/-- The fields of a row as they are written. -/
def Row.normalized (columns : Columns) (row : Row) : List String :=
  row.fields.modify columns.datetime Datetime.normalize

@[simp] theorem Row.length_normalized (columns : Columns) (row : Row) :
    (row.normalized columns).length = row.fields.length := by
  simp [Row.normalized]

namespace Dataset

/-- The records of a dataset after the header, as they are written. -/
def writtenRows (dataset : Dataset) : List (List String) :=
  dataset.rows.map (·.normalized dataset.columns)

/-- Writes a dataset into a sink with the given room. -/
def write (room : Option Nat) (dataset : Dataset) :
    Except Fault (List UInt8) :=
  (Csv.write room (dataset.header.map Text.bytesOf)
      (dataset.writtenRows.map (·.map Text.bytesOf))).mapError
    fun cause => .output (.writing cause)

end Dataset
end Deliveries
