import Deliveries.Datetime.Basic
import Deliveries.Text.Decimal

/-!
# Written datetimes

The canonical text of a datetime is `YYYY-MM-DD HH:MM:SS`.  A year outside
0 to 9999 has a sign and at least four digits.
-/

namespace Deliveries
namespace Datetime

open Text

/-- The text of a year: four digits, or a sign and at least four digits. -/
def yearText (year : Int) : List Char :=
  if year < 0 then
    '-' :: Decimal.padded 4 year.natAbs
  else if 9999 < year then
    '+' :: Decimal.padded 4 year.natAbs
  else
    Decimal.padded 4 year.natAbs

/-- The text of a datetime with the given character between day and time. -/
def textWith (separator : Char) (datetime : Datetime) : List Char :=
  yearText datetime.year ++
    '-' :: Decimal.padded 2 datetime.month ++
    '-' :: Decimal.padded 2 datetime.day ++
    separator :: Decimal.padded 2 datetime.hour ++
    ':' :: Decimal.padded 2 datetime.minute ++
    ':' :: Decimal.padded 2 datetime.second

/-- The canonical text of a datetime. -/
def text (datetime : Datetime) : String :=
  String.ofList (datetime.textWith ' ')

/-- The text of a datetime in the log's rendering of a criteria. -/
def compactText (datetime : Datetime) : String :=
  String.ofList (datetime.textWith 'T')

@[simp] theorem toList_text (datetime : Datetime) :
    datetime.text.toList = datetime.textWith ' ' := by
  simp [text]

end Datetime
end Deliveries
