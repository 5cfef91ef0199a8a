import Deliveries.Datetime.Basic
import Deliveries.Text.Blank
import Deliveries.Text.Decimal

/-!
# Reading datetimes

A datetime is read by one of two layouts: year, month, day, hour and minute,
with or without a second.  Blanks may stand before every number, and any number
of them, none included, between day and hour.  A number takes as many digits as
it may, so a day of one digit needs a blank after it.
-/

namespace Deliveries
namespace Datetime

open Text

/-- A layout ends with the minute or with the second. -/
inductive Layout where
  | minutes
  | seconds
deriving DecidableEq

/-- Reads a year: up to four digits, or a sign and any number of digits. -/
def year? (text : List Char) : Option (Int × List Char) :=
  match skipBlanks text with
  | '-' :: rest =>
    (Decimal.number? rest.length rest).map
      fun (number, after) => (-(number : Int), after)
  | '+' :: rest =>
    (Decimal.number? rest.length rest).map
      fun (number, after) => ((number : Int), after)
  | rest =>
    (Decimal.number? 4 rest).map
      fun (number, after) => ((number : Int), after)

/-- Reads a number of one or two digits. -/
def component? (text : List Char) : Option (Nat × List Char) :=
  Decimal.number? 2 (skipBlanks text)

/-- Reads one given character. -/
def literal? (expected : Char) : List Char -> Option (List Char)
  | [] => none
  | character :: rest => if character = expected then some rest else none

/-- Reads a number of one or two digits after a given character. -/
def componentAfter? (expected : Char) (text : List Char) :
    Option (Nat × List Char) :=
  (literal? expected text).bind component?

/-- Reads what the layout has after the minute: the second, or nothing for
second 0. -/
def Layout.second? (layout : Layout) (text : List Char) :
    Option (Nat × List Char) :=
  match layout with
  | .minutes => some (0, text)
  | .seconds => componentAfter? ':' text

/-- Reads a whole text by one layout. -/
def Layout.parse? (layout : Layout) (text : List Char) : Option Datetime := do
  let (year, rest) ← year? text
  let (month, rest) ← componentAfter? '-' rest
  let (day, rest) ← componentAfter? '-' rest
  let (hour, rest) ← component? rest
  let (minute, rest) ← componentAfter? ':' rest
  let (second, rest) ← layout.second? rest
  if rest.isEmpty then
    ofParts? year month day hour minute second
  else
    none

/-- Reads a datetime, with a second or without. -/
def parse? (text : String) : Option Datetime :=
  Layout.seconds.parse? text.toList <|> Layout.minutes.parse? text.toList

end Datetime
end Deliveries
