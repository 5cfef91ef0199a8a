/-!
# The proleptic Gregorian calendar

The rule of leap years is carried back before its introduction, and the year
before 1 is 0.
-/

namespace Deliveries
namespace Calendar

/-- A year is a leap year when 4 divides it, unless 100 does and 400 does
not. -/
def isLeap (year : Int) : Bool :=
  decide (year % 4 = 0) &&
    (decide (year % 100 ≠ 0) || decide (year % 400 = 0))

/-- The number of days of a month, counted from 1. -/
def daysIn (year : Int) (month : Nat) : Nat :=
  if month = 2 then
    if isLeap year then 29 else 28
  else if month = 4 ∨ month = 6 ∨ month = 9 ∨ month = 11 then
    30
  else
    31

theorem daysIn_le (year : Int) (month : Nat) : daysIn year month ≤ 31 := by
  unfold daysIn
  split
  · split <;> decide
  · split <;> decide

end Calendar
end Deliveries
