import Deliveries.Calendar

/-!
# Datetimes

A datetime is a day of the Gregorian calendar and a time of day to the second,
without a time zone.  A minute may have a leap second, numbered 60: it comes
after second 59 and before the next minute.  Datetimes are ordered by `rank`,
which orders the components from the year down.
-/

namespace Deliveries

/-- The first year that a datetime can have. -/
def Datetime.firstYear : Int := -262143

/-- The last year that a datetime can have. -/
def Datetime.lastYear : Int := 262142

/-- A day and a time of day whose components are all in their ranges. -/
structure Datetime where
  year : Int
  month : Nat
  day : Nat
  hour : Nat
  minute : Nat
  second : Nat
  year_mem : Datetime.firstYear ≤ year ∧ year ≤ Datetime.lastYear
  month_mem : 1 ≤ month ∧ month ≤ 12
  day_mem : 1 ≤ day ∧ day ≤ Calendar.daysIn year month
  hour_lt : hour < 24
  minute_lt : minute < 60
  second_le : second ≤ 60
deriving DecidableEq

namespace Datetime

/-- The datetime of six components, when each is in its range. -/
def ofParts? (year : Int) (month day hour minute second : Nat) :
    Option Datetime :=
  if inRange : (firstYear ≤ year ∧ year ≤ lastYear) ∧
      (1 ≤ month ∧ month ≤ 12) ∧
      (1 ≤ day ∧ day ≤ Calendar.daysIn year month) ∧
      hour < 24 ∧ minute < 60 ∧ second ≤ 60 then
    some
      { year, month, day, hour, minute, second
        year_mem := inRange.1
        month_mem := inRange.2.1
        day_mem := inRange.2.2.1
        hour_lt := inRange.2.2.2.1
        minute_lt := inRange.2.2.2.2.1
        second_le := inRange.2.2.2.2.2 }
  else
    none

/-- A datetime is what its own components make. -/
@[simp] theorem ofParts?_parts (datetime : Datetime) :
    ofParts? datetime.year datetime.month datetime.day datetime.hour
        datetime.minute datetime.second = some datetime := by
  unfold ofParts?
  rw [dif_pos ⟨datetime.year_mem, datetime.month_mem, datetime.day_mem,
    datetime.hour_lt, datetime.minute_lt, datetime.second_le⟩]

theorem parts_of_ofParts?
    {year : Int} {month day hour minute second : Nat} {datetime : Datetime}
    (made : ofParts? year month day hour minute second = some datetime) :
    datetime.year = year ∧ datetime.month = month ∧ datetime.day = day ∧
      datetime.hour = hour ∧ datetime.minute = minute ∧
      datetime.second = second := by
  unfold ofParts? at made
  split at made
  · cases made
    exact ⟨rfl, rfl, rfl, rfl, rfl, rfl⟩
  · cases made

/-! ## Order -/

/-- The place of a datetime in time: the components are digits of a number
whose bases leave room for each of them. -/
def rank (datetime : Datetime) : Int :=
  ((((datetime.year * 13 + datetime.month) * 32 + datetime.day) * 24 +
    datetime.hour) * 60 + datetime.minute) * 61 + datetime.second

instance : LE Datetime := ⟨fun left right => left.rank ≤ right.rank⟩

instance : LT Datetime := ⟨fun left right => left.rank < right.rank⟩

instance (left right : Datetime) : Decidable (left ≤ right) :=
  inferInstanceAs (Decidable (left.rank ≤ right.rank))

instance (left right : Datetime) : Decidable (left < right) :=
  inferInstanceAs (Decidable (left.rank < right.rank))

theorem le_def {left right : Datetime} :
    left ≤ right ↔ left.rank ≤ right.rank := Iff.rfl

theorem lt_def {left right : Datetime} :
    left < right ↔ left.rank < right.rank := Iff.rfl

/-- Two datetimes of one rank are the same. -/
theorem rank_injective {left right : Datetime}
    (equal : left.rank = right.rank) : left = right := by
  have leftDay := Calendar.daysIn_le left.year left.month
  have rightDay := Calendar.daysIn_le right.year right.month
  obtain ⟨_, _, _, _, _, _, _, _, _, _, _, _⟩ := left
  obtain ⟨_, _, _, _, _, _, _, _, _, _, _, _⟩ := right
  simp only [rank] at *
  simp only [mk.injEq]
  omega

/-- The later of two datetimes. -/
def later (left right : Datetime) : Datetime :=
  if left ≤ right then right else left

/-- The earlier of two datetimes. -/
def earlier (left right : Datetime) : Datetime :=
  if left ≤ right then left else right

end Datetime
end Deliveries
