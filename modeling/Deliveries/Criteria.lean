import Deliveries.Datetime.Reading
import Deliveries.Dataset.Basic

/-!
# Criteria

A criteria asks for a district, for datetimes from an earliest to a latest one,
or for both.  The district is looked at first: the datetime of a row is read
only if a bound is given and the row has passed the district, so that a bad
datetime in another district does no harm.
-/

namespace Deliveries

/-- What a row must satisfy.  A missing part asks for nothing, and both bounds
are inclusive. -/
structure Criteria where
  district : Option String
  earliest : Option Datetime
  latest : Option Datetime
deriving DecidableEq

namespace Criteria

/-- The criteria that asks for nothing. -/
def any : Criteria := ⟨none, none, none⟩

/-- Whether a bound is given. -/
def hasRange (criteria : Criteria) : Bool :=
  criteria.earliest.isSome || criteria.latest.isSome

/-- Whether nothing is asked for. -/
def isEmpty (criteria : Criteria) : Bool :=
  criteria.district.isNone && !criteria.hasRange

/-- Whether a district is the one asked for.  A missing one is never. -/
def admitsDistrict (criteria : Criteria) (district : Option String) : Bool :=
  match criteria.district with
  | none => true
  | some wanted => district == some wanted

/-- Whether a datetime lies between the bounds. -/
def admitsDatetime (criteria : Criteria) (datetime : Datetime) : Bool :=
  criteria.earliest.all (fun earliest => decide (earliest ≤ datetime)) &&
    criteria.latest.all (fun latest => decide (datetime ≤ latest))

/-- Whether a row is kept, or the fault of a datetime that cannot be read.  A
missing datetime reads as the empty text. -/
def keeps (criteria : Criteria) (columns : Columns) (row : Row) :
    Except Fault Bool :=
  if criteria.admitsDistrict (row.district? columns) then
    if criteria.hasRange then
      let value := (row.datetime? columns).getD ""
      match Datetime.parse? value with
      | some datetime => .ok (criteria.admitsDatetime datetime)
      | none => .error (.badDatetime row.line value)
    else
      .ok true
  else
    .ok false

/-- The bounds of a range that holds no datetime. -/
def emptyRange? (criteria : Criteria) : Option (Datetime × Datetime) :=
  match criteria.earliest, criteria.latest with
  | some earliest, some latest =>
    if latest < earliest then some (earliest, latest) else none
  | _, _ => none

/-- The criteria that asks for what both ask for, when their districts do not
contradict each other: the district of either, the later of the earliest
datetimes and the earlier of the latest ones. -/
def meet (left right : Criteria) : Criteria where
  district := left.district <|> right.district
  earliest := Option.merge Datetime.later left.earliest right.earliest
  latest := Option.merge Datetime.earlier left.latest right.latest

/-- The rows that a criteria keeps, up to the first fault. -/
def select (criteria : Criteria) (columns : Columns) :
    List Row -> Except Fault (List Row)
  | [] => .ok []
  | row :: rest => do
    let kept ← criteria.keeps columns row
    let others ← criteria.select columns rest
    return if kept then row :: others else others

end Criteria

namespace Dataset

/-- The dataset of the rows that a criteria keeps. -/
def filter (criteria : Criteria) (dataset : Dataset) : Except Fault Dataset :=
  if criteria.isEmpty then
    .ok dataset
  else
    (criteria.select dataset.columns dataset.rows).map
      fun rows => { dataset with rows := rows }

end Dataset
end Deliveries
