import Deliveries.Criteria
import Deliveries.Dataset.Reading
import Deliveries.Datetime.Written
import Deliveries.Log.Level
import Deliveries.Text.Quoted

/-!
# Events

What a run tells about itself, as data: every event has a level, a target that
names the part of the program it comes from, a message and named values.  A
line of the log shows them in this order.
-/

namespace Deliveries
namespace Log

/-- What a run tells about itself. -/
inductive Event where
  | started
  | unopened (path : String) (cause : Refusal)
  | skipped (skip : Skip)
  | loaded (rows columns : Nat)
  | inputLoaded (file : String) (rows : Nat)
  | filtering (criteria : Criteria)
  | copying
  | emptyRange (earliest latest : Datetime)
  | filtered (kept total : Nat)
  | finished (written : Nat)
  | failed (fault : Fault)
deriving DecidableEq

/-- The text of a part of a criteria that may be missing. -/
def optionText {α : Type} (text : α -> String) : Option α -> String
  | none => "None"
  | some value => "Some(" ++ text value ++ ")"

/-- The text of a criteria. -/
def criteriaText (criteria : Criteria) : String :=
  "FilterCriteria \x7b district: " ++
    optionText Text.quoted criteria.district ++
    ", from: " ++ optionText Datetime.compactText criteria.earliest ++
    ", to: " ++ optionText Datetime.compactText criteria.latest ++ " \x7d"

namespace Event

/-- The level of an event. -/
def level : Event -> Level
  | .started => .info
  | .unopened _ _ => .debug
  | .skipped _ => .warn
  | .loaded _ _ => .debug
  | .inputLoaded _ _ => .info
  | .filtering _ => .info
  | .copying => .debug
  | .emptyRange _ _ => .warn
  | .filtered _ _ => .debug
  | .finished _ => .info
  | .failed _ => .error

/-- The part of the program that an event comes from. -/
def target : Event -> String
  | .unopened _ _ | .skipped _ | .loaded _ _ => "delivery_filter::read"
  | .copying | .emptyRange _ _ | .filtered _ _ => "delivery_filter::filter"
  | .started | .inputLoaded _ _ | .filtering _ | .finished _ | .failed _ =>
    "delivery_filter"

/-- The message of an event. -/
def message : Event -> String
  | .started => "Program starts"
  | .unopened _ _ => "Cannot open input"
  | .skipped _ => "Skipping row with wrong number of fields"
  | .loaded _ _ => "Dataset loaded"
  | .inputLoaded _ _ => "Input loaded"
  | .filtering _ => "Filtering"
  | .copying => "No filter given, copying every row"
  | .emptyRange _ _ => "Datetime range is empty, no row can match"
  | .filtered _ _ => "Rows filtered"
  | .finished _ => "Done"
  | .failed _ => "Get failed"

/-- The named values of an event, in order. -/
def values : Event -> List (String × String)
  | .started | .copying => []
  | .unopened path cause => [("path", path), ("error", cause.message)]
  | .skipped skip =>
    [("line", toString skip.line), ("expected", toString skip.expected),
      ("found", toString skip.found)]
  | .loaded rows columns =>
    [("rows", toString rows), ("columns", toString columns)]
  | .inputLoaded file rows => [("file", file), ("rows", toString rows)]
  | .filtering criteria => [("criteria", criteriaText criteria)]
  | .emptyRange earliest latest =>
    [("from", earliest.text), ("to", latest.text)]
  | .filtered kept total =>
    [("kept", toString kept), ("total", toString total)]
  | .finished written => [("written", toString written)]
  | .failed fault => [("error", fault.message)]

/-- The names under which an event can be asked for its contents. -/
def fieldNames (event : Event) : List String :=
  "message" :: event.values.map (·.1)

/-- The message and the values of an event. -/
def body (event : Event) : String :=
  event.values.foldl
    (fun text value => text ++ " " ++ value.1 ++ "=" ++ value.2)
    event.message

/-- The line of an event on the console. -/
def consoleLine (event : Event) : String :=
  event.level.label ++ " " ++ event.body

/-- The line of an event in a log file, which also shows the target. -/
def fileLine (event : Event) : String :=
  event.level.label ++ " " ++ event.target ++ ": " ++ event.body

end Event

end Log
end Deliveries
