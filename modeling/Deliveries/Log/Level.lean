/-!
# Levels of events

Every event has a level, from errors to traces.  A threshold lets an event
pass when it is at most as detailed as the threshold, and without a level it
lets none pass.
-/

namespace Deliveries
namespace Log

/-- How detailed an event is. -/
inductive Level where
  | error
  | warn
  | info
  | debug
  | trace
deriving DecidableEq

namespace Level

/-- The number of a level: more detail, higher number. -/
def rank : Level -> Nat
  | .error => 1
  | .warn => 2
  | .info => 3
  | .debug => 4
  | .trace => 5

/-- The name of a level, in five columns. -/
def label : Level -> String
  | .error => "ERROR"
  | .warn => " WARN"
  | .info => " INFO"
  | .debug => "DEBUG"
  | .trace => "TRACE"

end Level

/-- The most detailed level that passes, if any does. -/
abbrev Threshold := Option Level

namespace Threshold

/-- Whether events of a level pass. -/
def admits (threshold : Threshold) (level : Level) : Bool :=
  match threshold with
  | none => false
  | some most => decide (level.rank ≤ most.rank)

/-- The threshold of a number. -/
def ofNumber? : Nat -> Option Threshold
  | 0 => some none
  | 1 => some (some .error)
  | 2 => some (some .warn)
  | 3 => some (some .info)
  | 4 => some (some .debug)
  | 5 => some (some .trace)
  | _ => none

/-- The thresholds by their names in small letters. -/
def named : List (List Char × Threshold) :=
  [("error".toList, some .error), ("warn".toList, some .warn),
    ("info".toList, some .info), ("debug".toList, some .debug),
    ("trace".toList, some .trace), ("off".toList, none)]

/-- Reads a number with an optional plus sign. -/
def number? (text : List Char) : Option Nat :=
  let digits :=
    match text with
    | '+' :: rest => rest
    | _ => text
  if digits.isEmpty || digits.any (fun character => !character.isDigit) then
    none
  else
    some (Nat.ofDigitChars 10 digits 0)

/-- Reads a threshold: a number, or a name in letters of any case. -/
def parse? (text : List Char) : Option Threshold :=
  match (number? text).bind ofNumber? with
  | some threshold => some threshold
  | none => named.lookup (text.map Char.toLower)

end Threshold

end Log
end Deliveries
