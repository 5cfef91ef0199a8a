import Deliveries.Csv.Scanner

/-!
# Sources of tables

A source serves bytes and then either ends or breaks off.  The byte order mark
at its very start is no part of the table, but counts in byte positions.
-/

namespace Deliveries
namespace Csv

/-- The bytes that a source serves and how they end. -/
structure Source where
  bytes : List UInt8
  ending : Ending
deriving DecidableEq

/-- The byte order mark. -/
def mark : List UInt8 := [0xEF, 0xBB, 0xBF]

namespace Source

/-- The source of a complete list of bytes. -/
def ofBytes (bytes : List UInt8) : Source := ⟨bytes, .complete⟩

/-- Why a source that was cut off cannot be read on. -/
def readFailure : String := "read failure"

/-- The source that serves at most `length` of the bytes and then breaks
off. -/
def cut (length : Nat) (bytes : List UInt8) : Source :=
  ⟨bytes.take length, .broken readFailure⟩

/-- The bytes of the table, after the mark if there is one. -/
def body (source : Source) : List UInt8 :=
  match source.bytes with
  | 0xEF :: 0xBB :: 0xBF :: rest => rest
  | bytes => bytes

/-- The place at which the bytes of the table begin. -/
def bodyStart (source : Source) : Position :=
  match source.bytes with
  | 0xEF :: 0xBB :: 0xBF :: _ => ⟨1, 3, 0⟩
  | _ => .start

/-- The records of a source, in order.  The search for the first one begins
before the mark. -/
def records (source : Source) : List Record :=
  scanFrom source.ending .start source.bodyStart .start source.body

/-- The reason that looking for a record after the last one meets, if the source
breaks off.  A source of the mark alone is taken as ended when the mark has been
dropped. -/
def breakReason? (source : Source) : Option String :=
  match source.ending with
  | .complete => none
  | .broken reason => if source.bytes = mark then none else some reason

end Source

end Csv
end Deliveries
