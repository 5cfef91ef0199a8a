import Deliveries.Criteria
import Deliveries.Dataset.Reading
import Deliveries.Dataset.Writing

/-!
# Extracts

An extract is what the program makes of the bytes of a table: the rows that a
criteria keeps, written as a table again.
-/

namespace Deliveries
namespace Dataset

/-- Reads a table, keeps the rows of a criteria and writes them. -/
def extract (criteria : Criteria) (bytes : List UInt8) :
    Except Fault (List UInt8) := do
  let dataset ← (read (.ofBytes bytes)).result
  let kept ← dataset.filter criteria
  kept.write none

end Dataset
end Deliveries
