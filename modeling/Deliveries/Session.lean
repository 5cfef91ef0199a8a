import Deliveries.Criteria
import Deliveries.Dataset.Reading
import Deliveries.Dataset.Writing

/-!
# Sessions

A session starts from a dataset and changes it step by step: it can be
filtered, written, read back from its own written form, compared with the
dataset it started from and reset to it.  A step that ends in a fault leaves
the dataset as it was.
-/

namespace Deliveries

/-- The dataset that a session started from and the one it has now. -/
structure Session where
  first : Dataset
  current : Dataset
deriving DecidableEq

namespace Session

/-- What a session can be told to do. -/
inductive Step where
  | filter (criteria : Criteria)
  | write (room : Option Nat)
  | reread
  | compare
  | reset
deriving DecidableEq

/-- What a step has to tell. -/
inductive Answer where
  /-- the rows kept, and the bounds if no datetime lies between them -/
  | filtered (rows : List Row) (emptyRange : Option (Datetime × Datetime))
  | written (bytes : List UInt8)
  | reread (dataset : Dataset) (skips : List Skip)
  | compared (same : Bool)
  | reset (rows : List Row)
  | failed (fault : Fault)
deriving DecidableEq

/-- A session at its start. -/
def ofDataset (dataset : Dataset) : Session := ⟨dataset, dataset⟩

/-- The dataset that reading one's own written form gives. -/
def reread (dataset : Dataset) : Reading Dataset :=
  match dataset.write none with
  | .error fault => .fail fault
  | .ok bytes => Dataset.read (.ofBytes bytes)

/-- Takes one step. -/
def step (session : Session) : Step -> Session × Answer
  | .filter criteria =>
    match session.current.filter criteria with
    | .error fault => (session, .failed fault)
    | .ok dataset =>
      ({ session with current := dataset },
        .filtered dataset.rows criteria.emptyRange?)
  | .write room =>
    match session.current.write room with
    | .error fault => (session, .failed fault)
    | .ok bytes => (session, .written bytes)
  | .reread =>
    let reading := reread session.current
    match reading.result with
    | .error fault => (session, .failed fault)
    | .ok dataset =>
      ({ session with current := dataset }, .reread dataset reading.skips)
  | .compare =>
    (session, .compared (session.current.sameTable session.first))
  | .reset =>
    ({ session with current := session.first }, .reset session.first.rows)

/-- Takes steps one after the other and collects their answers. -/
def run (session : Session) : List Step -> Session × List Answer
  | [] => (session, [])
  | step :: rest =>
    let (next, answer) := session.step step
    let (last, answers) := next.run rest
    (last, answer :: answers)

end Session
end Deliveries
