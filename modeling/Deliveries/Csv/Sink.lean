import Deliveries.Csv.Rendering

/-!
# Writing through a buffer

Records are written through a buffer into a sink that may have room for only so
many bytes.  The sink is touched when the next piece does not fit the buffer,
and once more at the end.  All records must have as many fields as the first
one; that is checked when the fields of a record are in the buffer and its last
quote and line end are not.
-/

namespace Deliveries
namespace Csv

/-- Why a table cannot be written. -/
inductive WriteFault where
  /-- a record of another length than the first one -/
  | fieldCount (found expected : Nat)
  /-- the sink has no room for the bytes -/
  | noRoom
deriving DecidableEq

/-- How many bytes the buffer holds. -/
def bufferSize : Nat := 8192

/-- A sink with the bytes that it has taken and those that wait for it.  A
missing room is unlimited. -/
structure Sink where
  room : Option Nat
  taken : Array UInt8
  buffer : Array UInt8

namespace Sink

/-- A sink before the first byte. -/
def ofRoom (room : Option Nat) : Sink := ⟨room, #[], #[]⟩

/-- Whether a sink takes so many bytes in all. -/
def admits (sink : Sink) (size : Nat) : Bool :=
  match sink.room with
  | none => true
  | some room => decide (size ≤ room)

/-- Hands the buffer over to the sink. -/
def flush (sink : Sink) : Except WriteFault Sink :=
  if sink.admits (sink.taken.size + sink.buffer.size) then
    .ok { sink with taken := sink.taken ++ sink.buffer, buffer := #[] }
  else
    .error .noRoom

/-- Puts a piece of output into the buffer, which is handed over first when
the piece does not fit. -/
def put (sink : Sink) (piece : List UInt8) : Except WriteFault Sink :=
  if sink.buffer.size + piece.length ≤ bufferSize then
    .ok { sink with buffer := sink.buffer ++ piece }
  else
    sink.flush.map fun sink => { sink with buffer := sink.buffer ++ piece }

/-- Puts pieces one after the other. -/
def putAll (sink : Sink) : List (List UInt8) -> Except WriteFault Sink
  | [] => .ok sink
  | piece :: rest => do (← sink.put piece).putAll rest

end Sink

/-! ## Pieces -/

/-- The pieces of a field up to the quote that closes it. -/
def openingPieces (field : Field) : List (List UInt8) :=
  if needsQuotes field then
    [quote] :: field.map escaped
  else
    field.map fun byte => [byte]

/-- The quote that closes a field, if it needs one. -/
def closingPieces (field : Field) : List (List UInt8) :=
  if needsQuotes field then [[quote]] else []

/-- The pieces of a record up to the end of its last field. -/
def bodyPieces : List Field -> List (List UInt8)
  | [] => []
  | [field] => openingPieces field
  | field :: next :: rest =>
    openingPieces field ++ closingPieces field ++
      [comma] :: bodyPieces (next :: rest)

/-- The pieces that end a record: the last quote, or a pair of quotes for a
record without bytes, and the line end. -/
def endPieces (fields : List Field) : List (List UInt8) :=
  fields.getLast?.elim [] closingPieces ++
    (if bodyPieces fields = [] then [[quote, quote]] else []) ++ [[lineFeed]]

theorem flatten_openingPieces (field : Field) :
    (openingPieces field).flatten ++ (closingPieces field).flatten =
      renderField field := by
  unfold openingPieces closingPieces renderField quotedField
  split
  · simp [List.flatMap_def]
  · simp [← List.flatMap_def]

theorem openingPieces_eq_nil_iff (field : Field) :
    openingPieces field = [] ↔ field = [] := by
  cases field with
  | nil => simp [openingPieces, needsQuotes]
  | cons byte rest =>
    unfold openingPieces
    split <;> simp

theorem bodyPieces_eq_nil_iff (fields : List Field) :
    bodyPieces fields = [] ↔ fields = [] ∨ fields = [[]] := by
  match fields with
  | [] => simp [bodyPieces]
  | [field] => simp [bodyPieces, openingPieces_eq_nil_iff]
  | field :: next :: rest => simp [bodyPieces]

theorem flatten_bodyPieces (fields : List Field) :
    (bodyPieces fields).flatten ++
        (fields.getLast?.elim [] closingPieces).flatten =
      renderFields fields := by
  induction fields using bodyPieces.induct with
  | case1 => rfl
  | case2 field => simp [bodyPieces, renderFields, flatten_openingPieces]
  | case3 field next rest ih =>
    rw [List.getLast?_cons_cons, bodyPieces, renderFields, ← ih]
    simp [← flatten_openingPieces]

/-- The pieces of a record make up its rendering. -/
theorem flatten_pieces (fields : List Field) :
    (bodyPieces fields ++ endPieces fields).flatten = renderRecord fields := by
  by_cases blank : fields = [] ∨ fields = [[]]
  · rcases blank with rfl | rfl <;> rfl
  · have present : bodyPieces fields ≠ [] := fun absent =>
      blank ((bodyPieces_eq_nil_iff fields).mp absent)
    have written : renderFields fields ≠ [] := fun absent =>
      blank ((renderFields_eq_nil_iff fields).mp absent)
    rw [renderRecord, if_neg written, ← flatten_bodyPieces]
    simp [endPieces, present]

/-! ## Records -/

/-- Puts a record that must have `width` fields. -/
def Sink.putRecord (width : Nat) (sink : Sink) (fields : List Field) :
    Except WriteFault Sink := do
  let sink ← sink.putAll (bodyPieces fields)
  if fields.length = width then
    sink.putAll (endPieces fields)
  else
    throw (.fieldCount fields.length width)

/-- Puts records that must all have `width` fields. -/
def Sink.putRecords (width : Nat) (sink : Sink) :
    List (List Field) -> Except WriteFault Sink
  | [] => .ok sink
  | fields :: rest => do (← sink.putRecord width fields).putRecords width rest

/-- Writes a table whose first record is given, and returns the bytes that the
sink has taken. -/
def write (room : Option Nat) (first : List Field)
    (rest : List (List Field)) : Except WriteFault (List UInt8) := do
  let sink ← (Sink.ofRoom room).putRecords first.length (first :: rest)
  let sink ← sink.flush
  return sink.taken.toList

end Csv
end Deliveries
