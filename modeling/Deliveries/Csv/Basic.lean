/-!
# Delimited tables as bytes

A table is a list of records and a record a list of fields, each a list of
bytes.  Commas part the fields, line breaks part the records, and a field in
double quotes may hold either.
-/

namespace Deliveries
namespace Csv

/-- The bytes of one field, without the quotes around it. -/
abbrev Field := List UInt8

/-- The byte between two fields. -/
def comma : UInt8 := 0x2C

/-- The byte around a field that holds commas, quotes or line breaks. -/
def quote : UInt8 := 0x22

/-- The byte that ends a line. -/
def lineFeed : UInt8 := 0x0A

/-- The other byte that ends a record. -/
def carriageReturn : UInt8 := 0x0D

/-- A line feed and a carriage return each end a record. -/
def isBreak (byte : UInt8) : Bool :=
  byte == lineFeed || byte == carriageReturn

/-- The bytes that a field may only hold between quotes. -/
def isSpecial (byte : UInt8) : Bool :=
  byte == comma || byte == quote || isBreak byte

/-- A place in a source: the line, counted from 1, the number of bytes before
it and the number of records that ended before it. -/
structure Position where
  line : Nat
  byte : Nat
  record : Nat
deriving DecidableEq

namespace Position

/-- The place before the first byte. -/
def start : Position := ⟨1, 0, 0⟩

/-- The place after one more byte.  Only a line feed begins a new line. -/
def past (position : Position) (byte : UInt8) : Position :=
  { position with
    line := if byte = lineFeed then position.line + 1 else position.line
    byte := position.byte + 1 }

/-- The same place with one more record before it. -/
def nextRecord (position : Position) : Position :=
  { position with record := position.record + 1 }

end Position

end Csv
end Deliveries
