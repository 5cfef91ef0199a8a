import Deliveries.Fault

/-!
# Datasets

A dataset is a table held in memory: a header, the positions of the two columns
that decide about rows, and the rows as they were read.
-/

namespace Deliveries

/-- The positions of the columns that decide about a row. -/
structure Columns where
  district : Nat
  datetime : Nat
deriving DecidableEq

/-- A row with the line on which the search for it began, 0 when unknown. -/
structure Row where
  line : Nat
  fields : List String
deriving DecidableEq

/-- A table with its columns located. -/
structure Dataset where
  header : List String
  columns : Columns
  rows : List Row
deriving DecidableEq

namespace Columns

/-- The names that a header must have, in any order. -/
def required : List String := ["Id", "District", "Datetime", "Weight"]

/-- Finds the first columns named `District` and `Datetime` in a header that
has all required names. -/
def locate (header : List String) : Except Fault Columns :=
  if ∀ name ∈ required, name ∈ header then
    .ok ⟨header.idxOf "District", header.idxOf "Datetime"⟩
  else
    .error .missingColumns

theorem locate_eq_ok_iff (header : List String) (columns : Columns) :
    locate header = .ok columns ↔
      (∀ name ∈ required, name ∈ header) ∧
        columns = ⟨header.idxOf "District", header.idxOf "Datetime"⟩ := by
  unfold locate
  split
  · next complete =>
    simp only [Except.ok.injEq]
    exact ⟨fun equal => ⟨complete, equal.symm⟩, fun both => both.2.symm⟩
  · next incomplete =>
    exact ⟨nofun, fun both => absurd both.1 incomplete⟩

theorem locate_eq_error_iff (header : List String) (fault : Fault) :
    locate header = .error fault ↔
      ¬ (∀ name ∈ required, name ∈ header) ∧ fault = .missingColumns := by
  unfold locate
  split
  · next complete =>
    exact ⟨nofun, fun both => absurd complete both.1⟩
  · next incomplete =>
    simp only [Except.error.injEq]
    exact ⟨fun equal => ⟨incomplete, equal.symm⟩, fun both => both.2.symm⟩

end Columns

namespace Row

/-- The district of a row; a row may lack the column. -/
def district? (row : Row) (columns : Columns) : Option String :=
  row.fields[columns.district]?

/-- The datetime text of a row; a row may lack the column. -/
def datetime? (row : Row) (columns : Columns) : Option String :=
  row.fields[columns.datetime]?

end Row

namespace Dataset

/-- Two datasets hold the same table when they agree but for the lines of
their rows. -/
def sameTable (left right : Dataset) : Bool :=
  left.header == right.header && left.columns == right.columns &&
    left.rows.map (·.fields) == right.rows.map (·.fields)

end Dataset
end Deliveries
