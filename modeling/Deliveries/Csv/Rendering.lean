import Deliveries.Csv.Basic

/-!
# Rendering records

A field is quoted exactly when it holds a comma, a quote or a line break, and
its quotes are doubled.  A line feed ends every record.  A record that would be
an empty line is written as a pair of quotes, so that it is not skipped when it
is read back.
-/

namespace Deliveries
namespace Csv

/-- A field needs quotes when it holds a byte that is special outside them. -/
def needsQuotes (field : Field) : Bool :=
  field.any isSpecial

/-- A byte between quotes: a quote is doubled. -/
def escaped (byte : UInt8) : List UInt8 :=
  if byte = quote then [quote, quote] else [byte]

/-- The bytes of a field between quotes. -/
def quotedField (field : Field) : List UInt8 :=
  quote :: field.flatMap escaped ++ [quote]

/-- The bytes of a field, with quotes only where they are needed. -/
def renderField (field : Field) : List UInt8 :=
  if needsQuotes field then quotedField field else field

/-- The bytes of the fields of a record with commas between them. -/
def renderFields : List Field -> List UInt8
  | [] => []
  | [field] => renderField field
  | field :: next :: rest =>
    renderField field ++ comma :: renderFields (next :: rest)

/-- The bytes of a record with its line end. -/
def renderRecord (fields : List Field) : List UInt8 :=
  if renderFields fields = [] then
    [quote, quote, lineFeed]
  else
    renderFields fields ++ [lineFeed]

theorem renderField_eq_nil_iff (field : Field) :
    renderField field = [] ↔ field = [] := by
  cases field with
  | nil => simp [renderField, needsQuotes]
  | cons byte rest =>
    unfold renderField
    split <;> simp [quotedField]

/-- A record is without bytes when it has no field, or one without bytes. -/
theorem renderFields_eq_nil_iff (fields : List Field) :
    renderFields fields = [] ↔ fields = [] ∨ fields = [[]] := by
  match fields with
  | [] => simp [renderFields]
  | [field] => simp [renderFields, renderField_eq_nil_iff]
  | field :: next :: rest => simp [renderFields]

/-- The bytes of a table. -/
def render (records : List (List Field)) : List UInt8 :=
  records.flatMap renderRecord

@[simp] theorem render_nil : render [] = [] := rfl

@[simp] theorem render_cons (fields : List Field)
    (records : List (List Field)) :
    render (fields :: records) = renderRecord fields ++ render records := rfl

@[simp] theorem render_append (front back : List (List Field)) :
    render (front ++ back) = render front ++ render back := by
  simp [render]

end Csv
end Deliveries
