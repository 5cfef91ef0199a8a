import Deliveries.Csv.Sink
import Deliveries.Files

/-!
# Faults

A fault ends a run: the input is missing, is no table or lacks a column, a
datetime cannot be read, or the output cannot be written.  The texts of all
faults are here.
-/

namespace Deliveries

/-- Why a source is no table of text. -/
inductive InputFault where
  /-- a field that is no text, with the length of its leading part that is -/
  | notText (record : Csv.Position) (field : Nat) (validLength : Nat)
  /-- the source broke off -/
  | broken (reason : String)
deriving DecidableEq

/-- Why a table cannot be put where it should go: it cannot be written as one,
the output cannot be opened, or it does not take the bytes. -/
inductive OutputFault where
  | writing (cause : Csv.WriteFault)
  | opening (cause : Refusal)
  | refused (cause : Refusal)
deriving DecidableEq

/-- Why a run ends without a result. -/
inductive Fault where
  | fileNotFound (path : String)
  | missingColumns
  | badDatetime (line : Nat) (value : String)
  | output (cause : OutputFault)
  | input (cause : InputFault)
deriving DecidableEq

/-- The text of a cause on the input's side. -/
def InputFault.message : InputFault -> String
  | .notText record field validLength =>
    "CSV parse error: record " ++ toString record.record ++
      " (line " ++ toString record.line ++
      ", field: " ++ toString field ++
      ", byte: " ++ toString record.byte ++
      "): invalid utf-8: invalid UTF-8 in field " ++ toString field ++
      " near byte index " ++ toString validLength
  | .broken reason => reason

/-- The text of a cause on the output's side. -/
def OutputFault.message : OutputFault -> String
  | .writing (.fieldCount found expected) =>
    "CSV error: found record with " ++ toString found ++
      " fields, but the previous record has " ++ toString expected ++ " fields"
  | .writing .noRoom => "write failure"
  | .opening cause => cause.message
  | .refused cause => cause.message

/-- The text of a fault. -/
def Fault.message : Fault -> String
  | .fileNotFound path => "File '" ++ path ++ "' not found"
  | .missingColumns => "CSV does not have required columns"
  | .badDatetime line value =>
    "Invalid datetime '" ++ value ++ "' on line " ++ toString line ++
      ", expected YYYY-MM-DD HH:MM[:SS]"
  | .output cause => "Cannot write output: " ++ cause.message
  | .input cause => "Malformed CSV input: " ++ cause.message

end Deliveries
