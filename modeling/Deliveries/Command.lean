import Deliveries.Criteria

/-!
# Commands

A command line asks to get deliveries: `get`, a file, and options for the
criteria, the output file and the log file.  An option is given at most once,
with its value in the next argument or after an equals sign.  After `--` an
argument is the file whatever it begins with.
-/

namespace Deliveries

/-- What is to be got, and where input, output and log are. -/
structure Request where
  file : String
  criteria : Criteria
  outfile : Option String
  logfile : Option String
deriving DecidableEq

/-- What a command line asks for. -/
inductive Command where
  | get (request : Request)
  | help
  | misuse
deriving DecidableEq

namespace Command

/-- How the program is called.  This line is made up here.  It stands for the
help that tells of every option, and for the text about an argument that is not
taken, both of which are left out. -/
def usage : String :=
  "Usage: delivery_filter get [--district NAME] [--from-datetime TIME] " ++
    "[--to-datetime TIME] [--outfile FILE] [--logfile FILE] FILE"

/-- The options of `get`. -/
inductive Flag where
  | district
  | earliest
  | latest
  | outfile
  | logfile
deriving DecidableEq

/-- The option of a name. -/
def Flag.ofName? (name : List Char) : Option Flag :=
  [("district".toList, Flag.district), ("from-datetime".toList, .earliest),
    ("to-datetime".toList, .latest), ("outfile".toList, .outfile),
    ("logfile".toList, .logfile)].lookup name

/-- A request of which only a part has been read. -/
structure Draft where
  file : Option String
  criteria : Criteria
  outfile : Option String
  logfile : Option String
deriving DecidableEq

namespace Draft

/-- Nothing has been read. -/
def empty : Draft := ⟨none, .any, none, none⟩

/-- Fills an empty place with a path, which must not be empty. -/
def fillPath? (place : Option String) (path : String) :
    Option (Option String) :=
  if place.isNone && path ≠ "" then some (some path) else none

/-- Fills an empty place with a datetime, which must be readable. -/
def fillDatetime? (place : Option Datetime) (value : String) :
    Option (Option Datetime) :=
  if place.isNone then (Datetime.parse? value).map some else none

/-- Takes an argument that stands alone: the file. -/
def setFile? (draft : Draft) (path : String) : Option Draft :=
  (fillPath? draft.file path).map fun file => { draft with file }

/-- Takes an option with its value. -/
def set? (draft : Draft) (flag : Flag) (value : String) : Option Draft :=
  match flag with
  | .district =>
    if draft.criteria.district.isNone then
      some
        { draft with criteria := { draft.criteria with district := value } }
    else
      none
  | .earliest =>
    (fillDatetime? draft.criteria.earliest value).map fun earliest =>
      { draft with criteria := { draft.criteria with earliest } }
  | .latest =>
    (fillDatetime? draft.criteria.latest value).map fun latest =>
      { draft with criteria := { draft.criteria with latest } }
  | .outfile =>
    (fillPath? draft.outfile value).map fun outfile =>
      { draft with outfile }
  | .logfile =>
    (fillPath? draft.logfile value).map fun logfile =>
      { draft with logfile }

/-- The request that has been read, if it has a file. -/
def finish (draft : Draft) : Command :=
  match draft.file with
  | none => .misuse
  | some file =>
    .get ⟨file, draft.criteria, draft.outfile, draft.logfile⟩

end Draft

/-- How an argument begins. -/
inductive Shape where
  /-- two dashes and nothing else -/
  | separator
  /-- two dashes, a name, and perhaps a value after an equals sign -/
  | long (name : List Char) (value : Option String)
  /-- a dash and letters -/
  | short (letter : Char)
  /-- anything else -/
  | plain
deriving DecidableEq

/-- The shape of an argument.  A single dash is nothing special. -/
def Shape.ofArgument (argument : String) : Shape :=
  match argument.toList with
  | ['-', '-'] => .separator
  | '-' :: '-' :: rest =>
    let name := rest.takeWhile (· ≠ '=')
    match rest.dropWhile (· ≠ '=') with
    | _ :: value => .long name (some (String.ofList value))
    | [] => .long name none
  | '-' :: letter :: _ => .short letter
  | _ => .plain

/-- Reads the arguments after a separator, all of which stand alone. -/
def readPlain (draft : Draft) : List String -> Command
  | [] => draft.finish
  | argument :: rest =>
    match draft.setFile? argument with
    | none => .misuse
    | some draft => readPlain draft rest

/-- Reads the arguments of `get` from left to right; the first one that is
wrong decides. -/
def readGet (draft : Draft) : List String -> Command
  | [] => draft.finish
  | argument :: rest =>
    match Shape.ofArgument argument with
    | .separator => readPlain draft rest
    | .short letter => if letter = 'h' then .help else .misuse
    | .plain =>
      match draft.setFile? argument with
      | none => .misuse
      | some draft => readGet draft rest
    | .long name (some value) =>
      match (Flag.ofName? name).bind fun flag => draft.set? flag value with
      | none => .misuse
      | some draft => readGet draft rest
    | .long name none =>
      match Flag.ofName? name with
      | none => if name = "help".toList then .help else .misuse
      | some flag =>
        match rest with
        | [] => .misuse
        | value :: rest =>
          if Shape.ofArgument value = .plain then
            match draft.set? flag value with
            | none => .misuse
            | some draft => readGet draft rest
          else
            .misuse

/-- What the arguments of the program ask for. -/
def ofArguments : List String -> Command
  | [] => .misuse
  | first :: rest =>
    if first = "get" then
      readGet .empty rest
    else if first = "help" then
      if rest = [] ∨ rest = ["get"] ∨ rest = ["help"] then .help else .misuse
    else
      match Shape.ofArgument first with
      | .long name none => if name = "help".toList then .help else .misuse
      | .short letter => if letter = 'h' then .help else .misuse
      | _ => .misuse

end Command
end Deliveries
