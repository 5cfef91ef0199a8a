import Deliveries.Dataset.Reading
import Deliveries.Dataset.Writing
import Deliveries.Log.Filter
import Deliveries.Command

/-!
# Runs

A run opens the log file, loads the input, filters it, opens the output and
writes it, and tells of every step as an event.  Filtering is done in full
before the output is opened.  What a run does to its surroundings goes through
a `Host`, of which there is one for the machine that the program runs on and
one for a file tree.
-/

namespace Deliveries

/-- What a run can ask of its surroundings.  An opened file is known by its
handle. -/
structure Host (m : Type -> Type) (Handle : Type) where
  /-- opens the regular file that a path leads to, if it leads to one -/
  source : String -> m (Option (Except Refusal Csv.Source))
  /-- opens a file for appending, and makes it if it is missing -/
  openForAppending : String -> m (Except Refusal Handle)
  /-- opens a file for writing and empties it -/
  create : String -> m (Except Refusal Handle)
  /-- adds bytes to an opened file, unless the system does not take them -/
  append : Handle -> List UInt8 -> m (Except Refusal Unit)
  /-- puts bytes on the standard output, unless the system does not take
  them -/
  print : List UInt8 -> m (Except Refusal Unit)
  /-- puts a line on the console of the log -/
  report : String -> m Unit

/-- Where events go: to the console those that a filter admits, and to a log
file, if there is one, the detailed ones. -/
structure Logging (Handle : Type) where
  console : Log.Filter
  logfile : Option Handle

namespace Run

variable {m : Type -> Type} [Monad m] {Handle : Type}

/-! ## Events -/

/-- Tells an event.  What the log file does not take is lost. -/
def emit (host : Host m Handle) (logging : Logging Handle)
    (event : Log.Event) : m Unit := do
  if logging.console.admits event then
    host.report event.consoleLine
  match logging.logfile with
  | none => return
  | some handle =>
    if Log.Filter.detailed.admits event then
      let _ ← host.append handle (Text.bytesOf (event.fileLine ++ "\n"))

/-- Tells events in order. -/
def emitAll (host : Host m Handle) (logging : Logging Handle) :
    List Log.Event -> m Unit
  | [] => return
  | event :: rest => do
    emit host logging event
    emitAll host logging rest

/-- The events of reading a dataset. -/
def readingEvents (reading : Reading Dataset) : List Log.Event :=
  reading.skips.map .skipped ++
    match reading.result with
    | .error _ => []
    | .ok dataset => [.loaded dataset.rows.length dataset.header.length]

/-- The events of filtering a dataset with the given result. -/
def filterEvents (criteria : Criteria) (dataset : Dataset)
    (result : Except Fault Dataset) : List Log.Event :=
  if criteria.isEmpty then
    [.copying]
  else
    (match criteria.emptyRange? with
      | none => []
      | some (earliest, latest) => [.emptyRange earliest latest]) ++
    match result with
    | .error _ => []
    | .ok kept => [.filtered kept.rows.length dataset.rows.length]

/-! ## Steps -/

/-- Loads the dataset of a file.  That a file is there and cannot be opened is
told by an event alone. -/
def load (host : Host m Handle) (logging : Logging Handle) (path : String) :
    m (Reading Dataset) := do
  match ← host.source path with
  | none => return .fail (.fileNotFound path)
  | some (.error cause) =>
    emit host logging (.unopened path cause)
    return .fail (.fileNotFound path)
  | some (.ok source) => return Dataset.read source

/-- Whether the output has taken its bytes, or the fault of one that has
not. -/
def delivered (answer : Except Refusal Unit) : Except Fault Unit :=
  answer.mapError fun cause => .output (.refused cause)

/-- Writes a dataset to the output file, or to the standard output. -/
def deliver (host : Host m Handle) (outfile : Option String)
    (dataset : Dataset) : m (Except Fault Unit) := do
  match outfile with
  | none =>
    match dataset.write none with
    | .error fault => return .error fault
    | .ok bytes => return delivered (← host.print bytes)
  | some path =>
    match ← host.create path with
    | .error cause => return .error (.output (.opening cause))
    | .ok handle =>
      match dataset.write none with
      | .error fault => return .error fault
      | .ok bytes => return delivered (← host.append handle bytes)

/-- Gets what a request asks for, and returns how many rows were written. -/
def get (host : Host m Handle) (logging : Logging Handle)
    (request : Request) : m (Except Fault Nat) := do
  let reading ← load host logging request.file
  emitAll host logging (readingEvents reading)
  match reading.result with
  | .error fault => return .error fault
  | .ok dataset =>
    emitAll host logging
      [.inputLoaded request.file dataset.rows.length,
        .filtering request.criteria]
    let result := dataset.filter request.criteria
    emitAll host logging (filterEvents request.criteria dataset result)
    match result with
    | .error fault => return .error fault
    | .ok kept =>
      match ← deliver host request.outfile kept with
      | .error fault => return .error fault
      | .ok () => return .ok kept.rows.length

/-- The exit code of a run that breaks down because it cannot print a line. -/
def breakdown : UInt32 := 101

/-- Prints a line, as the last thing that a run does, and returns the exit
code. -/
def say (host : Host m Handle) (line : String) (code : UInt32) : m UInt32 := do
  match ← host.print (Text.bytesOf (line ++ "\n")) with
  | .ok () => return code
  | .error _ => return breakdown

/-- Gets what a request asks for, with its log, and returns the exit code. -/
def logged (host : Host m Handle) (logging : Logging Handle)
    (request : Request) : m UInt32 := do
  emit host logging .started
  match ← get host logging request with
  | .ok written =>
    emit host logging (.finished written)
    return 0
  | .error fault =>
    emit host logging (.failed fault)
    say host fault.message 1

/-! ## Whole runs -/

/-- The text for a log file that cannot be opened. -/
def logfileMessage (path : String) (cause : Refusal) : String :=
  "Cannot open log file '" ++ path ++ "': " ++ cause.message

/-- Carries out a request under the given setting of the console's filter, and
returns the exit code. -/
def request (host : Host m Handle) (setting : Option String)
    (request : Request) : m UInt32 := do
  let console := Log.Filter.ofSetting setting
  match request.logfile with
  | none => logged host ⟨console, none⟩ request
  | some path =>
    match ← host.openForAppending path with
    | .ok handle => logged host ⟨console, some handle⟩ request
    | .error cause => say host (logfileMessage path cause) 1

/-- Runs a command line and returns the exit code. -/
def commandLine (host : Host m Handle) (setting : Option String)
    (arguments : List String) : m UInt32 := do
  match Command.ofArguments arguments with
  | .get asked => request host setting asked
  | .help =>
    let _ ← host.print (Text.bytesOf (Command.usage ++ "\n"))
    return 0
  | .misuse =>
    host.report Command.usage
    return 2

end Run
end Deliveries
