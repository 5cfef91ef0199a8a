import Deliveries.Machine
import Deliveries.Proofs.Files
import Deliveries.Proofs.Command
import Deliveries.Proofs.Dataset.WellFormed

/-!
# Failed runs

Whatever fails in a run fails before the output is opened: what was read and
filtered can be written.  So a run that fails changes its log file at most, and
prints no more than why it failed.
-/

namespace Deliveries

open Text Csv

/-- A fault that does not come from an output that has been opened. -/
def Fault.Early (fault : Fault) : Prop :=
  ∀ cause, fault = .output cause -> ∃ refusal, cause = .opening refusal

namespace Machine

/-- Between two machines nothing was printed, and no file but the log file was
touched. -/
structure OnlyLogs (logfile : Option Location) (before after : Machine) :
    Prop where
  output_eq : after.output = before.output
  node?_eq : ∀ location, logfile ≠ some location ->
    after.files.node? location = before.files.node? location

namespace OnlyLogs

variable {logfile : Option Location} {before middle after : Machine}

theorem refl (logfile : Option Location) (machine : Machine) :
    OnlyLogs logfile machine machine :=
  ⟨rfl, fun _ _ => rfl⟩

theorem trans (left : OnlyLogs logfile before middle)
    (right : OnlyLogs logfile middle after) : OnlyLogs logfile before after :=
  ⟨right.output_eq.trans left.output_eq, fun location elsewhere =>
    (right.node?_eq location elsewhere).trans
      (left.node?_eq location elsewhere)⟩

end OnlyLogs

/-! ## Quiet actions -/

section Actions

variable {α β : Type} {logfile : Option Location}

theorem run_bind (action : StateM Machine α) (next : α -> StateM Machine β)
    (machine : Machine) :
    (action >>= next).run machine =
      (next (action.run machine).1).run (action.run machine).2 := rfl

/-- An action that at most logs. -/
def Quiet (logfile : Option Location) (action : StateM Machine α) : Prop :=
  ∀ machine, OnlyLogs logfile machine (action.run machine).2

theorem quiet_pure (value : α) :
    Quiet logfile (pure value : StateM Machine α) :=
  fun machine => .refl logfile machine

theorem Quiet.bind
    {action : StateM Machine α} {next : α -> StateM Machine β}
    (first : Quiet logfile action)
    (later : ∀ value, Quiet logfile (next value)) :
    Quiet logfile (action >>= next) :=
  fun machine => (first machine).trans (later _ _)

/-- An action that at most logs whenever it ends in a fault, which then is an
early one. -/
def FailsQuietly (logfile : Option Location)
    (action : StateM Machine (Except Fault α)) : Prop :=
  ∀ machine fault, (action.run machine).1 = .error fault ->
    fault.Early ∧ OnlyLogs logfile machine (action.run machine).2

theorem failsQuietly_error {fault : Fault} (early : fault.Early) :
    FailsQuietly logfile
      (pure (.error fault) : StateM Machine (Except Fault α)) := by
  intro machine other failed
  cases failed
  exact ⟨early, .refl logfile machine⟩

/-- What happens before a quiet failure must be quiet too. -/
theorem Quiet.failsQuietly_bind
    {action : StateM Machine α}
    {next : α -> StateM Machine (Except Fault β)}
    (first : Quiet logfile action)
    (later : ∀ machine, FailsQuietly logfile (next (action.run machine).1)) :
    FailsQuietly logfile (action >>= next) := by
  intro machine fault failed
  rw [run_bind] at failed ⊢
  obtain ⟨early, logs⟩ := later machine _ fault failed
  exact ⟨early, (first machine).trans logs⟩

/-- After an action that fails quietly nothing else may fail. -/
theorem FailsQuietly.bind
    {action : StateM Machine (Except Fault α)}
    {next : Except Fault α -> StateM Machine (Except Fault β)}
    (first : FailsQuietly logfile action)
    (onError : ∀ fault, next (.error fault) = pure (.error fault))
    (onOk : ∀ value, ∃ result, next (.ok value) = pure (.ok result)) :
    FailsQuietly logfile (action >>= next) := by
  intro machine fault failed
  rw [run_bind] at failed ⊢
  cases outcome : (action.run machine).1 with
  | error other =>
    rw [outcome, onError] at failed
    cases failed
    rw [onError]
    exact first machine fault outcome
  | ok value =>
    obtain ⟨result, ends⟩ := onOk value
    rw [outcome, ends] at failed
    cases failed

end Actions

/-! ## The steps of a run -/

theorem quiet_report (logfile : Option Location) (line : String) :
    Quiet logfile (host.report line) :=
  fun _ => ⟨rfl, fun _ _ => rfl⟩

theorem quiet_append (location : Location) (bytes : List UInt8) :
    Quiet (some location) (host.append location bytes) := by
  intro machine
  refine ⟨rfl, ?_⟩
  intro other elsewhere
  exact Files.node?_append_of_ne
    (fun same => elsewhere (congrArg some same.symm)) bytes

/-- An event goes to the console and to the log file. -/
theorem quiet_emit (logging : Logging Location) (event : Log.Event) :
    Quiet logging.logfile (Run.emit host logging event) := by
  obtain ⟨console, logfile⟩ := logging
  unfold Run.emit
  cases logfile with
  | none =>
    dsimp only
    split
    · exact (quiet_report none _).bind fun _ => quiet_pure ()
    · exact quiet_pure ()
  | some location =>
    have filed : Quiet (some location)
        (if Log.Filter.detailed.admits event then do
          let _ ← host.append location (bytesOf (event.fileLine ++ "\n"))
        else pure ()) := by
      split
      · exact (quiet_append location _).bind fun _ => quiet_pure ()
      · exact quiet_pure ()
    dsimp only
    split
    · exact (quiet_report (some location) _).bind fun _ => filed
    · exact filed

theorem quiet_emitAll (logging : Logging Location) (events : List Log.Event) :
    Quiet logging.logfile (Run.emitAll host logging events) := by
  induction events with
  | nil => exact quiet_pure ()
  | cons event rest ih => exact (quiet_emit logging event).bind fun _ => ih

section Loading

variable {logging : Logging Location} {path : String} {machine : Machine}

/-- Loading tells of a file that cannot be opened, and else does nothing. -/
theorem quiet_load (logging : Logging Location) (path : String) :
    Quiet logging.logfile (Run.load host logging path) := by
  refine Quiet.bind (fun machine => .refl _ machine) fun opened => ?_
  cases opened with
  | none => exact quiet_pure _
  | some opened =>
    cases opened with
    | error cause => exact (quiet_emit logging _).bind fun _ => quiet_pure _
    | ok source => exact quiet_pure _

/-- What is loaded is what is read from a file, if one can be opened. -/
theorem load_eq (logging : Logging Location) (path : String)
    (machine : Machine) :
    ((Run.load host logging path).run machine).1 = .fail (.fileNotFound path) ∨
      ∃ source, ((Run.load host logging path).run machine).1 =
        Dataset.read source := by
  unfold Run.load
  rw [run_bind]
  cases ((host.source path).run machine).1 with
  | none => exact .inl rfl
  | some opened =>
    cases opened with
    | error cause => exact .inl rfl
    | ok source => exact .inr ⟨source, rfl⟩

theorem wellFormed_of_load
    {dataset : Dataset}
    (loaded : ((Run.load host logging path).run machine).1.result =
      .ok dataset) :
    dataset.WellFormed := by
  rcases load_eq logging path machine with missing | ⟨source, reading⟩
  · rw [missing] at loaded
    cases loaded
  · rw [reading] at loaded
    exact Dataset.wellFormed_of_read loaded

theorem early_of_load
    {fault : Fault}
    (failed : ((Run.load host logging path).run machine).1.result =
      .error fault) :
    fault.Early := by
  intro cause same
  subst same
  rcases load_eq logging path machine with missing | ⟨source, reading⟩
  · rw [missing] at failed
    cases failed
  · rw [reading] at failed
    rcases Dataset.missingColumns_or_input_of_read failed with
      columns | ⟨_, input⟩
    · cases columns
    · cases input

end Loading

theorem run_openWith_error
    (attempt : Files -> Except Refusal (Location × Files))
    {machine : Machine} {cause : Refusal}
    (refused : attempt machine.files = .error cause) :
    (openWith attempt).run machine = (.error cause, machine) := by
  change openWith attempt machine = _
  unfold openWith
  rw [refused]

theorem run_openWith_ok
    (attempt : Files -> Except Refusal (Location × Files))
    {machine : Machine} {location : Location} {files : Files}
    (opens : attempt machine.files = .ok (location, files)) :
    (openWith attempt).run machine =
      (.ok location, { machine with files }) := by
  change openWith attempt machine = _
  unfold openWith
  rw [opens]

section Opening

variable {attempt : Files -> Except Refusal (Location × Files)}
  {machine : Machine}

theorem run_openWith_of_error
    {cause : Refusal}
    (refused : ((openWith attempt).run machine).1 = .error cause) :
    ((openWith attempt).run machine).2 = machine := by
  cases opens : attempt machine.files with
  | error other => rw [run_openWith_error attempt opens]
  | ok opened =>
    rw [run_openWith_ok attempt opens] at refused
    cases refused

theorem run_openWith_of_ok
    {location : Location}
    (opened : ((openWith attempt).run machine).1 = .ok location) :
    ∃ files, attempt machine.files = .ok (location, files) ∧
      ((openWith attempt).run machine).2 = { machine with files } := by
  cases opens : attempt machine.files with
  | error cause =>
    rw [run_openWith_error attempt opens] at opened
    cases opened
  | ok result =>
    rw [run_openWith_ok attempt opens] at opened ⊢
    cases opened
    exact ⟨result.2, rfl, rfl⟩

end Opening

theorem run_create_of_error
    {path : String} {machine : Machine} {cause : Refusal}
    (refused : ((host.create path).run machine).1 = .error cause) :
    ((host.create path).run machine).2 = machine :=
  run_openWith_of_error refused

theorem run_openForAppending_of_error
    {path : String} {machine : Machine} {cause : Refusal}
    (refused : ((host.openForAppending path).run machine).1 = .error cause) :
    ((host.openForAppending path).run machine).2 = machine :=
  run_openWith_of_error refused

/-- Opening a log file touches no other file. -/
theorem run_openForAppending_of_ok
    {path : String} {machine : Machine} {location : Location}
    (opened : ((host.openForAppending path).run machine).1 = .ok location) :
    machine.files.target path = .ok location ∧
      OnlyLogs (some location) machine
        ((host.openForAppending path).run machine).2 := by
  obtain ⟨files, opens, after⟩ := run_openWith_of_ok opened
  change ((host.openForAppending path).run machine).2 =
    { machine with files } at after
  obtain ⟨leads, elsewhere⟩ := Files.openForAppending_eq_ok opens
  refine ⟨leads, ?_⟩
  rw [after]
  exact ⟨rfl, fun other apart =>
    elsewhere other fun same => apart (congrArg some same.symm)⟩

/-- A well-formed dataset is delivered unless the output cannot be opened. -/
theorem deliver_failsQuietly
    (logfile : Option Location) (outfile : Option String) {dataset : Dataset}
    (wellFormed : dataset.WellFormed) :
    FailsQuietly logfile (Run.deliver host outfile dataset) := by
  -- Behind the opening of the output nothing is left that could fail.
  have written := Dataset.write_unlimited wellFormed.rectangular
  intro machine fault failed
  unfold Run.deliver at failed ⊢
  simp only [written] at failed ⊢
  cases outfile with
  | none => cases failed
  | some path =>
    dsimp only at failed ⊢
    rw [run_bind] at failed ⊢
    cases opening : ((host.create path).run machine).1 with
    | error cause =>
      rw [opening] at failed
      cases failed
      constructor
      · rintro _ ⟨⟩
        exact ⟨cause, rfl⟩
      · change OnlyLogs logfile machine ((host.create path).run machine).2
        rw [run_create_of_error opening]
        exact .refl logfile machine
    | ok handle =>
      rw [opening] at failed
      cases failed

/-- Getting what a request asks for fails before anything is written. -/
theorem get_failsQuietly (logging : Logging Location) (request : Request) :
    FailsQuietly logging.logfile (Run.get host logging request) := by
  unfold Run.get
  refine (quiet_load _ _).failsQuietly_bind fun machine => ?_
  refine (quiet_emitAll logging _).failsQuietly_bind fun _ => ?_
  split
  · next fault failed => exact failsQuietly_error (early_of_load failed)
  · next dataset loaded =>
    refine (quiet_emitAll logging _).failsQuietly_bind fun _ => ?_
    refine (quiet_emitAll logging _).failsQuietly_bind fun _ => ?_
    split
    · next fault filtered =>
      obtain ⟨row, _, rfl⟩ := Dataset.filter_eq_error_iff.mp filtered
      refine failsQuietly_error ?_
      intro cause same
      cases same
    · next kept filtered =>
      have wellFormed := (wellFormed_of_load loaded).filter filtered
      exact (deliver_failsQuietly _ request.outfile wellFormed).bind
        (fun _ => rfl) (fun _ => ⟨_, rfl⟩)

/-! ## Whole runs -/

/-- The texts that tell why a run failed. -/
inductive FailureMessage : String -> Prop where
  | fault {fault : Fault} (early : fault.Early) : FailureMessage fault.message
  | logfile (path : String) (cause : Refusal) :
      FailureMessage (Run.logfileMessage path cause)

/-- The machine after a line was printed. -/
def printed (line : String) (machine : Machine) : Machine :=
  { machine with output := machine.output ++ bytesOf (line ++ "\n") }

theorem run_say (line : String) (code : UInt32) (machine : Machine) :
    (Run.say host line code).run machine = (code, machine.printed line) := rfl

theorem OnlyLogs.printed
    {logfile : Option Location} {before after : Machine}
    (logs : OnlyLogs logfile before after) (line : String) :
    OnlyLogs logfile (before.printed line) (after.printed line) :=
  ⟨congrArg (· ++ bytesOf (line ++ "\n")) logs.output_eq, logs.node?_eq⟩

/-- An action that at most logs and prints why it failed, when its exit code
is not 0. -/
def FailsWithMessage (logfile : Option Location)
    (action : StateM Machine UInt32) : Prop :=
  ∀ machine, (action.run machine).1 ≠ 0 ->
    (action.run machine).1 = 1 ∧ ∃ message, FailureMessage message ∧
      OnlyLogs logfile (machine.printed message) (action.run machine).2

theorem logged_failsWithMessage
    (logging : Logging Location) (request : Request) :
    FailsWithMessage logging.logfile (Run.logged host logging request) := by
  intro machine failed
  unfold Run.logged at failed ⊢
  rw [run_bind, run_bind] at failed ⊢
  have started := quiet_emit logging .started machine
  generalize ((Run.emit host logging .started).run machine).2 = begun at *
  cases outcome : ((Run.get host logging request).run begun).1 with
  | ok written =>
    rw [outcome] at failed
    exact absurd rfl failed
  | error fault =>
    obtain ⟨early, logs⟩ :=
      get_failsQuietly logging request begun fault outcome
    have told := quiet_emit logging (.failed fault)
      ((Run.get host logging request).run begun).2
    dsimp only
    rw [run_bind, run_say]
    exact ⟨rfl, fault.message, .fault early,
      ((started.trans logs).trans told).printed fault.message⟩

/-- The location that the log file of a request has in a tree. -/
def logLocation? (files : Files) (request : Request) : Option Location :=
  request.logfile.bind fun path => (files.target path).toOption

/-- A request that fails changes at most its log file. -/
theorem request_of_ne_zero
    (setting : Option String) (request : Request) (machine : Machine)
    (failed : ((Run.request host setting request).run machine).1 ≠ 0) :
    ((Run.request host setting request).run machine).1 = 1 ∧
      ∃ message, FailureMessage message ∧
        OnlyLogs (logLocation? machine.files request)
          (machine.printed message)
          ((Run.request host setting request).run machine).2 := by
  unfold Run.request at failed ⊢
  cases named : request.logfile with
  | none =>
    rw [named] at failed
    have nowhere : logLocation? machine.files request = none := by
      rw [logLocation?, named]
      rfl
    rw [nowhere]
    exact logged_failsWithMessage ⟨_, none⟩ request machine failed
  | some path =>
    rw [named] at failed
    dsimp only at failed ⊢
    rw [run_bind] at failed ⊢
    cases opening : ((host.openForAppending path).run machine).1 with
    | error cause =>
      dsimp only
      rw [run_openForAppending_of_error opening, run_say]
      exact ⟨rfl, Run.logfileMessage path cause, .logfile path cause, .refl _ _⟩
    | ok location =>
      obtain ⟨leads, begins⟩ := run_openForAppending_of_ok opening
      have place : logLocation? machine.files request = some location := by
        rw [logLocation?, named, Option.bind_some, leads]
        rfl
      rw [opening] at failed
      obtain ⟨code, message, tells, logs⟩ := logged_failsWithMessage
        ⟨_, some location⟩ request _ failed
      rw [place]
      exact ⟨code, message, tells, (begins.printed message).trans logs⟩

/-- The location of the log file that a command line names, if it asks to get
something. -/
def commandLogLocation? (files : Files) (arguments : List String) :
    Option Location :=
  match Command.ofArguments arguments with
  | .get request => logLocation? files request
  | _ => none

section CommandLines

variable {files : Files} {setting : Option String} {arguments : List String}

theorem run_of_misuse
    (misused : Command.ofArguments arguments = .misuse) :
    run files setting arguments =
      (2, { ofFiles files with console := [Command.usage] }) := by
  unfold run Run.commandLine
  rw [misused]
  rfl

theorem run_of_help (help : Command.ofArguments arguments = .help) :
    run files setting arguments =
      (0, (ofFiles files).printed Command.usage) := by
  unfold run Run.commandLine
  rw [help]
  rfl

theorem run_of_get
    {request : Request} (asked : Command.ofArguments arguments = .get request) :
    run files setting arguments =
      (Run.request host setting request).run (ofFiles files) := by
  unfold run Run.commandLine
  rw [asked]

end CommandLines

/-- A run that fails leaves every file but its log file as it was, and prints
why it failed and nothing else.  With exit code 2 it does not even do that, and
a bound that is no datetime leads to that code unless help is asked for. -/
theorem run_of_ne_zero
    (files : Files) (setting : Option String) (arguments : List String)
    (code : UInt32) (left : Machine)
    (ran : run files setting arguments = (code, left)) :
    (code ≠ 0 ->
      (∀ location, commandLogLocation? files arguments ≠ some location ->
        left.files.node? location = files.node? location) ∧
      (code = 2 ∧ left.files = files ∧ left.output = [] ∨
        code = 1 ∧ ∃ message, FailureMessage message ∧
          left.output = bytesOf (message ++ "\n"))) ∧
    ∀ front bound back, arguments = front ++ (bound ++ back) ->
      Command.RejectedBound front bound ->
      code = 2 ∨ code = 0 ∧ ∃ argument ∈ front, Command.AsksHelp argument := by
  constructor
  · intro failed
    cases asked : Command.ofArguments arguments with
    | misuse =>
      rw [run_of_misuse asked] at ran
      cases ran
      exact ⟨fun _ _ => rfl, .inl ⟨rfl, rfl, rfl⟩⟩
    | help =>
      rw [run_of_help asked] at ran
      cases ran
      exact absurd rfl failed
    | get request =>
      rw [run_of_get asked] at ran
      have failure := request_of_ne_zero setting request (ofFiles files)
      rw [ran] at failure
      obtain ⟨isOne, message, tells, logs⟩ := failure failed
      have place : commandLogLocation? files arguments =
          logLocation? files request := by
        rw [commandLogLocation?, asked]
      rw [place]
      exact ⟨logs.node?_eq, .inr ⟨isOne, message, tells, logs.output_eq⟩⟩
  · rintro front bound back rfl rejected
    rcases Command.refused_ofArguments rejected back with
      misused | ⟨help, asks⟩
    · rw [run_of_misuse misused] at ran
      cases ran
      exact .inl rfl
    · rw [run_of_help help] at ran
      cases ran
      exact .inr ⟨rfl, asks⟩

/-- A tree that holds a table with a bad datetime. -/
def badTree : Files where
  entries :=
    [(["in.csv"],
      .file (bytesOf "Id,District,Datetime,Weight\n1,A,soon,5\n"))]
  workingDirectory := []

/-- Asks for a range of that table, to be put where the table is. -/
def overwriting : List String :=
  ["get", "--from-datetime=2024-01-02 03:04", "--outfile", "in.csv",
    "--logfile", "log", "in.csv"]

/-- Asks for a range whose bound is no datetime. -/
def unbounded : List String :=
  ["get", "--logfile", "log", "--to-datetime", "soon", "in.csv"]

theorem run_of_ne_zero_overwriting :
    (run badTree none overwriting).1 = 1 ∧
      (run badTree none overwriting).2.files.node? ["in.csv"] =
        badTree.node? ["in.csv"] ∧
      (∃ message, FailureMessage message ∧
        (run badTree none overwriting).2.output = bytesOf (message ++ "\n")) ∧
      (run badTree none unbounded).1 = 2 ∧
      (run badTree none unbounded).2.files = badTree := by
  obtain ⟨spares, _⟩ := run_of_ne_zero badTree none overwriting
    (run badTree none overwriting).1 (run badTree none overwriting).2
    (Prod.eta _).symm
  obtain ⟨touches, rejects⟩ := run_of_ne_zero badTree none unbounded
    (run badTree none unbounded).1 (run badTree none unbounded).2
    (Prod.eta _).symm
  have one : (run badTree none overwriting).1 = 1 := by decide +kernel
  have two : (run badTree none unbounded).1 = 2 := by
    have rejected : Command.RejectedBound ["get", "--logfile", "log"]
        ["--to-datetime", "soon"] :=
      .apart (by decide) (by decide)
    rcases rejects _ _ ["in.csv"] rfl rejected with code | ⟨_, asks⟩
    · exact code
    · exact absurd asks (by decide)
  rw [one] at spares
  rw [two] at touches
  obtain ⟨others, ⟨isTwo, _⟩ | ⟨_, told⟩⟩ := spares (by decide)
  · exact absurd isTwo (by decide)
  obtain ⟨_, ⟨_, files, _⟩ | ⟨isOne, _⟩⟩ := touches (by decide)
  · exact ⟨one, others ["in.csv"] (by decide +kernel), told, two, files⟩
  · exact absurd isOne (by decide)

end Machine
end Deliveries
