import Deliveries.Proofs.Machine
import Deliveries.Proofs.Outcome

/-!
# Runs and outcomes

A run carries out what its request comes to, whatever is logged: it ends with
the exit code, the output and the files of the outcome.  What it logs goes to
the console and to the end of the log file.
-/

namespace Deliveries

open Text Csv

/-- How a run ends: its exit code, what it prints and the tree that it
leaves. -/
structure Ending where
  code : UInt32
  output : List UInt8
  files : Files

/-- The ending that an outcome asks for: a fault is printed, and bytes go where
they are to be delivered. -/
def Ending.ofOutcome (files : Files) : Except Fault Delivery -> Ending
  | .error fault => ⟨1, bytesOf (fault.message ++ "\n"), files⟩
  | .ok ⟨none, bytes⟩ => ⟨0, bytes, files⟩
  | .ok ⟨some location, bytes⟩ => ⟨0, [], files.put location (.file bytes)⟩

namespace Request

variable {request : Request} {files : Files} {log : Option Location}
  {found : Except Fault Delivery}

/-- A log file that stands in the way changes no more than the text of a
fault. -/
theorem OutcomeBehind.ending
    (behind : request.OutcomeBehind files log found) :
    (Ending.ofOutcome files found).code =
        (Ending.ofOutcome files (request.outcome files)).code ∧
      (Ending.ofOutcome files found).files =
        (Ending.ofOutcome files (request.outcome files)).files := by
  by_cases obstructed : request.Obstructed files log
  · obtain ⟨fault, fails, rfl⟩ := behind.of_obstructed obstructed
    rw [fails]
    exact ⟨rfl, rfl⟩
  · rw [behind.of_clear obstructed]
    exact ⟨rfl, rfl⟩

/-- Two log files that both stand in the way, or both do not, make no
difference. -/
theorem OutcomeBehind.unique {other : Except Fault Delivery}
    {otherLog : Option Location}
    (behind : request.OutcomeBehind files log found)
    (otherBehind : request.OutcomeBehind files otherLog other)
    (alike : request.Obstructed files log ↔
      request.Obstructed files otherLog) : other = found := by
  by_cases obstructed : request.Obstructed files log
  · obtain ⟨fault, fails, rfl⟩ := behind.of_obstructed obstructed
    obtain ⟨same, failsToo, rfl⟩ :=
      otherBehind.of_obstructed (alike.mp obstructed)
    cases fails.symm.trans failsToo
    rfl
  · rw [behind.of_clear obstructed,
      otherBehind.of_clear fun other => obstructed (alike.mpr other)]

/-- A delivery leaves a file alone that is not the output. -/
theorem held_ofOutcome {location : Location}
    (spares : request.Spares files location) :
    (Ending.ofOutcome files (request.outcome files)).files.held location =
      files.held location := by
  cases delivers : request.outcome files with
  | error fault => rfl
  | ok delivery =>
    obtain ⟨place, bytes⟩ := delivery
    cases place with
    | none => rfl
    | some place =>
      obtain ⟨path, named, leads⟩ := target_of_outcome delivers
      have apart : location ≠ place := by
        rintro rfl
        exact spares.output path named leads
      change (files.put place _).held location = _
      rw [Files.held, Files.held, Files.node?_put_of_ne apart]

end Request

namespace Machine

variable {files : Files} {log : Option Location} {output : List UInt8}
  {machine : Machine}

/-- A machine carries a tree, apart from the log file, and has printed an
output. -/
structure Carries (log : Option Location) (files : Files)
    (output : List UInt8) (machine : Machine) : Prop where
  logged : files.Logged log machine.files
  output_eq : machine.output = output

/-- A run ends as expected, apart from the log file. -/
structure EndsAs (log : Option Location) (ending : Ending)
    (ran : UInt32 × Machine) : Prop where
  code_eq : ran.1 = ending.code
  carries : Carries log ending.files ending.output ran.2

/-- An event goes to no file but the log file. -/
theorem files_emit (logging : Logging Location) (event : Log.Event)
    (machine : Machine) :
    ((Run.emit host logging event).run machine).2.files = machine.files ∨
      ∃ location bytes, logging.logfile = some location ∧
        ((Run.emit host logging event).run machine).2.files =
          machine.files.append location bytes := by
  obtain ⟨console, logfile⟩ := logging
  unfold Run.emit
  cases logfile with
  | none =>
    dsimp only
    split
    · exact .inl rfl
    · exact .inl rfl
  | some location =>
    dsimp only
    split
    · split
      · exact .inr ⟨location, _, rfl, rfl⟩
      · exact .inl rfl
    · split
      · exact .inr ⟨location, _, rfl, rfl⟩
      · exact .inl rfl

namespace Carries

theorem emit {logging : Logging Location}
    (carries : Carries logging.logfile files output machine)
    (event : Log.Event) :
    Carries logging.logfile files output
      ((Run.emit host logging event).run machine).2 := by
  constructor
  · rcases files_emit logging event machine with
      same | ⟨location, bytes, isLog, appended⟩
    · rw [same]
      exact carries.logged
    · rw [appended]
      have logged := carries.logged
      rw [isLog] at logged ⊢
      exact logged.append bytes
  · exact (quiet_emit logging event machine).output_eq.trans carries.output_eq

theorem emitAll {logging : Logging Location}
    (carries : Carries logging.logfile files output machine)
    (events : List Log.Event) :
    Carries logging.logfile files output
      ((Run.emitAll host logging events).run machine).2 := by
  induction events generalizing machine with
  | nil => exact carries
  | cons event rest ih => exact ih (carries.emit event)

end Carries

/-- What is loaded is what is read from the bytes of the input. -/
theorem run_load (logging : Logging Location) (request : Request)
    (machine : Machine) :
    ((Run.load host logging request.file).run machine).1.result =
        request.input machine.files >>= (fun bytes =>
          (Dataset.read (.ofBytes bytes)).result) ∧
      ((Run.load host logging request.file).run machine).2 = machine := by
  have source : (host.source request.file).run machine =
      ((machine.files.read? request.file).map fun bytes => .ok (.ofBytes bytes),
        machine) := rfl
  unfold Run.load Request.input
  rw [run_bind, source]
  cases machine.files.read? request.file with
  | none => exact ⟨rfl, rfl⟩
  | some bytes => exact ⟨rfl, rfl⟩

/-- How getting what a request asks for ends, for what the request comes to:
with its fault and nothing else, or with its bytes printed or filed. -/
inductive Got {α : Type} (log : Option Location) (files : Files) :
    Except Fault Delivery -> Except Fault α -> Machine -> Prop
  | failed {fault : Fault} {machine : Machine}
      (carries : Carries log files [] machine) :
      Got log files (.error fault) (.error fault) machine
  | printed {bytes : List UInt8} {value : α} {machine : Machine}
      (carries : Carries log files bytes machine) :
      Got log files (.ok ⟨none, bytes⟩) (.ok value) machine
  | filed {location : Location} {bytes : List UInt8} {value : α}
      {machine : Machine}
      (carries :
        Carries log (files.put location (.file bytes)) [] machine) :
      Got log files (.ok ⟨some location, bytes⟩) (.ok value) machine

section Creating

variable {path : String}

/-- A file that cannot be opened for writing changes nothing. -/
theorem run_create_of_target_error
    {cause : Refusal} (refused : machine.files.target path = .error cause) :
    (host.create path).run machine = (.error cause, machine) := by
  apply run_openWith_error (·.create path)
  rw [Files.create, refused]
  rfl

theorem run_create_of_target_ok
    {location : Location} (leads : machine.files.target path = .ok location) :
    (host.create path).run machine =
      (.ok location,
        { machine with files := machine.files.put location (.file []) }) := by
  apply run_openWith_ok (·.create path)
  rw [Files.create, leads]
  rfl

end Creating

/-- What is kept goes to where the output file is, and else to the standard
output. -/
theorem deliver_got {request : Request} {dataset : Dataset}
    (carries : Carries log files [] machine)
    (spares : ∀ location, log = some location ->
      request.Spares files location)
    (keeps : request.kept files = .ok dataset) :
    ∃ found, request.OutcomeBehind files log found ∧
      Got log files found
        ((Run.deliver host request.outfile dataset).run machine).1
        ((Run.deliver host request.outfile dataset).run machine).2 := by
  have written := Dataset.write_unlimited
    (Request.wellFormed_of_kept keeps).rectangular
  refine ⟨_, Request.outcomeBehind_of_ok keeps carries.logged spares, ?_⟩
  unfold Run.deliver Request.destination
  simp only [written]
  cases named : request.outfile with
  | none =>
    refine .printed ⟨carries.logged, ?_⟩
    change machine.output ++ dataset.rendering = dataset.rendering
    rw [carries.output_eq, List.nil_append]
  | some path =>
    dsimp only
    rw [run_bind]
    cases leads : machine.files.target path with
    | error cause =>
      rw [run_create_of_target_error leads]
      exact .failed carries
    | ok location =>
      rw [run_create_of_target_ok leads]
      have below := Files.ne_root_of_not_directory
        (Files.not_directory_of_target leads)
      have apart : log ≠ some location := by
        rintro rfl
        have spared := (spares location rfl).of_logged carries.logged
        exact spared.output path named leads
      refine .filed ⟨?_, carries.output_eq⟩
      change Files.Logged log _
        ((machine.files.put location (.file [])).append location _)
      rw [Files.append_put below]
      exact carries.logged.put below apart _

/-- Getting what a request asks for comes to its outcome. -/
theorem get_got {logging : Logging Location} {request : Request}
    (carries : Carries logging.logfile files [] machine)
    (spares : ∀ location, logging.logfile = some location ->
      request.Spares files location) :
    ∃ found, request.OutcomeBehind files logging.logfile found ∧
      Got logging.logfile files found
        ((Run.get host logging request).run machine).1
        ((Run.get host logging request).run machine).2 := by
  obtain ⟨result, stays⟩ := run_load logging request machine
  rw [Request.input_of_logged carries.logged spares] at result
  unfold Run.get
  rw [run_bind, stays, run_bind]
  generalize ((Run.load host logging request.file).run machine).1 =
    reading at *
  have told := carries.emitAll (Run.readingEvents reading)
  generalize ((Run.emitAll host logging (Run.readingEvents reading)).run
    machine).2 = read at *
  have keeps := request.kept_eq files
  rw [← result] at keeps
  cases loaded : reading.result with
  | error fault =>
    rw [loaded] at keeps
    exact ⟨_, Request.outcomeBehind_of_error keeps, .failed told⟩
  | ok dataset =>
    rw [loaded] at keeps
    dsimp only
    rw [run_bind, run_bind]
    have asked := told.emitAll
      [.inputLoaded request.file dataset.rows.length,
        .filtering request.criteria]
    generalize ((Run.emitAll host logging _).run read).2 = asking at *
    have filtered := asked.emitAll (Run.filterEvents request.criteria dataset
      (dataset.filter request.criteria))
    generalize ((Run.emitAll host logging (Run.filterEvents _ _ _)).run
      asking).2 = filtering at *
    cases result : dataset.filter request.criteria with
    | error fault =>
      exact ⟨_, Request.outcomeBehind_of_error (keeps.trans result),
        .failed filtered⟩
    | ok kept =>
      obtain ⟨found, behind, got⟩ :=
        deliver_got filtered spares (keeps.trans result)
      refine ⟨found, behind, ?_⟩
      dsimp only
      rw [run_bind]
      generalize ((Run.deliver host request.outfile kept).run filtering).1 =
        delivered at got ⊢
      generalize ((Run.deliver host request.outfile kept).run filtering).2 =
        left at got ⊢
      cases got with
      | failed carries => exact .failed carries
      | printed carries => exact .printed carries
      | filed carries => exact .filed carries

/-- A request ends as its outcome says. -/
theorem logged_ends (logging : Logging Location) {request : Request}
    (carries : Carries logging.logfile files [] machine)
    (spares : ∀ location, logging.logfile = some location ->
      request.Spares files location) :
    ∃ found, request.OutcomeBehind files logging.logfile found ∧
      EndsAs logging.logfile (.ofOutcome files found)
        ((Run.logged host logging request).run machine) := by
  unfold Run.logged
  rw [run_bind, run_bind]
  have begun := carries.emit .started
  generalize ((Run.emit host logging .started).run machine).2 = started at *
  obtain ⟨found, behind, got⟩ := get_got begun spares
  refine ⟨found, behind, ?_⟩
  generalize ((Run.get host logging request).run started).1 = result at got ⊢
  generalize ((Run.get host logging request).run started).2 = left at got ⊢
  cases got with
  | @failed fault _ carries =>
    have told := carries.emit (.failed fault)
    dsimp only
    rw [run_bind, run_say]
    refine ⟨rfl, told.logged, ?_⟩
    rw [printed, told.output_eq]
    rfl
  | printed carries => exact ⟨rfl, carries.emit _⟩
  | filed carries => exact ⟨rfl, carries.emit _⟩

/-- A request whose log file can be opened ends as its outcome says. -/
theorem request_ends (setting : Option String) {request : Request}
    (logs : request.LogsTo files log) :
    ∃ found, request.OutcomeBehind files log found ∧
      EndsAs log (.ofOutcome files found)
        ((Run.request host setting request).run (ofFiles files)) := by
  unfold Run.request
  cases logs with
  | nowhere unnamed =>
    rw [unnamed]
    have carries : Carries none files [] (ofFiles files) :=
      ⟨.unlogged files, rfl⟩
    exact logged_ends ⟨Log.Filter.ofSetting setting, none⟩ carries nofun
  | @file path location opened named opens spares =>
    rw [named]
    dsimp only
    have opening : (host.openForAppending path).run (ofFiles files) =
        (.ok location, { ofFiles files with files := opened }) :=
      run_openWith_ok (·.openForAppending path) opens
    rw [run_bind, opening]
    have carries : Carries (some location) files []
        { ofFiles files with files := opened } :=
      ⟨.of_openForAppending opens, rfl⟩
    refine logged_ends ⟨Log.Filter.ofSetting setting, some location⟩ carries ?_
    rintro _ ⟨⟩
    exact spares

/-- A run that gets something ends as the outcome of its request says, whatever
is logged and wherever it is logged, so that two runs that differ in nothing
else end alike.  Only a log file that the run makes, and through which the path
of the output leads, shows in the text for an output that cannot be opened. -/
theorem ends_as_outcome
    (files : Files) (setting : Option String) (arguments : List String)
    (request : Request) (log : Option Location)
    (asked : Command.ofArguments arguments = .get request)
    (logs : request.LogsTo files log) :
    (¬ request.Obstructed files log ->
      EndsAs log (.ofOutcome files (request.outcome files))
        (run files setting arguments)) ∧
    (request.Obstructed files log ->
      ∃ fault, request.outcome files = .error fault ∧
        EndsAs log (.ofOutcome files (.error fault.inTheWay))
          (run files setting arguments)) ∧
    (∀ location, log = some location ->
      ∃ more, (run files setting arguments).2.files.node? location =
        some (.file (files.held location ++ more))) ∧
    ∀ otherSetting otherArguments otherLogfile otherLog,
      Command.ofArguments otherArguments =
        .get { request with logfile := otherLogfile } ->
      { request with logfile := otherLogfile }.LogsTo files otherLog ->
      (run files otherSetting otherArguments).1 =
        (run files setting arguments).1 ∧
      (∀ location, log ≠ some location -> otherLog ≠ some location ->
        (run files otherSetting otherArguments).2.files.node? location =
          (run files setting arguments).2.files.node? location) ∧
      ((request.Obstructed files log ↔ request.Obstructed files otherLog) ->
        (run files otherSetting otherArguments).2.output =
          (run files setting arguments).2.output) := by
  obtain ⟨found, behind, ends⟩ := request_ends setting logs
  rw [run_of_get asked]
  refine ⟨?_, ?_, ?_, ?_⟩
  · intro clear
    rw [← behind.of_clear clear]
    exact ends
  · intro obstructed
    obtain ⟨fault, fails, rfl⟩ := behind.of_obstructed obstructed
    exact ⟨fault, fails, ends⟩
  · intro location isLog
    obtain ⟨more, isFile⟩ := ends.carries.logged.grows location isLog
    rw [behind.ending.2, Request.held_ofOutcome (logs.spares location isLog)]
      at isFile
    exact ⟨more, isFile⟩
  · intro otherSetting otherArguments otherLogfile otherLog otherAsked otherLogs
    obtain ⟨other, otherBehind, otherEnds⟩ :=
      request_ends otherSetting otherLogs
    -- The log file does not matter to what a request comes to.
    have otherBehind : request.OutcomeBehind files otherLog other :=
      ⟨otherBehind.of_clear, otherBehind.of_obstructed⟩
    rw [run_of_get otherAsked]
    refine ⟨?_, ?_, ?_⟩
    · rw [ends.code_eq, otherEnds.code_eq, behind.ending.1,
        otherBehind.ending.1]
    · intro location notLog notOtherLog
      rw [ends.carries.logged.node?_eq location notLog,
        otherEnds.carries.logged.node?_eq location notOtherLog,
        behind.ending.2, otherBehind.ending.2]
    · intro alike
      rw [ends.carries.output_eq, otherEnds.carries.output_eq,
        behind.unique otherBehind alike]

/-- A tree with a table of two districts and a log file. -/
def twoDistricts : Files where
  entries :=
    [(["in.csv"], .file (bytesOf
      "Id,District,Datetime,Weight\n1,A,2024-1-2 3:04,5\n2,B,soon,7\n")),
      (["run.log"], .file (bytesOf "old\n"))]
  workingDirectory := []

/-- Asks for one of the districts. -/
def narrowing (outfile : String) (logfile : Option String) : Request where
  file := "in.csv"
  criteria := { district := some "A", earliest := none, latest := none }
  outfile := some outfile
  logfile := logfile

/-- The command line that asks for it. -/
def narrowingArguments (outfile : String) (logfile : Option String) :
    List String :=
  ["get", "in.csv", "--district=A", "--outfile", outfile] ++
    logfile.elim [] fun path => ["--logfile", path]

/-- What the table is narrowed to. -/
def narrowed : List UInt8 :=
  bytesOf "Id,District,Datetime,Weight\n1,A,2024-01-02 03:04:00,5\n"

theorem ends_as_outcome_narrowing :
    let silent := run twoDistricts none (narrowingArguments "in.csv" none)
    let logged := run twoDistricts (some "trace")
      (narrowingArguments "in.csv" (some "run.log"))
    logged.1 = 0 ∧ logged.2.output = [] ∧
      logged.2.files.node? ["in.csv"] = some (.file narrowed) ∧
      (∃ more, logged.2.files.node? ["run.log"] =
        some (.file (bytesOf "old\n" ++ more))) ∧
      silent.1 = 0 ∧ silent.2.output = [] ∧
      silent.2.files.node? ["in.csv"] = some (.file narrowed) := by
  have asked : Command.ofArguments
      (narrowingArguments "in.csv" (some "run.log")) =
        .get (narrowing "in.csv" (some "run.log")) := by decide +kernel
  have otherAsked : Command.ofArguments (narrowingArguments "in.csv" none) =
      .get (narrowing "in.csv" none) := by decide +kernel
  have opens : twoDistricts.openForAppending "run.log" =
      .ok (["run.log"], twoDistricts) := rfl
  have logs : (narrowing "in.csv" (some "run.log")).LogsTo twoDistricts
      (some ["run.log"]) := by
    refine .file rfl opens ⟨by decide +kernel, ?_⟩
    rintro _ ⟨⟩
    decide +kernel
  have clear : ¬ (narrowing "in.csv" (some "run.log")).Obstructed twoDistricts
      (some ["run.log"]) := by
    rintro ⟨_, _, _, ⟨⟩, missing, _⟩
    cases missing
  have unlogged : ¬ (narrowing "in.csv" (some "run.log")).Obstructed
      twoDistricts none := by
    rintro ⟨_, _, _, ⟨⟩, _⟩
  have comes : (narrowing "in.csv" (some "run.log")).outcome twoDistricts =
      .ok ⟨some ["in.csv"], narrowed⟩ := by decide +kernel
  obtain ⟨ends, _, grows, others⟩ := ends_as_outcome twoDistricts (some "trace")
    (narrowingArguments "in.csv" (some "run.log")) _ _ asked logs
  obtain ⟨code, carries⟩ := ends clear
  rw [comes] at code carries
  have filed := carries.logged.node?_eq ["in.csv"] (by decide)
  obtain ⟨sameCode, sameFiles, sameOutput⟩ :=
    others none _ none none otherAsked (.nowhere rfl)
  refine ⟨code, carries.output_eq, filed, grows _ rfl, sameCode.trans code, ?_,
    (sameFiles ["in.csv"] (by decide) (by decide)).trans filed⟩
  exact (sameOutput (iff_of_false clear unlogged)).trans carries.output_eq

/-- With a log file in the place of a directory that is missing, a run tells
another reason why it fails than without a log. -/
theorem output_ne_behind_new_logfile :
    let silent := run twoDistricts none (narrowingArguments "new.log/x" none)
    let logged := run twoDistricts none
      (narrowingArguments "new.log/x" (some "new.log"))
    Command.ofArguments (narrowingArguments "new.log/x" none) =
        .get (narrowing "new.log/x" none) ∧
      (narrowing "new.log/x" none).LogsTo twoDistricts none ∧
      Command.ofArguments (narrowingArguments "new.log/x" (some "new.log")) =
        .get (narrowing "new.log/x" (some "new.log")) ∧
      (narrowing "new.log/x" (some "new.log")).LogsTo twoDistricts
        (some ["new.log"]) ∧
      silent.2.output = bytesOf
        "Cannot write output: No such file or directory (os error 2)\n" ∧
      logged.2.output = bytesOf
        "Cannot write output: Not a directory (os error 20)\n" ∧
      logged.2.output ≠ silent.2.output := by
  intro silent logged
  have lost : silent.2.output = bytesOf
      "Cannot write output: No such file or directory (os error 2)\n" := by
    decide +kernel
  have blocked : logged.2.output = bytesOf
      "Cannot write output: Not a directory (os error 20)\n" := by
    decide +kernel
  have opens : twoDistricts.openForAppending "new.log" =
      .ok (["new.log"], twoDistricts.put ["new.log"] (.file [])) := rfl
  refine ⟨by decide +kernel, .nowhere rfl, by decide +kernel, ?_, lost, blocked,
    ?_⟩
  · refine .file rfl opens ⟨by decide +kernel, ?_⟩
    rintro _ ⟨⟩
    decide +kernel
  · rw [lost, blocked]
    decide +kernel

end Machine
end Deliveries
