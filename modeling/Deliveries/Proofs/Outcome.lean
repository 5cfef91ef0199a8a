import Deliveries.Command
import Deliveries.Proofs.Dataset.Extract
import Deliveries.Proofs.Files.Logged

/-!
# Outcomes of requests

What a request comes to depends on a tree alone: the input is read and filtered,
the output is opened and written, and the first fault on the way ends it.  It
comes to the same in a tree in which its log file has been opened.  Only when
the run makes that file, and the path of the output leads through it, is there
another reason why the output cannot be opened.
-/

namespace Deliveries

open Text Csv

/-- What is delivered: bytes, and the location of the file that is to hold them.
Without one they are printed. -/
structure Delivery where
  place : Option Location
  bytes : List UInt8
deriving DecidableEq

/-! ## What a request comes to -/

namespace Request

variable {request : Request} {files : Files}

/-- The bytes of the input file. -/
def input (request : Request) (files : Files) : Except Fault (List UInt8) :=
  match files.read? request.file with
  | none => .error (.fileNotFound request.file)
  | some bytes => .ok bytes

/-- The dataset of the rows that are asked for. -/
def kept (request : Request) (files : Files) : Except Fault Dataset := do
  let bytes ← request.input files
  let dataset ← (Dataset.read (.ofBytes bytes)).result
  dataset.filter request.criteria

/-- The location of the output file, if one is named. -/
def destination (request : Request) (files : Files) :
    Except Fault (Option Location) :=
  match request.outfile with
  | none => .ok none
  | some path =>
    match files.target path with
    | .error cause => .error (.output (.opening cause))
    | .ok location => .ok (some location)

/-- What a request comes to in a tree. -/
def outcome (request : Request) (files : Files) : Except Fault Delivery := do
  let kept ← request.kept files
  let place ← request.destination files
  let bytes ← kept.write none
  return ⟨place, bytes⟩

theorem kept_eq (request : Request) (files : Files) :
    request.kept files =
      (request.input files >>= fun bytes =>
          (Dataset.read (.ofBytes bytes)).result) >>=
        fun dataset => dataset.filter request.criteria := by
  unfold kept
  cases request.input files with
  | error fault => rfl
  | ok bytes => rfl

theorem wellFormed_of_kept {dataset : Dataset}
    (keeps : request.kept files = .ok dataset) : dataset.WellFormed := by
  obtain ⟨bytes, _, later⟩ := Dataset.exists_of_bind_eq_ok keeps
  obtain ⟨whole, reads, filtered⟩ := Dataset.exists_of_bind_eq_ok later
  exact (Dataset.wellFormed_of_read reads).filter filtered

/-- Until the output is opened, no fault comes from it. -/
theorem ne_output_of_kept {fault : Fault}
    (failed : request.kept files = .error fault) (cause : OutputFault) :
    fault ≠ .output cause := by
  rintro rfl
  unfold kept at failed
  cases found : request.input files with
  | error fault =>
    rw [found] at failed
    cases failed
    unfold input at found
    split at found
    · cases found
    · cases found
  | ok bytes =>
    rw [found] at failed
    change (Dataset.read _).result >>= _ = _ at failed
    cases reads : (Dataset.read (.ofBytes bytes)).result with
    | error fault =>
      rw [reads] at failed
      cases failed
      rcases Dataset.missingColumns_or_input_of_read reads with
        columns | ⟨_, input⟩
      · cases columns
      · cases input
    | ok dataset =>
      rw [reads] at failed
      obtain ⟨_, _, bad⟩ := Dataset.filter_eq_error_iff.mp failed
      cases bad

/-- What is kept can be written. -/
theorem outcome_eq (request : Request) (files : Files) :
    request.outcome files =
      request.kept files >>= fun kept =>
        (request.destination files).map fun place =>
          ⟨place, kept.rendering⟩ := by
  unfold outcome
  cases keeps : request.kept files with
  | error fault => rfl
  | ok dataset =>
    have written :=
      Dataset.write_unlimited (wellFormed_of_kept keeps).rectangular
    cases request.destination files with
    | error fault => rfl
    | ok place =>
      change dataset.write none >>= _ = _
      rw [written]
      rfl

/-- What is filed goes to where the output is opened. -/
theorem target_of_outcome {location : Location} {bytes : List UInt8}
    (delivers : request.outcome files = .ok ⟨some location, bytes⟩) :
    ∃ path, request.outfile = some path ∧
      files.target path = .ok location := by
  rw [outcome_eq] at delivers
  obtain ⟨kept, _, places⟩ := Dataset.exists_of_bind_eq_ok delivers
  unfold destination at places
  cases named : request.outfile with
  | none =>
    rw [named] at places
    cases places
  | some path =>
    rw [named] at places
    dsimp only at places
    cases leads : files.target path with
    | error cause =>
      rw [leads] at places
      cases places
    | ok place =>
      rw [leads] at places
      cases places
      exact ⟨path, rfl, leads⟩

/-! ## Outcomes and logs -/

/-- A location is neither the one of the input nor the one of the output. -/
structure Spares (request : Request) (files : Files) (location : Location) :
    Prop where
  input : files.place request.file ≠ .ok location
  output : ∀ path, request.outfile = some path ->
    files.target path ≠ .ok location

/-- Where a request is logged: nowhere, or in a file that can be opened for
appending and is neither the input nor the output. -/
inductive LogsTo (request : Request) (files : Files) : Option Location -> Prop
  | nowhere (unnamed : request.logfile = none) : LogsTo request files none
  | file {path : String} {location : Location} {opened : Files}
      (named : request.logfile = some path)
      (opens : files.openForAppending path = .ok (location, opened))
      (spares : request.Spares files location) :
      LogsTo request files (some location)

/-- A log file that the run makes stands in the way of the output. -/
def Obstructed (request : Request) (files : Files) (log : Option Location) :
    Prop :=
  ∃ path, request.outfile = some path ∧ files.Obstructed log path

end Request

/-- The fault of an output whose path leads to nothing, when a file stands in
the way. -/
def Fault.inTheWay (fault : Fault) : Fault :=
  if fault = .output (.opening .notFound) then
    .output (.opening .notDirectory)
  else
    fault

namespace Request

variable {request : Request} {files later : Files} {log : Option Location}

theorem input_of_logged (logged : files.Logged log later)
    (spares : ∀ location, log = some location ->
      request.Spares files location) :
    request.input later = request.input files := by
  unfold input
  rw [logged.read?_eq fun location isLog => (spares location isLog).input]

theorem LogsTo.spares (logs : request.LogsTo files log) :
    ∀ location, log = some location -> request.Spares files location := by
  cases logs with
  | nowhere _ => nofun
  | file _ _ spares =>
    rintro _ ⟨⟩
    exact spares

/-- With the log file opened, it is still neither the input nor the output. -/
theorem Spares.of_logged {location : Location}
    (spares : request.Spares files location)
    (logged : files.Logged (some location) later) :
    request.Spares later location := by
  constructor
  · intro leads
    rcases logged.place_eq_or request.file with same | ⟨_, blocked⟩
    · exact spares.input (same.symm.trans leads)
    · rw [blocked] at leads
      cases leads
  · intro path named leads
    by_cases obstructed : files.Obstructed (some location) path
    · rw [(logged.target_of_obstructed obstructed).2] at leads
      cases leads
    · have apart : ∀ other, some location = some other ->
          files.target path ≠ .ok other := by
        rintro other ⟨⟩
        exact spares.output path named
      rw [logged.target_eq apart obstructed] at leads
      exact spares.output path named leads

/-- What a request comes to when its log file has been opened: the same, unless
the log file stands in the way. -/
structure OutcomeBehind (request : Request) (files : Files)
    (log : Option Location) (found : Except Fault Delivery) : Prop where
  of_clear : ¬ request.Obstructed files log -> found = request.outcome files
  of_obstructed : request.Obstructed files log ->
    ∃ fault, request.outcome files = .error fault ∧
      found = .error fault.inTheWay

/-- A fault of the input comes before the output is looked at. -/
theorem outcomeBehind_of_error {fault : Fault}
    (failed : request.kept files = .error fault) :
    request.OutcomeBehind files log (.error fault) := by
  have outcome : request.outcome files = .error fault := by
    rw [outcome_eq, failed]
    rfl
  constructor
  · intro _
    exact outcome.symm
  · intro _
    have other := ne_output_of_kept failed (.opening .notFound)
    refine ⟨fault, outcome, ?_⟩
    rw [Fault.inTheWay, if_neg other]

/-- With the log file opened, the output is opened at the same location as
before, unless the log file stands in the way. -/
theorem outcomeBehind_of_ok {dataset : Dataset}
    (keeps : request.kept files = .ok dataset)
    (logged : files.Logged log later)
    (spares : ∀ location, log = some location ->
      request.Spares files location) :
    request.OutcomeBehind files log
      ((request.destination later).map fun place =>
        ⟨place, dataset.rendering⟩) := by
  have outcome : request.outcome files =
      (request.destination files).map fun place =>
        ⟨place, dataset.rendering⟩ := by
    rw [outcome_eq, keeps]
    rfl
  unfold destination at *
  cases named : request.outfile with
  | none =>
    rw [named] at outcome
    have clear : ¬ request.Obstructed files log := by
      rintro ⟨path, other, _⟩
      rw [named] at other
      cases other
    exact ⟨fun _ => outcome.symm, fun obstructed => absurd obstructed clear⟩
  | some path =>
    rw [named] at outcome
    dsimp only at outcome ⊢
    constructor
    · intro clear
      rw [outcome, logged.target_eq
        (fun location isLog => (spares location isLog).output path named)
        (fun obstructed => clear ⟨path, named, obstructed⟩)]
    · rintro ⟨other, same, obstructed⟩
      cases named.symm.trans same
      obtain ⟨lost, blocked⟩ := logged.target_of_obstructed obstructed
      rw [lost] at outcome
      rw [blocked]
      exact ⟨_, outcome, rfl⟩

end Request

end Deliveries
