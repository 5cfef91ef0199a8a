import Mathlib.Data.List.Basic
import Deliveries.Proofs.Files.Paths

/-!
# Trees with a log file

A log file that is made, or to which bytes are added, changes a tree at one
location.  Paths lead to the same places as before, except to the log file
itself.  Only the reason why a path leads nowhere may be another one: behind a
missing name there was nothing, and behind a file there is no directory.
-/

namespace Deliveries
namespace Files

variable {files before after : Files} {location : Location}
  {log : Option Location}

/-- The bytes of the file at a location, none if there is no file. -/
def held (files : Files) (location : Location) : List UInt8 :=
  match files.node? location with
  | some (.file bytes) => bytes
  | _ => []

theorem held_eq {bytes : List UInt8}
    (isFile : files.node? location = some (.file bytes)) :
    files.held location = bytes := by
  rw [held, isFile]

/-- A file that is opened for appending holds what it held, nothing if it is
new. -/
theorem holds_of_openForAppending {path : String}
    (opens : before.openForAppending path = .ok (location, after)) :
    after.workingDirectory = before.workingDirectory ∧
      after.node? location = some (.file (before.held location)) := by
  have leads := (openForAppending_eq_ok opens).1
  have noDirectory := not_directory_of_target leads
  rw [openForAppending_of_target leads] at opens
  cases present : before.node? location with
  | none =>
    rw [if_pos present] at opens
    cases opens
    refine ⟨rfl, ?_⟩
    rw [node?_put_self (ne_root_of_not_directory noDirectory), held, present]
  | some node =>
    cases node with
    | directory => exact absurd present noDirectory
    | file bytes =>
      rw [present, if_neg nofun] at opens
      cases opens
      refine ⟨rfl, ?_⟩
      rw [held_eq present, present]

/-- The second tree is the first one but for the log file, which may be new and
to which bytes may have been added. -/
structure Logged (log : Option Location) (before after : Files) : Prop where
  workingDirectory_eq : after.workingDirectory = before.workingDirectory
  node?_eq : ∀ location, log ≠ some location ->
    after.node? location = before.node? location
  no_directory : ∀ location, log = some location ->
    before.node? location ≠ some .directory
  grows : ∀ location, log = some location ->
    ∃ more, after.node? location =
      some (.file (before.held location ++ more))

/-! ## Changes of a log file -/

namespace Logged

/-- Without a log file nothing changes. -/
theorem unlogged (files : Files) : Logged none files files :=
  ⟨rfl, fun _ _ => rfl, nofun, nofun⟩

theorem isFile (logged : Logged log before after)
    {location : Location} (isLog : log = some location) :
    ∃ bytes, after.node? location = some (.file bytes) := by
  obtain ⟨more, isFile⟩ := logged.grows location isLog
  exact ⟨_, isFile⟩

theorem append (logged : Logged (some location) before after)
    (bytes : List UInt8) :
    Logged (some location) before (after.append location bytes) := by
  refine ⟨?_, ?_, logged.no_directory, ?_⟩
  · rw [workingDirectory_append, logged.workingDirectory_eq]
  · intro other elsewhere
    have apart : other ≠ location := fun same =>
      elsewhere (congrArg some same.symm)
    rw [node?_append_of_ne apart, logged.node?_eq other elsewhere]
  · rintro other ⟨⟩
    obtain ⟨more, isFile⟩ := logged.grows location rfl
    refine ⟨more ++ bytes, ?_⟩
    rw [node?_append_self isFile, List.append_assoc]

/-- The same node may be put into both trees. -/
theorem put (logged : Logged log before after)
    (below : location ≠ []) (apart : log ≠ some location) (node : Node) :
    Logged log (before.put location node) (after.put location node) := by
  have away {other : Location} (isLog : log = some other) :
      other ≠ location := fun same => apart (same ▸ isLog)
  refine ⟨logged.workingDirectory_eq, ?_, ?_, ?_⟩
  · intro other elsewhere
    by_cases here : other = location
    · subst here
      rw [node?_put_self below, node?_put_self below]
    · rw [node?_put_of_ne here, node?_put_of_ne here,
        logged.node?_eq other elsewhere]
  · intro other isLog
    rw [node?_put_of_ne (away isLog)]
    exact logged.no_directory other isLog
  · intro other isLog
    obtain ⟨more, isFile⟩ := logged.grows other isLog
    refine ⟨more, ?_⟩
    rw [node?_put_of_ne (away isLog), isFile, held, held,
      node?_put_of_ne (away isLog)]

/-- Opening a log file for appending makes it at most. -/
theorem of_openForAppending {path : String}
    (opens : before.openForAppending path = .ok (location, after)) :
    Logged (some location) before after := by
  obtain ⟨leads, elsewhere⟩ := openForAppending_eq_ok opens
  obtain ⟨stays, holds⟩ := holds_of_openForAppending opens
  refine ⟨stays, ?_, ?_, ?_⟩
  · intro other apart
    exact elsewhere other fun same => apart (congrArg some same.symm)
  · rintro _ ⟨⟩
    exact not_directory_of_target leads
  · rintro _ ⟨⟩
    refine ⟨[], ?_⟩
    rw [holds, List.append_nil]

end Logged

/-! ## Paths in both trees -/

/-- A path leads through a log file that is missing. -/
def Obstructed (files : Files) (log : Option Location) (path : String) : Prop :=
  ∃ location, log = some location ∧ files.node? location = none ∧
    files.LeadsThrough path location

namespace Logged

theorem origin_eq (logged : Logged log before after) (path : String) :
    after.origin path = before.origin path := by
  unfold origin
  rw [logged.workingDirectory_eq]

/-- A name leads to the same location, unless it is looked up in a log file
that was missing. -/
theorem childOf_eq (logged : Logged log before after)
    {start : Location}
    (present : log = some start -> before.node? start ≠ none)
    (name : String) : after.childOf start name = before.childOf start name := by
  by_cases isLog : log = some start
  · obtain ⟨bytes, isFile⟩ := logged.isFile isLog
    cases found : before.node? start with
    | none => exact absurd found (present isLog)
    | some node =>
      cases node with
      | directory => exact absurd found (logged.no_directory start isLog)
      | file held => rw [childOf, childOf, isFile, found]
  · unfold childOf
    rw [logged.node?_eq start isLog]

/-- Names lead to the same location, unless they lead through a log file that
was missing. -/
theorem follow_eq_or_passes (logged : Logged log before after)
    (start : Location) (names : List String) :
    after.follow start names = before.follow start names ∨
      ∃ location, log = some location ∧ before.node? location = none ∧
        before.Passes start names location := by
  induction names generalizing start with
  | nil => exact .inl rfl
  | cons name rest ih =>
    -- Either the missing log file is where the next name is looked up, or that
    -- name leads to the same location in both trees.
    by_cases lost : log = some start ∧ before.node? start = none
    · exact .inr ⟨start, lost.1, lost.2, [], name :: rest, rfl, nofun, rfl⟩
    · have same := logged.childOf_eq
        (fun isLog missing => lost ⟨isLog, missing⟩) name
      rw [follow, follow, same]
      cases child : before.childOf start name with
      | error cause => exact .inl rfl
      | ok next =>
        rcases ih next with follows | ⟨location, isLog, missing, passes⟩
        · exact .inl follows
        · exact .inr ⟨location, isLog, missing, passes.cons child⟩

/-- Names that lead through a log file which was missing found nothing there,
and now find no directory. -/
theorem follow_of_passes (logged : Logged log before after)
    (isLog : log = some location) (missing : before.node? location = none)
    {start : Location} {names : List String}
    (passes : before.Passes start names location) :
    before.follow start names = .error .notFound ∧
      after.follow start names = .error .notDirectory := by
  obtain ⟨front, back, rfl, further, leads⟩ := passes
  obtain ⟨bytes, isFile⟩ := logged.isFile isLog
  have reaches : after.follow start front = .ok location := by
    rcases logged.follow_eq_or_passes start front with follows |
      ⟨other, _, absent, initial, more, rfl, beyond, reached⟩
    · rw [follows, leads]
    · -- Nothing was reached through a file that was missing.
      rw [follow_append, reached] at leads
      change before.follow other more = .ok location at leads
      rw [follow_of_missing absent beyond] at leads
      cases leads
  constructor
  · rw [follow_append, leads]
    exact follow_of_missing missing further
  · rw [follow_append, reaches]
    exact follow_of_file isFile further

/-- A path leads to the same location, or nowhere in either tree. -/
theorem place_eq_or (logged : Logged log before after) (path : String) :
    after.place path = before.place path ∨
      before.place path = .error .notFound ∧
        after.place path = .error .notDirectory := by
  unfold place
  rw [logged.origin_eq]
  cases before.origin path with
  | error cause => exact .inl rfl
  | ok origin =>
    rcases logged.follow_eq_or_passes origin _ with follows |
      ⟨location, isLog, missing, passes⟩
    · exact .inl follows
    · exact .inr (logged.follow_of_passes isLog missing passes)

/-- Apart from the log file, the same bytes are read from a path. -/
theorem read?_eq (logged : Logged log before after) {path : String}
    (apart : ∀ location, log = some location ->
      before.place path ≠ .ok location) :
    after.read? path = before.read? path := by
  unfold read?
  rw [resolve_eq, resolve_eq]
  rcases logged.place_eq_or path with same | ⟨lost, blocked⟩
  · rw [same]
    cases leads : before.place path with
    | error cause => rfl
    | ok location =>
      have elsewhere : log ≠ some location :=
        fun isLog => apart location isLog leads
      dsimp only [bind, Except.bind]
      rw [logged.node?_eq location elsewhere]
  · rw [lost, blocked]
    rfl

theorem writable_eq (logged : Logged log before after)
    (apart : log = some location -> before.writable location ≠ .ok location) :
    after.writable location = before.writable location := by
  have elsewhere : log ≠ some location := by
    intro isLog
    apply apart isLog
    exact if_neg (logged.no_directory location isLog)
  unfold writable
  rw [logged.node?_eq location elsewhere]

/-- Apart from the log file, a path that is not obstructed is opened for writing
at the same location. -/
theorem target_eq (logged : Logged log before after) {path : String}
    (apart : ∀ location, log = some location ->
      before.target path ≠ .ok location)
    (clear : ¬ before.Obstructed log path) :
    after.target path = before.target path := by
  rcases List.eq_nil_or_concat' (names path) with
    nameless | ⟨front, name, named⟩
  · rw [target_of_no_name nameless, target_of_no_name nameless,
      logged.origin_eq]
  · rw [Files.target_eq named, Files.target_eq named, logged.origin_eq]
    simp only [Files.target_eq named] at apart
    cases begins : before.origin path with
    | error cause => rfl
    | ok origin =>
      rw [begins] at apart
      change ∀ location, _ -> before.follow origin _ >>= _ ≠ _ at apart
      change after.follow origin _ >>= _ = before.follow origin _ >>= _
      rcases logged.follow_eq_or_passes origin (front ++ [lastStep path name])
        with follows | ⟨location, isLog, missing, passes⟩
      · rw [follows]
        cases leads : before.follow origin (front ++ [lastStep path name]) with
        | error cause => rfl
        | ok location =>
          rw [leads] at apart
          exact logged.writable_eq fun isLog => apart location isLog
      · refine absurd ⟨location, isLog, missing, origin, begins, ?_⟩ clear
        rw [named]
        exact passes.concat name

/-- A path that is obstructed is opened in neither tree. -/
theorem target_of_obstructed (logged : Logged log before after) {path : String}
    (obstructed : before.Obstructed log path) :
    before.target path = .error .notFound ∧
      after.target path = .error .notDirectory := by
  obtain ⟨location, isLog, missing, origin, begins, passes⟩ := obstructed
  rcases List.eq_nil_or_concat' (names path) with
    nameless | ⟨front, name, named⟩
  · obtain ⟨initial, back, split, further, _⟩ := passes
    rw [nameless] at split
    exact absurd (List.append_eq_nil_iff.mp split.symm).2 further
  · rw [named] at passes
    obtain ⟨lost, blocked⟩ := logged.follow_of_passes isLog missing
      (passes.concat (lastStep path name))
    rw [Files.target_eq named, Files.target_eq named, logged.origin_eq, begins]
    constructor
    · change before.follow origin _ >>= _ = _
      rw [lost]
      rfl
    · change after.follow origin _ >>= _ = _
      rw [blocked]
      rfl

end Logged

end Files
end Deliveries
