import Deliveries.Proofs.Files

/-!
# Paths

To read from a path and to open it for writing come to the same: names are
followed from where the path begins.  A path leads through a location if it
still has names to follow from there.
-/

namespace Deliveries
namespace Files

variable {files : Files} {location : Location} {path name : String}

/-! ## Following names -/

theorem follow_append (files : Files) (start : Location)
    (front back : List String) :
    files.follow start (front ++ back) =
      files.follow start front >>= fun location =>
        files.follow location back := by
  induction front generalizing start with
  | nil => rfl
  | cons name rest ih =>
    rw [List.cons_append, follow, follow]
    cases files.childOf start name with
    | error cause => rfl
    | ok next => exact ih next

theorem follow_singleton (files : Files) (start : Location) (name : String) :
    files.follow start [name] = files.childOf start name := by
  rw [follow]
  cases files.childOf start name with
  | error cause => rfl
  | ok next => rfl

/-- Behind a location at which nothing is, every name is missing. -/
theorem follow_of_missing
    (missing : files.node? location = none) {back : List String}
    (further : back ≠ []) :
    files.follow location back = .error .notFound := by
  cases back with
  | nil => exact absurd rfl further
  | cons name rest =>
    rw [follow, childOf, missing]
    rfl

/-- Behind a file there are no names. -/
theorem follow_of_file
    {bytes : List UInt8} (isFile : files.node? location = some (.file bytes))
    {back : List String} (further : back ≠ []) :
    files.follow location back = .error .notDirectory := by
  cases back with
  | nil => exact absurd rfl further
  | cons name rest =>
    rw [follow, childOf, isFile]
    rfl

/-- Some of the names lead to a location, from which others are followed. -/
def Passes (files : Files) (start : Location) (names : List String)
    (location : Location) : Prop :=
  ∃ front back, names = front ++ back ∧ back ≠ [] ∧
    files.follow start front = .ok location

theorem Passes.cons {start next : Location} {rest : List String}
    (child : files.childOf start name = .ok next)
    (passes : files.Passes next rest location) :
    files.Passes start (name :: rest) location := by
  obtain ⟨front, back, split, further, leads⟩ := passes
  refine ⟨name :: front, back, congrArg (name :: ·) split, further, ?_⟩
  rw [follow, child]
  exact leads

/-- Whether names lead through a location does not depend on the last one. -/
theorem Passes.concat {start : Location} {front : List String} {last : String}
    (passes : files.Passes start (front ++ [last]) location)
    (other : String) : files.Passes start (front ++ [other]) location := by
  obtain ⟨before, back, split, further, leads⟩ := passes
  have shorter : before ≠ front ++ [last] := by
    rintro rfl
    exact further (List.append_right_eq_self.mp split.symm)
  have prefixed : before <+: front ++ [last] := ⟨back, split.symm⟩
  obtain ⟨later, rfl⟩ :=
    (List.prefix_concat_iff.mp prefixed).resolve_left shorter
  exact ⟨before, later ++ [other], List.append_assoc .., by simp, leads⟩

/-- A path leads through a location if its names do. -/
def LeadsThrough (files : Files) (path : String) (location : Location) :
    Prop :=
  ∃ origin, files.origin path = .ok origin ∧
    files.Passes origin (names path) location

/-! ## Reading from a path -/

/-- Where a path leads to, whether there is something or not. -/
def place (files : Files) (path : String) : Except Refusal Location :=
  files.origin path >>= fun origin =>
    files.follow origin
      (names path ++ if endsInSlash path then ["."] else [])

theorem resolve_eq (files : Files) (path : String) :
    files.resolve path =
      files.place path >>= fun location =>
        match files.node? location with
        | some node => .ok node
        | none => .error .notFound := by
  unfold resolve place
  cases files.origin path with
  | error cause => rfl
  | ok origin => rfl

/-! ## Opening a path for writing -/

/-- The last name that is followed when a path is opened for writing.  One that
could only be a directory's stands for the directory in front of it. -/
def lastStep (path name : String) : String :=
  if endsInSlash path || name == "." || name == ".." then "." else name

/-- A location at which a file may be written: a directory is refused. -/
def writable (files : Files) (location : Location) :
    Except Refusal Location :=
  if files.node? location = some .directory then
    .error .isDirectory
  else
    .ok location

/-- A path is opened at the location to which all its names lead, unless that
is a directory. -/
theorem target_eq {front : List String} (named : names path = front ++ [name])
    (files : Files) :
    files.target path =
      files.origin path >>= fun origin =>
        files.follow origin (front ++ [lastStep path name]) >>=
          files.writable := by
  unfold target
  simp only [named, List.getLast?_concat, List.dropLast_concat, follow_append,
    follow_singleton]
  cases files.origin path with
  | error cause => rfl
  | ok origin =>
    change (files.follow origin front >>= _) = (_ >>= _) >>= _
    cases files.follow origin front with
    | error cause => rfl
    | ok directory =>
      change (files.childOf directory (lastStep path name) >>= _) =
        files.childOf directory (lastStep path name) >>= _
      cases files.childOf directory (lastStep path name) with
      | error cause => rfl
      | ok location => rfl

theorem target_of_no_name (nameless : names path = []) :
    files.target path =
      files.origin path >>= fun _ => .error .isDirectory := by
  unfold target
  rw [nameless]
  rfl

/-- No directory is opened for writing. -/
theorem not_directory_of_target (leads : files.target path = .ok location) :
    files.node? location ≠ some .directory := by
  unfold target at leads
  dsimp only [bind, Except.bind] at leads
  split at leads
  · cases leads
  split at leads
  · cases leads
  split at leads
  · cases leads
  split at leads
  · cases leads
  split at leads
  · cases leads
  · next noDirectory =>
    cases leads
    exact noDirectory

/-- Opening for appending makes a file at most. -/
theorem openForAppending_of_target (leads : files.target path = .ok location) :
    files.openForAppending path = .ok (location,
      if files.node? location = none then files.put location (.file [])
      else files) := by
  unfold openForAppending
  rw [leads]
  dsimp only [bind, Except.bind, pure, Except.pure]
  cases files.node? location with
  | none => rfl
  | some node => rfl

end Files
end Deliveries
