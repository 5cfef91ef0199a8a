import Deliveries.Text.Utf8

/-!
# File trees

A file tree maps paths to directories and files.  A path is given as text and
followed name by name: every name before the last must lead to a directory,
`.` stays and `..` goes back.  What cannot be opened is refused with the
system's number and reason.
-/

namespace Deliveries

/-- Why the system does not open a file. -/
structure Refusal where
  code : Nat
  reason : String
deriving DecidableEq

namespace Refusal

def notFound : Refusal := ⟨2, "No such file or directory"⟩

def notDirectory : Refusal := ⟨20, "Not a directory"⟩

def isDirectory : Refusal := ⟨21, "Is a directory"⟩

def nameTooLong : Refusal := ⟨36, "File name too long"⟩

/-- The text of a refusal: its reason and number. -/
def message (refusal : Refusal) : String :=
  refusal.reason ++ " (os error " ++ toString refusal.code ++ ")"

end Refusal

/-- What a path leads to. -/
inductive Node where
  | directory
  | file (bytes : List UInt8)
deriving DecidableEq

/-- The names that lead from the root to a node. -/
abbrev Location := List String

/-- A tree of files with the directory in which relative paths begin. -/
structure Files where
  entries : List (Location × Node)
  workingDirectory : Location

namespace Files

/-- The node at a location.  The root is always a directory. -/
def node? (files : Files) (location : Location) : Option Node :=
  if location = [] then some .directory else files.entries.lookup location

/-- Replaces the entry at a location, or adds one behind the others. -/
def putEntry (location : Location) (node : Node) :
    List (Location × Node) -> List (Location × Node)
  | [] => [(location, node)]
  | entry :: rest =>
    if entry.1 = location then
      (location, node) :: rest
    else
      entry :: putEntry location node rest

/-- Puts a node at a location. -/
def put (files : Files) (location : Location) (node : Node) : Files :=
  { files with entries := putEntry location node files.entries }

theorem lookup_cons_of_ne {location other : Location} (differs : other ≠ location)
    (node : Node) (entries : List (Location × Node)) :
    List.lookup other ((location, node) :: entries) = entries.lookup other := by
  have unequal : (other == location) = false := by simpa using differs
  rw [List.lookup_cons, unequal]

/-- An entry that was put is found, and hides nothing else. -/
theorem lookup_putEntry (location other : Location) (node : Node)
    (entries : List (Location × Node)) :
    (putEntry location node entries).lookup other =
      if other = location then some node else entries.lookup other := by
  induction entries with
  | nil =>
    by_cases same : other = location
    · subst same
      simp [putEntry]
    · simp [putEntry, lookup_cons_of_ne same, same]
  | cons entry rest ih =>
    obtain ⟨place, held⟩ := entry
    by_cases here : place = location
    · subst here
      by_cases same : other = place
      · subst same
        simp [putEntry]
      · simp [putEntry, lookup_cons_of_ne same, same]
    · by_cases there : other = place
      · subst there
        simp [putEntry, here]
      · simp [putEntry, here, lookup_cons_of_ne there, ih]

/-! ## Paths -/

/-- Splits a text at slashes. -/
def segments : List Char -> List (List Char)
  | [] => [[]]
  | character :: rest =>
    if character = '/' then
      [] :: segments rest
    else
      match segments rest with
      | [] => [[character]]
      | segment :: others => (character :: segment) :: others

/-- The names of a path; empty ones between slashes do not count. -/
def names (path : String) : List String :=
  ((segments path.toList).filter (fun segment => !segment.isEmpty)).map
    String.ofList

/-- How many bytes one name may have. -/
def longestName : Nat := 255

/-- How many bytes a whole path may have. -/
def longestPath : Nat := 4095

/-- Where a path begins: at the root after a slash, else in the working
directory.  The empty path leads nowhere. -/
def origin (files : Files) (path : String) : Except Refusal Location :=
  if path.toList = [] then
    .error .notFound
  else if longestPath < (Text.bytesOf path).length then
    .error .nameTooLong
  else if path.toList.head? = some '/' then
    .ok []
  else
    .ok files.workingDirectory

/-- The location that one name leads to, where a missing node is left to the
caller. -/
def childOf (files : Files) (location : Location) (name : String) :
    Except Refusal Location :=
  match files.node? location with
  | none => .error .notFound
  | some (.file _) => .error .notDirectory
  | some .directory =>
    if name = "." then
      .ok location
    else if name = ".." then
      .ok location.dropLast
    else if longestName < (Text.bytesOf name).length then
      .error .nameTooLong
    else
      .ok (location ++ [name])

/-- Follows names from a location. -/
def follow (files : Files) (location : Location) :
    List String -> Except Refusal Location
  | [] => .ok location
  | name :: rest => do follow files (← files.childOf location name) rest

/-- A path that ends in a slash must lead to a directory. -/
def endsInSlash (path : String) : Bool :=
  path.toList.getLast? == some '/'

/-- The node that a path leads to. -/
def resolve (files : Files) (path : String) : Except Refusal Node := do
  let origin ← files.origin path
  let last := if endsInSlash path then ["."] else []
  let location ← files.follow origin (names path ++ last)
  match files.node? location with
  | some node => .ok node
  | none => .error .notFound

/-- The bytes of the file that a path leads to, unless it leads elsewhere. -/
def read? (files : Files) (path : String) : Option (List UInt8) :=
  match files.resolve path with
  | .ok (.file bytes) => some bytes
  | _ => none

/-- The location at which a path is opened for writing: that of a file, or a
free one in a directory.  A last name that could only be a directory's is
refused before it is looked at. -/
def target (files : Files) (path : String) : Except Refusal Location := do
  let origin ← files.origin path
  match (names path).getLast? with
  | none => .error .isDirectory
  | some name =>
    let directory ← files.follow origin (names path).dropLast
    let isDirectoryName := endsInSlash path || name == "." || name == ".."
    let location ←
      files.childOf directory (if isDirectoryName then "." else name)
    if files.node? location = some .directory then
      .error .isDirectory
    else
      .ok location

/-! ## Changes -/

/-- Opens a file for writing and empties it. -/
def create (files : Files) (path : String) :
    Except Refusal (Location × Files) := do
  let location ← files.target path
  return (location, files.put location (.file []))

/-- Opens a file for appending: a missing one is made, any other is left as it
is. -/
def openForAppending (files : Files) (path : String) :
    Except Refusal (Location × Files) := do
  let location ← files.target path
  match files.node? location with
  | some _ => return (location, files)
  | none => return (location, files.put location (.file []))

/-- Adds bytes at the end of a file. -/
def append (files : Files) (location : Location) (bytes : List UInt8) :
    Files :=
  match files.node? location with
  | some (.file held) => files.put location (.file (held ++ bytes))
  | _ => files

/-- The files that are new or hold other bytes than before. -/
def changesSince (before after : Files) : List (Location × List UInt8) :=
  after.entries.filterMap fun (location, node) =>
    match node with
    | .directory => none
    | .file bytes =>
      if before.node? location = some node then none
      else some (location, bytes)

end Files
end Deliveries
