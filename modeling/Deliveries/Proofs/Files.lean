import Deliveries.Files

/-!
# Changed trees

A change to a tree is a change at one location.  Opening a file for appending
changes at most the location that its path leads to.
-/

namespace Deliveries
namespace Files

variable {files : Files} {location other : Location}

/-- Putting a node changes no other location. -/
theorem node?_put_of_ne
    (elsewhere : other ≠ location) (node : Node) :
    (files.put location node).node? other = files.node? other := by
  unfold node? put
  rw [lookup_putEntry, if_neg elsewhere]

/-- A node that is put below the root is there. -/
theorem node?_put_self (below : location ≠ []) (node : Node) :
    (files.put location node).node? location = some node := by
  unfold node? put
  rw [if_neg below, lookup_putEntry, if_pos rfl]

/-- The root is a directory. -/
theorem ne_root_of_not_directory
    (noDirectory : files.node? location ≠ some .directory) :
    location ≠ [] := by
  rintro rfl
  exact noDirectory rfl

/-- Adding bytes to a file changes no other location. -/
theorem node?_append_of_ne
    (elsewhere : other ≠ location) (bytes : List UInt8) :
    (files.append location bytes).node? other = files.node? other := by
  unfold append
  split
  · exact node?_put_of_ne elsewhere _
  · rfl

/-- Adding bytes to a file changes nothing in front of them. -/
theorem node?_append_self
    {held : List UInt8} (isFile : files.node? location = some (.file held))
    (bytes : List UInt8) :
    (files.append location bytes).node? location =
      some (.file (held ++ bytes)) := by
  have noDirectory : files.node? location ≠ some .directory := by
    rw [isFile]
    nofun
  have below := ne_root_of_not_directory noDirectory
  unfold append
  rw [isFile]
  exact node?_put_self below _

theorem putEntry_putEntry (location : Location) (first second : Node)
    (entries : List (Location × Node)) :
    putEntry location second (putEntry location first entries) =
      putEntry location second entries := by
  induction entries with
  | nil => simp [putEntry]
  | cons entry rest ih =>
    by_cases here : entry.1 = location
    · simp [putEntry, here]
    · simp [putEntry, here, ih]

/-- What was put first is replaced. -/
theorem put_put (location : Location) (first second : Node) :
    (files.put location first).put location second =
      files.put location second := by
  unfold put
  rw [putEntry_putEntry]

/-- A file that is emptied and then filled holds nothing else. -/
theorem append_put (below : location ≠ []) (bytes : List UInt8) :
    (files.put location (.file [])).append location bytes =
      files.put location (.file bytes) := by
  unfold append
  rw [node?_put_self below]
  exact put_put location _ _

@[simp] theorem workingDirectory_append (bytes : List UInt8) :
    (files.append location bytes).workingDirectory =
      files.workingDirectory := by
  unfold append
  split
  · rfl
  · rfl

/-- A path that is opened for appending leads to a location, and nothing
changes elsewhere. -/
theorem openForAppending_eq_ok
    {path : String} {opened : Files}
    (opens : files.openForAppending path = .ok (location, opened)) :
    files.target path = .ok location ∧
      ∀ other, other ≠ location -> opened.node? other = files.node? other := by
  unfold openForAppending at opens
  cases leads : files.target path with
  | error cause =>
    rw [leads] at opens
    cases opens
  | ok place =>
    rw [leads] at opens
    dsimp only [bind, Except.bind, pure, Except.pure] at opens
    split at opens
    · cases opens
      exact ⟨rfl, fun _ _ => rfl⟩
    · cases opens
      exact ⟨rfl, fun _ elsewhere => node?_put_of_ne elsewhere _⟩

end Files
end Deliveries
