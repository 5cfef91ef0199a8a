import Deliveries.Run

/-!
# Runs on a file tree

A machine is all that a run can change: a file tree, the standard output and
the lines of the console.  All of its files can be read, and it has room for
all that is written.
-/

namespace Deliveries

/-- The surroundings of a run as a value. -/
structure Machine where
  files : Files
  output : List UInt8
  console : List String

namespace Machine

/-- A machine on which nothing has been written yet. -/
def ofFiles (files : Files) : Machine := ⟨files, [], []⟩

/-- Opens a file, or leaves all as it is when that is refused. -/
def openWith (attempt : Files -> Except Refusal (Location × Files)) :
    StateM Machine (Except Refusal Location) := fun machine =>
  match attempt machine.files with
  | .error cause => (.error cause, machine)
  | .ok (location, files) => (.ok location, { machine with files })

/-- The host whose surroundings are a machine. -/
def host : Host (StateM Machine) Location where
  source path := fun machine =>
    ((machine.files.read? path).map fun bytes => .ok (.ofBytes bytes), machine)
  openForAppending path := openWith (·.openForAppending path)
  create path := openWith (·.create path)
  append location bytes := fun machine =>
    (.ok (), { machine with files := machine.files.append location bytes })
  print bytes := fun machine =>
    (.ok (), { machine with output := machine.output ++ bytes })
  report line := modify fun machine =>
    { machine with console := machine.console ++ [line] }

/-- Runs a command line on a file tree: the exit code and what is left. -/
def run (files : Files) (setting : Option String) (arguments : List String) :
    UInt32 × Machine :=
  (Run.commandLine host setting arguments).run (ofFiles files)

/-- Loads the dataset of a file of a tree. -/
def load (files : Files) (path : String) : Reading Dataset :=
  ((Run.load host ⟨.ofSetting none, none⟩ path).run (ofFiles files)).1

end Machine
end Deliveries
