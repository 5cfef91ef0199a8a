import Deliveries.Run

/-!
# The program

The command line of the program, run on the machine's own files.
-/

namespace Deliveries
namespace Main

/-- What the system says when it refuses something. -/
def refusal (error : IO.Error) : Refusal :=
  match error with
  | .noFileOrDirectory _ code details
  | .interrupted _ code details
  | .alreadyExists _ code details
  | .invalidArgument _ code details
  | .permissionDenied _ code details
  | .resourceExhausted _ code details
  | .inappropriateType _ code details
  | .noSuchThing _ code details
  | .otherError code details
  | .resourceBusy code details
  | .resourceVanished code details
  | .unsupportedOperation code details
  | .hardwareFault code details
  | .unsatisfiedConstraints code details
  | .illegalOperation code details
  | .protocolError code details
  | .timeExpired code details => ⟨code.toNat, details⟩
  | .unexpectedEof | .userError _ => ⟨0, toString error⟩

/-- Does something that the system may refuse. -/
def attempt {α : Type} (action : IO α) : IO (Except Refusal α) := do
  return (← action.toBaseIO).mapError refusal

/-- Reads a file until it ends or cannot be read on. -/
def readAll (file : IO.FS.Handle) : IO Csv.Source := do
  let mut served := ByteArray.empty
  let mut ending := Csv.Ending.complete
  repeat
    match ← attempt (file.read 65536) with
    | .error cause =>
      ending := .broken cause.message
      break
    | .ok block =>
      if block.isEmpty then
        break
      served := served ++ block
  return ⟨served.toList, ending⟩

/-- The numbers of the refusals that say that a path leads to no file: a name
on it is missing, not one of a directory or too long, its links go round, or
what it leads to cannot be opened by anyone. -/
def nowhere : List Nat :=
  [Refusal.notFound.code, Refusal.notDirectory.code, Refusal.nameTooLong.code,
    40, 6]

/-- Opens the file that a path leads to and reads it.  A directory can be
opened, but is told by the reason why it cannot be read; a device or a pipe
cannot be told from a file here, and is read like one. -/
def source (path : String) : IO (Option (Except Refusal Csv.Source)) := do
  match ← attempt (IO.FS.Handle.mk path .read) with
  | .error cause =>
    return if nowhere.contains cause.code then none else some (.error cause)
  | .ok file =>
    let source ← readAll file
    if source.ending = .broken Refusal.isDirectory.message then
      return none
    return some (.ok source)

/-- The host that is the machine the program runs on. -/
def host : Host IO IO.FS.Handle where
  source := source
  openForAppending path := attempt (IO.FS.Handle.mk path .append)
  create path := attempt (IO.FS.Handle.mk path .write)
  append handle bytes := attempt do
    handle.write ⟨bytes.toArray⟩
    handle.flush
  print bytes := attempt do
    let output ← IO.getStdout
    output.write ⟨bytes.toArray⟩
    output.flush
  report line := do
    let _ ← attempt (IO.eprintln line)

end Main
end Deliveries

/-- Runs the command line that the program was started with. -/
def main (arguments : List String) : IO UInt32 := do
  let setting ← IO.getEnv "RUST_LOG"
  Deliveries.Run.commandLine Deliveries.Main.host setting arguments
