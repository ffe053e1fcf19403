import LogProblems.CommandLine.Run

/-!
# The program

Reads the files that a command needs, runs it, writes what it told and what it wrote, and
saves its session.
-/

set_option autoImplicit false

namespace LogProblems.CommandLine

/-- The error that reading a directory gives. -/
def directoryCode : UInt32 := 21

/-- The content of a file on the disk, or that there is a directory. -/
def entryAt? (path : String) : IO (Option Entry) := do
  match ← (IO.FS.readBinFile path).toBaseIO with
  | .ok content => return some (.file content.toList)
  | .error (.inappropriateType _ code _) =>
    return if code == directoryCode then some .directory else none
  | .error _ => return none

/-- The path of the directory that a path with several parts leads through last. -/
def above? (path : String) : Option String :=
  match (path.splitOn "/").reverse with
  | _ :: part :: rest => some ("/".intercalate (part :: rest).reverse)
  | _ => none

/-- What stands under a path on the disk, put into a tree; if it is nothing, then the
directory where it could stand. -/
def fetch (files : FileTree) (path : String) : IO FileTree := do
  match ← entryAt? path with
  | some e => return files.place path e
  | none =>
    match above? path with
    | none => return files
    | some dir =>
      match ← entryAt? dir with
      | some e => return files.place dir e
      | none => return files

/-- Reads the files of a command; the second round finds those named in the first. -/
def fetchInputs (command : Command) : IO FileTree := do
  let files ← (command.inputs {}).foldlM fetch {}
  (command.inputs files).foldlM fetch files

/-- Writes a file that a run has changed. -/
def store (before after : FileTree) (path : String) : IO Unit := do
  if before != after then
    if let .ok content := after.read path then
      IO.FS.writeBinFile path ⟨content.toArray⟩

/-- A notice as it is logged, without the time. -/
def logLine (notice : Matcher.Notice) : String :=
  s!" WARN {notice.message} matcher={notice.matcher}\n"

end LogProblems.CommandLine

open LogProblems LogProblems.CommandLine

/-- Runs the program on the files of the disk. -/
def main (arguments : List String) : IO UInt32 := do
  let (files, saved) ←
    match Invocation.ofArguments arguments with
    | .ok i => do pure (← fetchInputs i.command, i.command.output?)
    | .error _ => pure ({}, none)
  let stdout ← IO.getStdout
  let outcome := run files (← stdout.isTty) arguments
  let stderr ← IO.getStderr
  stderr.putStr (String.join (outcome.notices.map logLine))
  stdout.putStr outcome.output
  stdout.flush
  stderr.putStr outcome.errors
  if let some path := saved then store files outcome.files path
  return outcome.exitCode.toUInt32
