import TreeAssembly.Cli.Run

/-!
# The executable

Runs the command on the machine it is started on: scripts and output files through the
file system, the standard input, the two output streams and the exit code.  The
warnings of the builds are printed on the error stream before the rest, one line each.

The machine's host opens files by name only.  It tells a directory by opening it and
failing to read it, and it does not list directories: a directory input fails, as
unreadable, with `Is a directory (os error 21)`.
-/

namespace TreeAssembly

/-- The file-system failure behind an error of the machine. -/
def osErrorOf : IO.Error → OsError
  | .noFileOrDirectory .. => .notFound
  | .alreadyExists .. => .alreadyExists
  | .inappropriateType _ code _ => if code == 21 then .isADirectory else .notADirectory
  | _ => .notFound

/-- Runs a file operation, keeping its failure. -/
def attempt {α : Type} (act : IO α) : IO (Except OsError α) :=
  try return .ok (← act) catch e => return .error (osErrorOf e)

/-- Whether the path names a directory: it opens, and reading it fails as reading a
directory does. -/
def probeDirectory (path : String) : IO Bool := do
  match ← attempt (do let h ← IO.FS.Handle.mk path .read; h.read 1) with
  | .error .isADirectory => return true
  | _ => return false

/-- The command's file operations on the machine. -/
def machine : Host IO where
  isDirectory := probeDirectory
  readText path := attempt (IO.FS.readFile path)
  walk _ := return .error .isADirectory
  createDirectories path := attempt (IO.FS.createDirAll path)
  writeText path text := attempt (IO.FS.writeFile path text)
  readInput := do (← IO.getStdin).readToEnd


end TreeAssembly

/-- Runs the command with the process's arguments and exits with its code. -/
def main (args : List String) : IO UInt32 := do
  let outcome ← TreeAssembly.runCommand TreeAssembly.machine args
  for w in outcome.warnings do
    IO.eprintln ("WARN " ++ w.logText)
  IO.print outcome.stdout
  IO.eprint outcome.stderr
  return outcome.exitCode.toUInt32
