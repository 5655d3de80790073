/-!
# What the command needs from its machine

The command reads event scripts from files, walks directories for them, reads the
standard input, and writes its output to a file, creating the directories above it.
`Host m` gathers these operations over a monad `m`: the executable runs them in `IO`,
and `Volume.host` runs them on a volume held in memory, where the whole command is a
pure function of its arguments, its input and the volume.

Failures of the file system are the four that these operations meet, with the codes
and texts of Linux.  The parent of a path, whose directories are made before a file is
written, is read off the path's text: the text before its last component, without
trailing separators and `.` parts.
-/

namespace TreeAssembly

/-- A failure of the file system. -/
inductive OsError where
  /-- A name on the path does not exist. -/
  | notFound
  /-- The name to create exists already. -/
  | alreadyExists
  /-- A name used as a directory is a file. -/
  | notADirectory
  /-- A directory was opened as a file. -/
  | isADirectory
  deriving DecidableEq, Repr, Inhabited

namespace OsError

/-- The error's number. -/
def code : OsError → Nat
  | notFound => 2
  | alreadyExists => 17
  | notADirectory => 20
  | isADirectory => 21

/-- The error's description. -/
def description : OsError → String
  | notFound => "No such file or directory"
  | alreadyExists => "File exists"
  | notADirectory => "Not a directory"
  | isADirectory => "Is a directory"

/-- The error as it is reported: `No such file or directory (os error 2)`. -/
def display (e : OsError) : String :=
  e.description ++ " (os error " ++ toString e.code ++ ")"

end OsError

/-- The parts of a path's text without the trailing empty and `.` parts after the
first. -/
def trimTrailingParts : List String → List String
  | [] => []
  | first :: rest => first :: (rest.reverse.dropWhile fun p => p == "" || p == ".").reverse

/-- The text of a path's parent: the text before its last component, without trailing
separators and `.` parts; the empty text for a single component, and none for the
empty path. -/
def parentPath (path : String) : Option String :=
  match trimTrailingParts (path.splitOn "/") with
  | [] => none
  | [p] => if p.isEmpty then none else some ""
  | parts => some ("/".intercalate (trimTrailingParts parts.dropLast))

/-- The file operations of the command, in the monad `m`. -/
structure Host (m : Type → Type) where
  /-- Whether the path names a directory. -/
  isDirectory : String → m Bool
  /-- The text of the file at the path. -/
  readText : String → m (Except OsError String)
  /-- The regular files below the directory at the path, as paths relative to it,
  listed depth first with the entries of each directory sorted by name. -/
  walk : String → m (Except OsError (List (List String)))
  /-- Creates the directory at the path and the missing ones above it. -/
  createDirectories : String → m (Except OsError Unit)
  /-- Writes text to the file at the path, creating or replacing it. -/
  writeText : String → String → m (Except OsError Unit)
  /-- The whole standard input. -/
  readInput : m String

end TreeAssembly
