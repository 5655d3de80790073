import TreeAssembly.Cli.Host

/-!
# A directory tree in memory

A `Volume` is the working directory of a run of the command: the directories below it
and the files with their text, each named by its path of names from the top.  Path
texts given to the command are resolved against it the way the operating system does:

* the text is split at `/`; empty parts are dropped, `.` stays in place, `..` climbs
  (not past the top), and a trailing `/` asks for a directory;
* every name before the last must be a directory: a file there fails with
  `notADirectory`, a missing name with `notFound`.

On the resolved place, reading a directory fails with `isADirectory`; writing creates
or replaces a file, fails on a directory, and fails with `isADirectory` for a missing
name written with a trailing `/`; making a directory fails with `alreadyExists` when the
name is taken.  `createAll` makes a directory and its missing ancestors: it tries the
path, on `notFound` makes the parent first and tries again, and accepts a failure when
the path is a directory by then.
-/

namespace TreeAssembly

/-- A directory tree in memory: its directories and its files with their text. -/
structure Volume where
  directories : List (List String) := []
  files : List (List String × String) := []
  deriving Inhabited

/-- One part of a path's text: `.`, `..` or a name. -/
inductive PathStep where
  | here
  | up
  | down (name : String)

namespace PathStep

/-- The step a part of a path's text stands for. -/
def ofPart (part : String) : PathStep :=
  if part == "." then here else if part == ".." then up else down part

end PathStep

/-- Where a path leads in a volume. -/
inductive Place where
  /-- An existing directory. -/
  | directory (p : List String)
  /-- An existing file. -/
  | file (p : List String) (text : String)
  /-- A missing last name in an existing directory. -/
  | vacant (parent : List String) (name : String)
  /-- The path cannot be followed. -/
  | broken (e : OsError)

namespace Volume

/-- What stands at a path of names: a directory, a file's text, or nothing. -/
inductive Entry where
  | directory
  | file (text : String)

/-- The entry at the path of names `p`; the empty path is the top directory. -/
def entry? (v : Volume) (p : List String) : Option Entry :=
  if p.isEmpty || v.directories.contains p then some .directory
  else (v.files.lookup p).map .file

/-- Follows steps from the directory `cwd`. -/
def locate (v : Volume) (cwd : List String) : List PathStep → Place
  | [] => .directory cwd
  | .here :: rest => locate v cwd rest
  | .up :: rest => locate v cwd.dropLast rest
  | .down name :: rest =>
    let p := cwd ++ [name]
    match v.entry? p, rest with
    | some .directory, _ => locate v p rest
    | some (.file text), [] => .file p text
    | some (.file _), _ :: _ => .broken .notADirectory
    | none, [] => .vacant cwd name
    | none, _ :: _ => .broken .notFound

/-- The place a path's text leads to, and whether the text ends with `/`.  The empty
text leads nowhere. -/
def resolve (v : Volume) (path : String) : Place × Bool :=
  if path.isEmpty then (.broken .notFound, false)
  else (v.locate [] ((path.splitOn "/").filter (· ≠ "") |>.map PathStep.ofPart),
    path.endsWith "/")

/-- Whether the path's text names a directory. -/
def isDirectory (v : Volume) (path : String) : Bool :=
  match v.resolve path with
  | (.directory _, _) => true
  | _ => false

/-- The text of the file at a path. -/
def read (v : Volume) (path : String) : Except OsError String :=
  match v.resolve path with
  | (.directory _, _) => .error .isADirectory
  | (.file _ text, trailing) => if trailing then .error .notADirectory else .ok text
  | (.vacant .., _) => .error .notFound
  | (.broken e, _) => .error e

/-- The volume with the file at `p` holding `text`. -/
def putFile (v : Volume) (p : List String) (text : String) : Volume :=
  if (v.files.lookup p).isSome then
    { v with files := v.files.map fun (q, t) => if q == p then (q, text) else (q, t) }
  else { v with files := v.files ++ [(p, text)] }

/-- The volume with the directory `p` added. -/
def putDirectory (v : Volume) (p : List String) : Volume :=
  if v.directories.contains p then v else { v with directories := v.directories ++ [p] }

/-- Writes text to the file at a path, creating or replacing it. -/
def write (v : Volume) (path : String) (text : String) : Except OsError Volume :=
  match v.resolve path with
  | (.directory _, _) => .error .isADirectory
  | (.file p _, trailing) => if trailing then .error .notADirectory else .ok (v.putFile p text)
  | (.vacant parent name, trailing) =>
    if trailing then .error .isADirectory else .ok (v.putFile (parent ++ [name]) text)
  | (.broken e, _) => .error e

/-- Makes the directory at a path, whose parent must exist. -/
def makeDirectory (v : Volume) (path : String) : Except OsError Volume :=
  match v.resolve path with
  | (.directory _, _) | (.file .., _) => .error .alreadyExists
  | (.vacant parent name, _) => .ok (v.putDirectory (parent ++ [name]))
  | (.broken e, _) => .error e

/-- Makes the directory at a path and its missing ancestors, with `fuel` levels. -/
def createAll (v : Volume) (path : String) : (fuel : Nat) → Except OsError Volume
  | 0 => .error .notFound
  | fuel + 1 =>
    if path.isEmpty then .ok v
    else
      match v.makeDirectory path with
      | .ok v' => .ok v'
      | .error .notFound =>
        match parentPath path with
        | none => .error .notFound
        | some parent =>
          match v.createAll parent fuel with
          | .error e => .error e
          | .ok v' =>
            match v'.makeDirectory path with
            | .ok v'' => .ok v''
            | .error e => if v'.isDirectory path then .ok v' else .error e
      | .error e => if v.isDirectory path then .ok v else .error e

/-- Makes the directory at a path and its missing ancestors. -/
def createDirectories (v : Volume) (path : String) : Except OsError Volume :=
  v.createAll path (path.length + 1)

/-- The last name of `q` when `q` lies directly in the directory `p`. -/
def childName (p q : List String) : Option String :=
  if q.length == p.length + 1 && p.isPrefixOf q then q.getLast? else none

/-- The names directly in the directory `p`, each with whether it is a directory,
sorted by name. -/
def listing (v : Volume) (p : List String) : List (String × Bool) :=
  ((v.directories.filterMap (childName p)).map (·, true) ++
    (v.files.filterMap fun (q, _) => childName p q).map (·, false)).mergeSort
    fun a b => decide (a.1 ≤ b.1)

/-- The files below the directory `p`, relative to it, depth first in name order, with
`fuel` levels. -/
def walkFrom (v : Volume) (p : List String) : (fuel : Nat) → List (List String)
  | 0 => []
  | fuel + 1 => (v.listing p).flatMap fun (name, isDir) =>
    if isDir then (v.walkFrom (p ++ [name]) fuel).map (name :: ·) else [[name]]

/-- The files below the directory at a path, relative to it, depth first in name
order. -/
def walk (v : Volume) (path : String) : Except OsError (List (List String)) :=
  match v.resolve path with
  | (.directory p, _) => .ok (v.walkFrom p (v.directories.length + 1))
  | (.file .., _) => .error .notADirectory
  | (.vacant .., _) => .error .notFound
  | (.broken e, _) => .error e

/-- Runs a change that may fail on the volume in the state. -/
def change (f : Volume → Except OsError Volume) : StateM Volume (Except OsError Unit) := do
  match f (← get) with
  | .ok v => set v; return .ok ()
  | .error e => return .error e

/-- The command's file operations on the volume in the state, with `input` as the
standard input. -/
def host (input : String) : Host (StateM Volume) where
  isDirectory path := return (← get).isDirectory path
  readText path := return (← get).read path
  walk path := return (← get).walk path
  createDirectories path := change fun v => v.createDirectories path
  writeText path text := change fun v => v.write path text
  readInput := return input

/-- The volume after making each directory of `dirs` with the missing ones above it,
then writing each file of `files` after making the directories above it.  A step that
fails leaves the volume as it was, and the next step goes on from there. -/
def populate (v : Volume) (dirs : List String) (files : List (String × String)) : Volume :=
  let v := dirs.foldl (fun v d => (v.createDirectories d).toOption.getD v) v
  files.foldl (fun v (path, text) =>
    let v := match parentPath path with
      | some parent => (v.createDirectories parent).toOption.getD v
      | none => v
    (v.write path text).toOption.getD v) v

/-- Every file of the volume, its path's names joined with `/`, with its text. -/
def fileTexts (v : Volume) : List (String × String) :=
  v.files.map fun (p, text) => ("/".intercalate p, text)

end Volume

end TreeAssembly
