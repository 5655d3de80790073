import TreeAssembly.Cli.Host
import TreeAssembly.Cli.Options
import TreeAssembly.Builder.Replay
import TreeAssembly.Script
import TreeAssembly.Tree.ToJson
import TreeAssembly.Tree.ToOutline
import TreeAssembly.Json.Writer

/-!
# Running the command

The command replays event scripts and prints the trees they build.

1.  The output format is checked first: `json` or `debug`.
2.  The scripts are read: every `*.events` file below the input when it is a
    directory (reported by their paths relative to it, joined with `/`), else the input
    file, else the standard input (reported as `<stdin>`).  Reading stops at the first
    file that cannot be read or holds a malformed line.
3.  With `--check`, every script is replayed and reported on one line, as
    `P: ok (F functions, S services, C connectors, T structs)` or `P: error: E`.  When
    one failed, the report goes to the error stream and the command fails.
4.  Otherwise the scripts are replayed in order, stopping at the first that does not
    build, and the trees are rendered: as JSON, one tree, or for a directory one object
    keyed by path with its keys sorted at every level; or as debug outlines, each after a
    `// P` line for a directory.
5.  The text goes to the output file, after creating the directories above it, or to
    the standard output.

A failure is printed as `Error: context`, then its causes under `Caused by:`, numbered
from 0 when there is more than one; the command then exits with 1.  Builds that keep
constructor arguments log a warning each, kept beside the output.
-/

namespace TreeAssembly

/-- An error that ends the command: what failed, and why, cause by cause. -/
structure Failure where
  context : String
  causes : List String := []
  /-- Whether one more cause, a JSON reader's own explanation of a malformed line,
  stands after the others; its text is left out, but it counts when the causes are
  numbered. -/
  detailOmitted : Bool := false

namespace Failure

/-- A cause's text, its lines after the first indented under the first. -/
def indentCause (numbered : Bool) (text : String) : String :=
  (if numbered then "\n       " else "\n    ").intercalate (text.splitOn "\n")

/-- A cause's number, right-aligned in five places. -/
def causeNumber (n : Nat) : String :=
  let digits := toString n
  String.ofList (List.replicate (5 - digits.length) ' ') ++ digits

/-- The failure as printed on the error stream. -/
def text (f : Failure) : String :=
  let numbered := f.causes.length + (if f.detailOmitted then 1 else 0) ≥ 2
  let causes := f.causes.zipIdx.map fun (c, i) =>
    "\n" ++ (if numbered then causeNumber i ++ ": " else "    ") ++ indentCause numbered c
  "Error: " ++ f.context ++
    (if f.causes.isEmpty then "" else "\n\nCaused by:" ++ String.join causes) ++ "\n"

end Failure

/-- The output formats. -/
inductive Emit where
  | json
  | debug

/-- The output format of a name. -/
def Emit.ofName? (name : String) : Option Emit :=
  if name == "json" then some .json else if name == "debug" then some .debug else none

/-- A script read for the command: the path it is reported under, and its events. -/
structure LoadedScript where
  path : String
  events : List Event

/-- What the command has printed and logged so far. -/
structure Transcript where
  stdout : String := ""
  stderr : String := ""
  warnings : List Warning := []

/-- The text a warning is logged with, after the log's own prefix: the message, then
the location as written, the type's name quoted, and the number of arguments dropped.
A location whose file name holds a line break spreads the entry over several lines. -/
def Warning.logText (w : Warning) : String :=
  "constructor arguments are not supported yet, ignoring them location=" ++
    w.loc.display ++ " type_name=" ++ Outline.quote w.typeName ++ " count=" ++
    toString w.count

/-- What a run of the command leaves: its exit code, its two output streams, and the
warnings the builds logged, which come before the rest of the error stream. -/
structure Outcome where
  exitCode : Nat
  stdout : String := ""
  stderr : String := ""
  warnings : List Warning := []

/-- The command's steps: they print to a transcript and may fail. -/
abbrev CommandM (m : Type → Type) := ExceptT Failure (StateT Transcript m)

/-- The extension of a file name: the text after its last `.`, when something stands
before that dot. -/
def extension? (name : String) : Option String :=
  match (name.splitOn ".").reverse with
  | last :: rest@(_ :: _) => if (".".intercalate rest.reverse).isEmpty then none else some last
  | _ => none

/-- The line of the report for a unit that built. -/
def summary (u : CompilationUnit) : String :=
  toString u.functions.length ++ " functions, " ++ toString u.services.length ++
    " services, " ++ toString u.connectors.length ++ " connectors, " ++
    toString u.structs.length ++ " structs"

/-- The causes of a file that cannot be read. -/
def unreadable (e : OsError) : List String :=
  ["failed to read event script: " ++ e.display, e.display]

/-- JSON text: one tree, or the trees of a directory keyed by path, with the keys sorted
at every level and single-precision values widened. -/
def renderJson (built : List (String × CompilationUnit)) (keyed : Bool) : String :=
  if keyed then
    Json.pretty 0 (Json.object (built.map fun (p, u) => (p, TreeJson.unit
      { widenSingles := true } u))).sortKeys ++ "\n"
  else
    match built with
    | (_, u) :: _ => Json.pretty 0 (TreeJson.unit {} u) ++ "\n"
    | [] => "null\n"

/-- Debug outlines of the trees, each after its path for a directory. -/
def renderDebug (built : List (String × CompilationUnit)) (keyed : Bool) : String :=
  String.join (built.map fun (p, u) =>
    (if keyed then "// " ++ p ++ "\n" else "") ++ Outline.render 0 (TreeOutline.unit u) ++ "\n")

section Steps

variable {m : Type → Type} [Monad m]

/-- The events of a script's text, or the failure `context` at its first malformed
line; `label` is the script's name in the message. -/
def parseScript (context : String) (label : Option String) (text : String) :
    CommandM m (List Event) :=
  match Script.read text with
  | .ok events => pure events
  | .error line =>
    throw { context, detailOmitted := true,
            causes := ["malformed event on line " ++ toString line ++
              (label.map (" of " ++ ·)).getD ""] }

/-- The scripts below a directory. -/
def loadDirectory (host : Host m) (root : String) : CommandM m (List LoadedScript) := do
  let context := "failed to load event scripts under " ++ root
  match ← host.walk root with
  | .error e => throw { context, causes := unreadable e }
  | .ok files =>
    let scripts := files.filter fun rel => (rel.getLast?.bind extension?) == some "events"
    scripts.mapM fun rel => do
      let path := "/".intercalate rel
      match ← host.readText (root ++ "/" ++ path) with
      | .error e => throw { context, causes := unreadable e }
      | .ok text => return { path, events := ← parseScript context (some path) text }

/-- The scripts to replay, and whether they came from a directory. -/
def readScripts (host : Host m) : Option String → CommandM m (List LoadedScript × Bool)
  | some path => do
    if ← host.isDirectory path then return (← loadDirectory host path, true)
    else
      let context := "failed to read input file " ++ path
      match ← host.readText path with
      | .error e => throw { context, causes := unreadable e }
      | .ok text => return ([{ path, events := ← parseScript context (some path) text }], false)
  | none => do
    let text ← host.readInput
    return ([{ path := "<stdin>", events := ← parseScript "failed to parse stdin" none text }],
      false)

/-- Replays a script, logging the warnings of its build. -/
def replayScript (s : LoadedScript) : CommandM m (Except BuildError CompilationUnit) := do
  let rep := Replay.run .fresh s.events
  modify fun t => { t with warnings := t.warnings ++ rep.builder.warnings }
  return rep.outcome

/-- The report line of each script. -/
def reportLines : List LoadedScript → CommandM m (List (String × Bool))
  | [] => pure []
  | s :: rest => do
    let line ← match ← replayScript s with
      | .ok u => pure (s.path ++ ": ok (" ++ summary u ++ ")\n", true)
      | .error e => pure (s.path ++ ": error: " ++ e.display ++ "\n", false)
    return line :: (← reportLines rest)

/-- Replays every script and reports on each; fails, after printing the report on the
error stream, when one did not build. -/
def checkScripts (scripts : List LoadedScript) : CommandM m String := do
  let lines ← reportLines scripts
  let report := String.join (lines.map (·.1))
  let failed := (lines.filter fun l => !l.2).length
  if failed > 0 then
    modify fun t => { t with stderr := t.stderr ++ report }
    throw { context := toString failed ++ " of " ++ toString scripts.length ++ " scripts failed" }
  return report

/-- Builds the scripts in order, stopping at the first that fails. -/
def buildScripts : List LoadedScript → CommandM m (List (String × CompilationUnit))
  | [] => pure []
  | s :: rest => do
    match ← replayScript s with
    | .ok u => return (s.path, u) :: (← buildScripts rest)
    | .error e => throw { context := "failed to build " ++ s.path, causes := [e.display] }

/-- Writes the text to the output file, creating the directories above it, or prints it. -/
def writeOutput (host : Host m) : Option String → String → CommandM m Unit
  | none, text => modify fun t => { t with stdout := t.stdout ++ text }
  | some path, text => do
    let parent := (parentPath path).getD ""
    if !parent.isEmpty then
      match ← host.createDirectories parent with
      | .error e =>
        throw { context := "failed to create directory " ++ Outline.quote parent,
                causes := [e.display] }
      | .ok () => pure ()
    match ← host.writeText path text with
    | .error e => throw { context := "failed to write output file " ++ path, causes := [e.display] }
    | .ok () => pure ()

/-- The command's work for the given options. -/
def execute (host : Host m) (o : Options) : CommandM m Unit := do
  let some emit := Emit.ofName? o.emit
    | throw { context := "unsupported emit format: " ++ o.emit }
  let (scripts, keyed) ← readScripts host o.input
  if o.check then
    writeOutput host o.output (← checkScripts scripts)
  else
    let built ← buildScripts scripts
    writeOutput host o.output <| match emit with
      | .json => renderJson built keyed
      | .debug => renderDebug built keyed

/-- Runs the command with its arguments on a host. -/
def runCommand (host : Host m) (args : List String) : m Outcome := do
  match Request.parse args with
  | .error r => return { exitCode := 2, stderr := r.text }
  | .ok .help => return { exitCode := 0, stdout := helpText }
  | .ok .version => return { exitCode := 0, stdout := versionText }
  | .ok (.run o) =>
    let (result, t) ← (execute host o).run.run {}
    match result with
    | .ok () => return { exitCode := 0, stdout := t.stdout, stderr := t.stderr, warnings := t.warnings }
    | .error f =>
      return { exitCode := 1, stdout := t.stdout, stderr := t.stderr ++ f.text,
               warnings := t.warnings }

end Steps

end TreeAssembly
