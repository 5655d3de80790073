/-!
# The command's arguments

The command takes four options: `-i`/`--input PATH` (a script, or a directory of
scripts), `-o`/`--output PATH`, `--emit FORMAT` (`json` unless given) and the flag
`--check`; `-h`/`--help` and `-V`/`--version` print the help and the version.

Arguments are read from left to right:

* `--name=value` gives a value inline, `--name` takes the next argument as its value
  unless that argument looks like an option (`--…` or `-x…`, but not `-` alone);
* `-x…` is a cluster of short options: a short option that takes a value takes the
  rest of the cluster (after one optional `=`), or else the next argument; a short flag
  lets the cluster go on;
* after `--` every argument is stray, and an option still waiting for its value goes on
  waiting;
* an option's value is settled when the next option is met or the arguments end, and
  only then is a missing value or a repeated option refused; an unknown option and a
  stray argument are refused at once.

A refusal is printed on the error stream with a usage line and a pointer to `--help`.
The usage line is the general `weft [OPTIONS]` but for two refusals, whose usage names
what was given.  An unknown long option shows the options matched so far, once the
pending one is settled as far as it goes, and the known option closest to it when one is
similar enough (Jaro similarity above 0.7), which also comes as a tip.  A value given
inline to a flag shows the flag, after the group of the command's own options when one
of them was matched before.
-/

namespace TreeAssembly

/-- What the command is asked to do. -/
structure Options where
  /-- The script or directory to read; the standard input when absent. -/
  input : Option String := none
  /-- The file to write; the standard output when absent. -/
  output : Option String := none
  /-- The output format's name. -/
  emit : String := "json"
  /-- Only replay the scripts and report on each. -/
  check : Bool := false
  deriving Inhabited

/-- An option the command knows. -/
inductive Flag where
  | input
  | output
  | emit
  | check
  | help
  | version
  deriving DecidableEq, Repr

namespace Flag

/-- All options, in the order of the help text. -/
def all : List Flag := [input, output, emit, check, help, version]

/-- The long name. -/
def long : Flag → String
  | input => "input"
  | output => "output"
  | emit => "emit"
  | check => "check"
  | help => "help"
  | version => "version"

/-- The short name, if any. -/
def short? : Flag → Option Char
  | input => some 'i'
  | output => some 'o'
  | help => some 'h'
  | version => some 'V'
  | _ => none

/-- The name of the value, for the options that take one. -/
def valueName? : Flag → Option String
  | input => some "INPUT"
  | output => some "OUTPUT"
  | emit => some "FORMAT"
  | _ => none

/-- Whether the option is one of the command's own, which form one group; help and
version are the parser's. -/
def inGroup : Flag → Bool
  | help | version => false
  | _ => true

/-- Whether the option takes a value. -/
def takesValue (f : Flag) : Bool := f.valueName?.isSome

/-- How messages name the option: `--input <INPUT>`, `--check`. -/
def display (f : Flag) : String :=
  "--" ++ f.long ++ match f.valueName? with
    | some v => " <" ++ v ++ ">"
    | none => ""

/-- The option with a long name. -/
def ofLong? (name : String) : Option Flag := all.find? (·.long == name)

/-- The option with a short name. -/
def ofShort? (c : Char) : Option Flag := all.find? (·.short? == some c)

end Flag

/-- The usage shown when nothing more is known, after `Usage: `. -/
def generalUsage : String := "weft [OPTIONS]"

/-- The usage line. -/
def usageLine : String := "Usage: " ++ generalUsage

/-- Arguments the command refuses, with the message to print. -/
structure Refusal where
  message : String
  /-- A hint shown under the message. -/
  tip : Option String := none
  /-- The usage shown under the message, after `Usage: `, if any. -/
  usage : Option String := some generalUsage

/-- The text of a refusal, as printed on the error stream. -/
def Refusal.text (r : Refusal) : String :=
  "error: " ++ r.message ++
    (match r.tip with
      | some t => "\n\n  tip: " ++ t
      | none => "") ++
    (match r.usage with
      | some u => "\n\nUsage: " ++ u
      | none => "") ++
    "\n\nFor more information, try '--help'.\n"

/-- The help text. -/
def helpText : String :=
  "Replays recorded construction events and prints the built program tree\n\n" ++
  usageLine ++ "\n\n" ++
  "Options:\n" ++
  "  -i, --input <INPUT>    Event script or directory of *.events files (defaults to stdin)\n" ++
  "  -o, --output <OUTPUT>  Output file (defaults to stdout)\n" ++
  "      --emit <FORMAT>    Output format: json, debug [default: json]\n" ++
  "      --check            Only replay the scripts and print one summary line each\n" ++
  "  -h, --help             Print help\n" ++
  "  -V, --version          Print version\n"

/-- The version text: the package's name and version. -/
def versionText : String := "weft-cli 0.1.0\n"

/-- What the arguments ask for. -/
inductive Request where
  /-- Run with these options. -/
  | run (options : Options)
  /-- Print the help text. -/
  | help
  /-- Print the version. -/
  | version
  deriving Inhabited

/-- The group of the command's own options, as usage shows it:
`<--input <INPUT>|--output <OUTPUT>|--emit <FORMAT>|--check>`. -/
def groupDisplay : String :=
  "<" ++ "|".intercalate ((Flag.all.filter Flag.inGroup).map Flag.display) ++ ">"

/-- The usage shown for arguments given so far: the general usage when there are none,
else the command's name, then each given argument that the group does not cover, in the
order first given, then the group when it was given. -/
def usageOf (given : List Flag) (group : Bool) : String :=
  if given.isEmpty && !group then generalUsage
  else
    let single := given.foldl (fun acc f =>
      if acc.contains f || (group && f.inGroup) then acc else acc ++ [f]) []
    " ".intercalate ("weft" :: single.map Flag.display ++ if group then [groupDisplay] else [])

/-- The characters of `a` that match characters of `b` within the search window, and
the characters of `b` so matched, both in order. -/
def jaroMatched (a b : List Char) : List Char × List Char :=
  let window := max a.length b.length / 2 - 1
  let step := fun ((taken, acc) : List Bool × List Char) ((c, i) : Char × Nat) =>
    let lo := i - window
    let hi := min b.length (i + window + 1)
    match (List.range hi).find? fun j => lo ≤ j && b[j]? == some c && taken[j]? == some false with
    | some j => (taken.set j true, acc ++ [c])
    | none => (taken, acc)
  let (taken, matchedA) := a.zipIdx.foldl step (List.replicate b.length false, [])
  (matchedA, (b.zip taken).filterMap fun (c, t) => if t then some c else none)

/-- The Jaro similarity of two words, computed in double precision. -/
def jaro (a b : String) : Float :=
  let (ma, mb) := jaroMatched a.toList b.toList
  let m := ma.length
  let t := ((ma.zip mb).filter fun (x, y) => x != y).length / 2
  if a.isEmpty && b.isEmpty then 1
  else if m == 0 then 0
  else (m.toFloat / a.length.toFloat + m.toFloat / b.length.toFloat +
    (m - t).toFloat / m.toFloat) / 3

/-- The known long name most similar to `name`, when the similarity is above 0.7; of
equally similar names the later one. -/
def closestLong? (name : String) : Option String :=
  let step := fun (best : Option (String × Float)) (cand : String) =>
    let s := jaro name cand
    if s > 0.7 then
      match best with
      | some (_, bs) => if s < bs then best else some (cand, s)
      | none => some (cand, s)
    else best
  ((Flag.all.map Flag.long).foldl step none).map (·.1)

/-- The refusal of an unknown or stray argument. -/
def unexpected (arg : String) (tip : Option String := none) : Refusal :=
  { message := "unexpected argument '" ++ arg ++ "' found", tip }

/-- The progress of reading the arguments. -/
structure ArgState where
  options : Options := {}
  /-- The options matched so far, in the order first met. -/
  seen : List Flag := []
  /-- Whether one of the command's own options has been matched, and with it their
  group. -/
  grouped : Bool := false
  /-- An option met without an inline value, with the value found for it so far. -/
  pending : Option (Flag × Option String) := none
  /-- Whether `--` has been met. -/
  escaped : Bool := false

namespace ArgState

/-- Matches an option once more: a repeated option is refused, and it no longer counts
as matched. -/
def matchFlag (st : ArgState) (f : Flag) : ArgState × Option Refusal :=
  if st.seen.contains f then
    ({ st with seen := st.seen.erase f },
      some { message := "the argument '" ++ f.display ++ "' cannot be used multiple times" })
  else ({ st with seen := st.seen ++ [f], grouped := st.grouped || f.inGroup }, none)

/-- Records an option's value, or refuses a repeated option. -/
def assign (st : ArgState) (f : Flag) (value : String) : ArgState × Option Refusal :=
  match st.matchFlag f with
  | (st, some r) => (st, some r)
  | (st, none) =>
    let o := st.options
    let o := match f with
      | .input => { o with input := some value }
      | .output => { o with output := some value }
      | .emit => { o with emit := value }
      | _ => o
    ({ st with options := o }, none)

/-- Settles the pending option as far as it goes: the state after, and the refusal when
it has no value or repeats an option. -/
def resolve (st : ArgState) : ArgState × Option Refusal :=
  match st.pending with
  | none => (st, none)
  | some (f, none) =>
    ({ st with pending := none },
      some { message := "a value is required for '" ++ f.display ++ "' but none was supplied"
             usage := none })
  | some (f, some v) => { st with pending := none }.assign f v

/-- Settles the pending option, failing with its refusal. -/
def settle (st : ArgState) : Except Refusal ArgState :=
  match st.resolve with
  | (st, none) => .ok st
  | (_, some r) => .error r

/-- Meets a flag that takes no value: `--check`, `--help` or `--version`. -/
def flag (st : ArgState) (f : Flag) : Except Refusal (ArgState ⊕ Request) := do
  let st ← st.settle
  match f with
  | .help => return .inr .help
  | .version => return .inr .version
  | _ =>
    match st.matchFlag f with
    | (st, none) => return .inl { st with options := { st.options with check := true } }
    | (_, some r) => throw r

/-- Meets an option that takes a value, with its inline value if any. -/
def option (st : ArgState) (f : Flag) (value : Option String) : Except Refusal ArgState := do
  let st ← st.settle
  match value with
  | some v =>
    match st.assign f v with
    | (st, none) => return st
    | (_, some r) => throw r
  | none => return { st with pending := some (f, none) }

/-- Meets a cluster of short options, the characters after `-`. -/
def shorts (st : ArgState) : List Char → Except Refusal (ArgState ⊕ Request)
  | [] => .ok (.inl st)
  | c :: rest =>
    match Flag.ofShort? c with
    | none => .error (unexpected ("-" ++ String.singleton c))
    | some f =>
      if f.takesValue then
        let value := match rest with
          | [] => none
          | '=' :: v => some (String.ofList v)
          | v => some (String.ofList v)
        (st.option f value).map .inl
      else
        match st.flag f with
        | .ok (.inl st) => shorts st rest
        | other => other

/-- Refuses an unknown long option.  The pending option is settled first, whatever comes
of it; the usage names the options matched then, with the suggested one, if any. -/
def unknownLong (st : ArgState) (name : String) : Refusal :=
  let st := st.resolve.1
  let suggestion := closestLong? name
  let given := match suggestion.bind Flag.ofLong? with
    | some f => if st.seen.contains f then st.seen else st.seen ++ [f]
    | none => st.seen
  { unexpected ("--" ++ name) (suggestion.map fun c => "a similar argument exists: '--" ++ c ++ "'")
    with usage := some (usageOf given false) }

/-- Meets a long option, the text after `--`. -/
def longOption (st : ArgState) (body : String) : Except Refusal (ArgState ⊕ Request) :=
  let name := (body.splitOn "=").headD ""
  let value := if body.contains '=' then some (body.drop (name.length + 1)).toString else none
  match Flag.ofLong? name with
  | none => .error (st.unknownLong name)
  | some f =>
    if f.takesValue then (st.option f value).map .inl
    else
      match value with
      | some v =>
        .error
          { message := "unexpected value '" ++ v ++ "' for '" ++ f.display ++
              "' found; no more were expected"
            usage := some (usageOf (st.seen ++ [f]) st.grouped) }
      | none => st.flag f

/-- Meets an argument that is a value: the pending option's, or a stray one.  After
`--` every argument is stray. -/
def value (st : ArgState) (arg : String) : Except Refusal ArgState :=
  match st.escaped, st.pending with
  | false, some (f, none) => .ok { st with pending := some (f, some arg) }
  | _, _ => .error (unexpected arg)

/-- Whether an argument looks like an option. -/
def looksLikeOption (arg : String) : Bool := arg.startsWith "-" && arg.length ≥ 2

/-- Reads the remaining arguments. -/
def read (st : ArgState) : List String → Except Refusal Request
  | [] => do
    let st ← st.settle
    return .run st.options
  | arg :: rest =>
    if st.escaped || !looksLikeOption arg then
      match st.value arg with
      | .ok st => read st rest
      | .error e => .error e
    else if arg == "--" then read { st with escaped := true } rest
    else
      let step :=
        if arg.startsWith "--" then st.longOption (arg.drop 2).toString
        else st.shorts (arg.drop 1).toString.toList
      match step with
      | .ok (.inr request) => .ok request
      | .ok (.inl st) => read st rest
      | .error e => .error e

end ArgState

/-- Reads the command's arguments. -/
def Request.parse (args : List String) : Except Refusal Request := ArgState.read {} args

end TreeAssembly
