import TreeAssembly.Builder.Run

/-!
# Replaying builds

A replay drives a fresh builder, over a given registry, through a list of events and
then finishes it.  It reports each event's outcome, the builder as the events left it
(its registry answers look-ups), and the finished unit with the registry or the error.

Builds can follow one another over one registry: each takes the registry that the
previous build handed back, or a fresh one when the previous build failed; a build may
ask for the registry to be reset first.
-/

namespace TreeAssembly

/-- What one replay reports. -/
structure Replay where
  outcomes : List (Except BuildError Nat)
  builder : Builder
  result : Except BuildError (CompilationUnit × Registry)

namespace Replay

/-- Replays events on a builder over the registry `r`. -/
def run (r : Registry) (events : List Event) : Replay :=
  let (b, outcomes) := (Builder.withRegistry r).applyAll events
  { outcomes, builder := b, result := b.finish }

/-- The first failing event: its position and its error. -/
def firstFailure? (rep : Replay) : Option (Nat × BuildError) :=
  (rep.outcomes.zipIdx.find? fun (o, _) => o matches .error _).bind fun
    | (.error err, i) => some (i, err)
    | _ => none

/-- The outcome of a build that stops at the first failing event: that event's error,
or else the finished unit or what is left pending. -/
def outcome (rep : Replay) : Except BuildError CompilationUnit :=
  match rep.firstFailure? with
  | some (_, err) => .error err
  | none => rep.result.map (·.1)

/-- The registry the next build starts from: the one this build handed back, or a fresh
one when it failed. -/
def nextRegistry (rep : Replay) : Registry :=
  match rep.result with
  | .ok (_, r) => r
  | .error _ => .fresh

end Replay

/-- Replays builds in sequence; each entry says whether to reset the registry first. -/
def Replay.chain (r : Registry) : List (Bool × List Event) → List Replay
  | [] => []
  | (reset, events) :: rest =>
    let rep := Replay.run (if reset then r.reset else r) events
    rep :: Replay.chain rep.nextRegistry rest

end TreeAssembly
