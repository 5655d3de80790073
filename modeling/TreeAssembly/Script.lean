import TreeAssembly.Event.Decode
import TreeAssembly.Json.Reader
import TreeAssembly.Text.Blank

/-!
# Event scripts

An event script is the recorded output of a parser: one JSON event per line.  Lines end
at a line feed, and a carriage return just before it belongs to the line break; a last
line without a line break still counts, and an empty text has no lines.  Each line is
trimmed of blanks (`Text.isBlank`); an empty line, or one starting with `#`, is skipped.
Every other line must hold exactly one event.  Lines are numbered from 1, skipped lines
included, and the first line that holds no event is reported by its number.

The reading of one line into an event is a parameter of `readWith`, so that the line format
stands apart from the event format; `read` reads lines with `decodeLine`, one JSON event.
-/

namespace TreeAssembly
namespace Script

/-- The text without a final carriage return. -/
def dropReturn (p : String) : String :=
  if p.endsWith "\r" then String.ofList p.toList.dropLast else p

/-- The lines of a text: split at line feeds, a carriage return just before a line feed
belonging to the line break; the text after the last line feed is a line unless it is
empty. -/
def lines (s : String) : List String :=
  let pieces := (s.toList.splitOn '\n').map String.ofList
  let last := pieces.getLast?.getD ""
  pieces.dropLast.map dropReturn ++ (if last.isEmpty then [] else [last])

/-- Whether a trimmed line carries no event. -/
def skipped (line : String) : Bool :=
  line.isEmpty || line.startsWith "#"

/-- The event a trimmed line holds, if it holds exactly one. -/
def decodeLine (line : String) : Option Event :=
  (Json.parse? line).bind Event.ofJson?

/-- Reads the events of numbered lines with `decode`, or the number of the first line that
holds no event. -/
def readLines (decode : String → Option Event) : List (String × Nat) → Except Nat (List Event)
  | [] => .ok []
  | (line, n) :: rest =>
    let line := Text.trim line
    if skipped line then readLines decode rest
    else
      match decode line with
      | some e => (readLines decode rest).map (e :: ·)
      | none => .error n

/-- Reads a script's events with `decode`, or the number of its first malformed line. -/
def readWith (decode : String → Option Event) (s : String) : Except Nat (List Event) :=
  readLines decode ((lines s).zipIdx 1)

/-- Reads a script's events, one JSON event a line, or the number of its first malformed
line. -/
def read (s : String) : Except Nat (List Event) :=
  readWith decodeLine s

end Script
end TreeAssembly
