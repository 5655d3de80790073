import TreeAssembly.Text.Printable
import TreeAssembly.Json.Writer

/-!
# Outlines

An outline shows a value's structure for a person debugging it: records as
`Name { field: value, … }`, constructors with data as `Name(value, …)`, lists as
`[item, …]`, and everything else as a word or a number.  In the expanded layout every
field and item stands on a line of its own, indented four spaces deeper than its
container, and followed by a comma; an empty list is `[]`.

Text is quoted with `"`; inside the quotes a quote, a backslash, a tab, a line feed, a
carriage return and NUL are escaped with a backslash, and every other character that is
not printable or that extends a grapheme is written `\u{hex}`.  Paths are quoted the
same way.
-/

namespace TreeAssembly

/-- A value's structure, for the debug outline. -/
inductive Outline where
  /-- A word or number, written as it is. -/
  | atom (text : String)
  /-- A record with named fields. -/
  | record (name : String) (fields : List (String × Outline))
  /-- A constructor with data. -/
  | tuple (name : String) (items : List Outline)
  /-- A list. -/
  | list (items : List Outline)
  deriving Inhabited

namespace Outline

/-- One character of quoted text. -/
def escapeChar (c : Char) : String :=
  if c == '"' then "\\\""
  else if c == '\\' then "\\\\"
  else if c == '\t' then "\\t"
  else if c == '\n' then "\\n"
  else if c == '\r' then "\\r"
  else if c.toNat == 0 then "\\0"
  else if Text.isGraphemeExtender c || !Text.isPrintable c then
    "\\u\x7b" ++ String.ofList (Nat.toDigits 16 c.toNat) ++ "\x7d"
  else String.singleton c

/-- Text in quotes, escaped. -/
def quote (s : String) : String :=
  "\"" ++ String.join (s.toList.map escapeChar) ++ "\""

/-- A quoted text. -/
def text (s : String) : Outline := atom (quote s)

/-- An optional value: `Some(value)` or `None`. -/
def opt {α : Type} (f : α → Outline) : Option α → Outline
  | some a => tuple "Some" [f a]
  | none => atom "None"

/-- A flag. -/
def flag (b : Bool) : Outline := atom (if b then "true" else "false")

/-- The indentation of a nesting level. -/
def indent (level : Nat) : String := String.ofList (List.replicate (4 * level) ' ')

mutual

/-- The expanded layout of an outline at nesting `level`. -/
def render (level : Nat) : Outline → String
  | atom t => t
  | record name fields =>
    name ++ " \x7b\n" ++ renderFields (level + 1) fields ++ indent level ++ "\x7d"
  | tuple name items => name ++ "(\n" ++ renderItems (level + 1) items ++ indent level ++ ")"
  | list [] => "[]"
  | list items => "[\n" ++ renderItems (level + 1) items ++ indent level ++ "]"

/-- Fields, one per line, each followed by a comma. -/
def renderFields (level : Nat) : List (String × Outline) → String
  | [] => ""
  | (k, v) :: rest => indent level ++ k ++ ": " ++ render level v ++ ",\n" ++ renderFields level rest

/-- Items, one per line, each followed by a comma. -/
def renderItems (level : Nat) : List Outline → String
  | [] => ""
  | v :: rest => indent level ++ render level v ++ ",\n" ++ renderItems level rest

end

end Outline

end TreeAssembly
