import TreeAssembly.Json.Value

/-!
# Writing JSON text

Two layouts of the same value: compact, with no blanks at all, and pretty, with one
field or item per line, indented by two spaces a level, a blank after each colon, and
empty arrays and objects written `[]` and `{}`.

In a string, the quote and the backslash are escaped, the control characters below
U+0020 are written `\b`, `\t`, `\n`, `\f`, `\r` or `\u00XX` with lower-case hex digits,
and every other character is written as it is.
-/

namespace TreeAssembly
namespace Json

/-- The lower-case hex digit of a number below 16. -/
def hexChar (n : Nat) : Char :=
  if n < 10 then Char.ofNat ('0'.toNat + n) else Char.ofNat ('a'.toNat + n - 10)

/-- One character of a string's text, escaped as needed. -/
def escapeChar (c : Char) : String :=
  if c == '"' then "\\\""
  else if c == '\\' then "\\\\"
  else if c == '\n' then "\\n"
  else if c == '\r' then "\\r"
  else if c == '\t' then "\\t"
  else if c.toNat == 8 then "\\b"
  else if c.toNat == 12 then "\\f"
  else if c.toNat < 0x20 then
    String.ofList ['\\', 'u', '0', '0', hexChar (c.toNat / 16), hexChar (c.toNat % 16)]
  else String.singleton c

/-- A string in quotes, escaped. -/
def quote (s : String) : String :=
  "\"" ++ String.join (s.toList.map escapeChar) ++ "\""

mutual

/-- The compact text of a value. -/
def compact : Json → String
  | null => "null"
  | bool b => if b then "true" else "false"
  | number n => n
  | string s => quote s
  | array items => "[" ++ compactItems items ++ "]"
  | object fields => "\x7b" ++ compactFields fields ++ "\x7d"

/-- The compact items of an array, comma-separated. -/
def compactItems : List Json → String
  | [] => ""
  | [v] => compact v
  | v :: rest => compact v ++ "," ++ compactItems rest

/-- The compact fields of an object, comma-separated. -/
def compactFields : List (String × Json) → String
  | [] => ""
  | [(k, v)] => quote k ++ ":" ++ compact v
  | (k, v) :: rest => quote k ++ ":" ++ compact v ++ "," ++ compactFields rest

end

/-- The indentation of a nesting level. -/
def indent (level : Nat) : String := String.ofList (List.replicate (2 * level) ' ')

mutual

/-- The pretty text of a value at nesting `level`. -/
def pretty (level : Nat) : Json → String
  | array [] => "[]"
  | object [] => "\x7b\x7d"
  | array items => "[\n" ++ prettyItems (level + 1) items ++ "\n" ++ indent level ++ "]"
  | object fields => "\x7b\n" ++ prettyFields (level + 1) fields ++ "\n" ++ indent level ++ "\x7d"
  | v => compact v

/-- The items of an array, one per line. -/
def prettyItems (level : Nat) : List Json → String
  | [] => ""
  | [v] => indent level ++ pretty level v
  | v :: rest => indent level ++ pretty level v ++ ",\n" ++ prettyItems level rest

/-- The fields of an object, one per line. -/
def prettyFields (level : Nat) : List (String × Json) → String
  | [] => ""
  | [(k, v)] => indent level ++ quote k ++ ": " ++ pretty level v
  | (k, v) :: rest => indent level ++ quote k ++ ": " ++ pretty level v ++ ",\n" ++ prettyFields level rest

end

mutual

/-- The value with every object's fields sorted by key, as a sorted map holds them. -/
def sortKeys : Json → Json
  | array items => array (sortItems items)
  | object fields =>
    object ((sortFieldValues fields).mergeSort fun a b => decide (a.1 ≤ b.1))
  | v => v

/-- Sorts the keys inside each item. -/
def sortItems : List Json → List Json
  | [] => []
  | v :: rest => sortKeys v :: sortItems rest

/-- Sorts the keys inside each field's value. -/
def sortFieldValues : List (String × Json) → List (String × Json)
  | [] => []
  | (k, v) :: rest => (k, sortKeys v) :: sortFieldValues rest

end

mutual

/-- The value with each object keeping only the last of its fields of one name, where
that name first occurred: the view of a reader that lets a repeated key overwrite. -/
def lastWins : Json → Json
  | array items => array (lastWinsItems items)
  | object fields => object (dedupe (lastWinsFields fields))
  | v => v
where
  dedupe (fields : List (String × Json)) : List (String × Json) :=
    let keys := (fields.map (·.1)).eraseDups
    keys.filterMap fun k => (fields.reverse.find? (·.1 == k))

/-- Applies `lastWins` to each item. -/
def lastWinsItems : List Json → List Json
  | [] => []
  | v :: rest => lastWins v :: lastWinsItems rest

/-- Applies `lastWins` to each field's value. -/
def lastWinsFields : List (String × Json) → List (String × Json)
  | [] => []
  | (k, v) :: rest => (k, lastWins v) :: lastWinsFields rest

end

end Json
end TreeAssembly
